import Mathlib.Data.List.Nodup
import PersonaRuntime.OwnerLab.VoiceCommandScheduler

namespace VoiceCommandScheduler

open PlaybackAwareCommandScheduler

variable {T : Type} {s s' : PlaybackAwareCommandScheduler T} {t o : List (SchedulerSeen T)} {e : SchedulerEvent T}

-- What a step does, with what it found.
inductive Moves (s : PlaybackAwareCommandScheduler T) :
    SchedulerEvent T → PlaybackAwareCommandScheduler T → List (SchedulerSeen T) → Prop
  | dispatch (command : T) : Moves s (.dispatch command) (s.dispatch command) [.dispatched s.dispatched command]
  | stale {d queueTail} (idle : s.running = none) (queue : s.queueTail = d :: queueTail)
      (stale : d.generation ≠ s.generation) :
      Moves s .run { s with queueTail } [.settled d.id (.sent false)]
  | send {d queueTail} (idle : s.running = none) (queue : s.queueTail = d :: queueTail)
      (fresh : d.generation = s.generation) :
      Moves s .run { s with queueTail, currentPlayback := some d.id, running := some ⟨d, .send .pending, false⟩ }
        [.send d.id d.command]
  | settle {d released} (fulfilled : Bool) (running : s.running = some ⟨d, .send .pending, released⟩) :
      Moves s (.settle fulfilled)
        { s with running := some ⟨d, .send (if fulfilled then .fulfilled else .rejected), released⟩ }
        [.sendSettled d.id fulfilled]
  | overtaken {d released} (running : s.running = some ⟨d, .send .fulfilled, released⟩)
      (stale : d.generation ≠ s.generation) :
      Moves s .resume
        { s with
          currentPlayback := if s.currentPlayback = some d.id then none else s.currentPlayback
          running         := none }
        [.settled d.id (.sent false)]
  | sent {d released} (running : s.running = some ⟨d, .send .fulfilled, released⟩)
      (fresh : d.generation = s.generation) :
      Moves s .resume { s with running := some ⟨d, .playback, released⟩ } [.settled d.id (.sent true)]
  | caught {d released} (running : s.running = some ⟨d, .send .rejected, released⟩) :
      Moves s .resume (s.caught ⟨d, .send .rejected, released⟩).1 [.settled d.id .error]
  | returned {d} (running : s.running = some ⟨d, .playback, true⟩) : Moves s .resume { s with running := none } []
  | nothingDone (current : s.currentPlayback = none) : Moves s .playbackDone s []
  | done {id} (current : s.currentPlayback = some id) :
      Moves s .playbackDone
        { s with
          currentPlayback := none
          pendingCommands := if s.pendingCommands > 0 then s.pendingCommands - 1 else s.pendingCommands
          running         := s.releaseBarrier id }
        [.playbackDone id]
  | interrupt : Moves s .interrupt s.interrupt [.interrupted]

theorem step_moves (h : (scheduler T).step s e = some (s', o)) : Moves s e s' o := by
  cases e
  case dispatch command =>
    obtain ⟨rfl, rfl⟩ := by simpa [scheduler] using h
    exact .dispatch command
  case run =>
    simp only [scheduler] at h
    cases hr : s.running <;> cases hq : s.queueTail <;> simp only [hr, hq] at h <;> try cases h
    case none.cons d queueTail =>
      by_cases hg : d.generation = s.generation
      case pos =>
        simp only [run, hg, ne_eq, not_true, if_false, Option.some.injEq, Prod.mk.injEq] at h
        obtain ⟨rfl, rfl⟩ := h
        exact .send hr hq hg
      case neg =>
        simp only [run, hg, ne_eq, not_false_eq_true, if_true, Option.some.injEq, Prod.mk.injEq] at h
        obtain ⟨rfl, rfl⟩ := h
        exact .stale hr hq hg
  case settle fulfilled =>
    simp only [scheduler] at h
    split at h
    case h_1 hr =>
      obtain ⟨rfl, rfl⟩ := by simpa using h
      exact .settle fulfilled hr
    case h_2 => cases h
  case resume =>
    obtain ⟨⟨d, awaiting, released⟩, hr, h⟩ := Option.bind_eq_some_iff.mp h
    obtain (promise | -) := awaiting
    case send =>
      cases promise <;> simp only [resume, Option.some.injEq] at h
      case pending => cases h
      case fulfilled =>
        by_cases hg : d.generation = s.generation
        case pos =>
          simp only [afterSend, hg, ne_eq, not_true, if_false, Prod.mk.injEq] at h
          obtain ⟨rfl, rfl⟩ := h
          exact .sent hr hg
        case neg =>
          simp only [afterSend, hg, ne_eq, not_false_eq_true, if_true, Prod.mk.injEq] at h
          obtain ⟨rfl, rfl⟩ := h
          exact .overtaken hr hg
      case rejected =>
        simp only [PlaybackAwareCommandScheduler.caught, Prod.mk.injEq] at h
        obtain ⟨rfl, rfl⟩ := h
        exact .caught hr
    case playback =>
      simp only [resume] at h
      cases released
      case false => cases h
      case true =>
        obtain ⟨rfl, rfl⟩ := by simpa using h
        exact .returned hr
  case playbackDone =>
    simp only [scheduler, PlaybackAwareCommandScheduler.playbackDone, Option.some.injEq] at h
    split at h
    case h_1 hc =>
      obtain ⟨rfl, rfl⟩ := by simpa using h
      exact .nothingDone hc
    case h_2 hc =>
      obtain ⟨rfl, rfl⟩ := by simpa using h
      exact .done hc
  case interrupt =>
    obtain ⟨rfl, rfl⟩ := by simpa [scheduler] using h
    exact .interrupt

section Counting

def outlast (outstanding : List Nat) : SchedulerSeen T → List Nat
  | .dispatched id _                   => outstanding ++ [id]
  | .interrupted                       => []
  | .playbackDone id                   => outstanding.filter (· ≠ id)
  | .settled id .error                 => outstanding.filter (· ≠ id)
  | .settled _ (.sent _)               => outstanding
  | .send _ _ | .sendSettled _ _       => outstanding

-- The commands that were dispatched since the last interrupt and that are neither failed nor ended
-- by `playbackDone`.
def outstanding (t : List (SchedulerSeen T)) : List Nat :=
  t.foldl outlast []

@[simp]
theorem outstanding_snoc (t : List (SchedulerSeen T)) (x : SchedulerSeen T) :
    outstanding (t ++ [x]) = outlast (outstanding t) x := by
  simp [outstanding]

def fresh (generation : Nat) (queue : List (Dispatch T)) : List Nat :=
  (queue.filter (·.generation = generation)).map Dispatch.id

-- The dispatches whose runs have not returned.
def unreturned (running : Option (Running T)) (queue : List (Dispatch T)) : List Nat :=
  running.toList.map (·.dispatch.id) ++ queue.map Dispatch.id

variable {generation id : Nat} {queue : List (Dispatch T)} {d : Dispatch T} {r : Running T}

theorem fresh_cons (h : d.generation = generation) :
    fresh generation (d :: queue) = d.id :: fresh generation queue := by
  simp [fresh, h]

theorem fresh_cons_stale (h : d.generation ≠ generation) : fresh generation (d :: queue) = fresh generation queue := by
  simp [fresh, h]

theorem fresh_append (h : d.generation = generation) :
    fresh generation (queue ++ [d]) = fresh generation queue ++ [d.id] := by
  simp [fresh, h]

theorem fresh_next (h : ∀ d ∈ queue, d.generation ≤ generation) : fresh (generation + 1) queue = [] := by
  have hf : queue.filter (·.generation = generation + 1) = [] := by
    rw [List.filter_eq_nil_iff]
    intro d hd
    have := h d hd
    simp
    omega
  rw [fresh, hf, List.map_nil]

theorem filter_fresh (generation : Nat) (h : ∀ d ∈ queue, id < d.id) :
    (fresh generation queue).filter (· ≠ id) = fresh generation queue := by
  rw [List.filter_eq_self]
  intro x hx
  obtain ⟨d, hd, rfl⟩ := List.mem_map.mp hx
  have := h d (List.mem_of_mem_filter hd)
  simp
  omega

theorem lt_of_unreturned (h : (unreturned (some r) queue).Pairwise (· < ·)) : ∀ d ∈ queue, r.dispatch.id < d.id := by
  intro d hd
  exact List.rel_of_pairwise_cons h (List.mem_map_of_mem hd)

structure Counted (t : List (SchedulerSeen T)) (s : PlaybackAwareCommandScheduler T) : Prop where
  outstanding : outstanding t = s.currentPlayback.toList ++ fresh s.generation s.queueTail
  ordered     : (unreturned s.running s.queueTail).Pairwise (· < ·)
  bounded     : ∀ id ∈ unreturned s.running s.queueTail, id < s.dispatched
  generation  : ∀ d ∈ s.queueTail, d.generation ≤ s.generation
  current     : ∀ id ∈ s.currentPlayback,
    ∃ d awaiting, s.running = some ⟨d, awaiting, false⟩ ∧ d.id = id ∧ d.generation = s.generation

-- Nothing is played outside of a run.
theorem Counted.current_none (h : Counted t s) (hr : s.running = none) : s.currentPlayback = none := by
  cases hc : s.currentPlayback
  case none => rfl
  case some id =>
    obtain ⟨d, awaiting, hd, -⟩ := h.current id hc
    simp [hr] at hd

theorem Counted.current_eq {awaiting : Awaiting} {released : Bool} (h : Counted t s)
    (hr : s.running = some ⟨d, awaiting, released⟩) :
    s.currentPlayback = none ∨ s.currentPlayback = some d.id ∧ d.generation = s.generation ∧ released = false := by
  cases hc : s.currentPlayback
  case none => exact .inl rfl
  case some id =>
    obtain ⟨d', awaiting', hd, rfl, hg⟩ := h.current id hc
    obtain ⟨rfl, -, rfl⟩ := by simpa [hr] using hd
    exact .inr ⟨rfl, hg, rfl⟩

theorem Counted.dispatch (h : Counted t s) (command : T) :
    Counted (t ++ [.dispatched s.dispatched command]) (s.dispatch command) := by
  refine ⟨?_, ?_, ?_, ?_, h.current⟩
  · rw [outstanding_snoc, outlast, h.outstanding, List.append_assoc]
    exact congrArg _ (fresh_append (d := ⟨s.dispatched, command, s.generation⟩) rfl).symm
  · simp only [PlaybackAwareCommandScheduler.dispatch, unreturned, List.map_append, ← List.append_assoc]
    exact List.pairwise_append.mpr ⟨h.ordered, List.pairwise_singleton _ _, by simpa [unreturned] using h.bounded⟩
  · intro id hid
    simp only [PlaybackAwareCommandScheduler.dispatch, unreturned, List.map_append, ← List.append_assoc] at hid ⊢
    obtain hid | hid := List.mem_append.mp hid
    · exact Nat.lt_succ_of_lt (h.bounded id hid)
    · obtain rfl : id = s.dispatched := by simpa using hid
      exact Nat.lt_succ_self _
  · intro d hd
    obtain hd | hd := List.mem_append.mp hd
    · exact h.generation d hd
    · obtain rfl := List.mem_singleton.mp hd
      exact Nat.le_refl _

theorem Counted.stale {queueTail : List (Dispatch T)} {sent : Bool} (h : Counted t s) (hi : s.running = none)
    (hq : s.queueTail = d :: queueTail) (hg : d.generation ≠ s.generation) :
    Counted (t ++ [.settled d.id (.sent sent)]) { s with queueTail } := by
  have hp := h.ordered
  have hb := h.bounded
  rw [hi, hq] at hp hb
  refine ⟨?_, ?_, ?_, ?_, h.current⟩
  · rw [outstanding_snoc, outlast, h.outstanding, hq, fresh_cons_stale hg]
  · rw [hi]
    exact hp.tail
  · rw [hi]
    exact fun id hid => hb id (List.mem_cons_of_mem _ hid)
  · exact fun d hd => h.generation d (hq ▸ List.mem_cons_of_mem _ hd)

theorem Counted.send {queueTail : List (Dispatch T)} {awaiting : Awaiting} (h : Counted t s) (hi : s.running = none)
    (hq : s.queueTail = d :: queueTail) (hg : d.generation = s.generation) :
    Counted (t ++ [.send d.id d.command])
      { s with queueTail, currentPlayback := some d.id, running := some ⟨d, awaiting, false⟩ } := by
  have hp := h.ordered
  have hb := h.bounded
  rw [hi, hq] at hp hb
  refine ⟨?_, hp, hb, ?_, ?_⟩
  · rw [outstanding_snoc, outlast, h.outstanding, hq, h.current_none hi, fresh_cons hg]
    rfl
  · exact fun d hd => h.generation d (hq ▸ List.mem_cons_of_mem _ hd)
  · intro id hid
    exact ⟨d, _, rfl, by simpa using hid, hg⟩

-- A run goes on to wait for something else.
theorem Counted.awaits {t' : List (SchedulerSeen T)} {awaiting awaiting' : Awaiting} {released : Bool}
    (h : Counted t s) (hr : s.running = some ⟨d, awaiting, released⟩)
    (ho : VoiceCommandScheduler.outstanding t' = VoiceCommandScheduler.outstanding t) :
    Counted t' { s with running := some ⟨d, awaiting', released⟩ } := by
  have hp := h.ordered
  have hb := h.bounded
  rw [hr] at hp hb
  refine ⟨ho.trans h.outstanding, hp, hb, h.generation, ?_⟩
  intro id hid
  obtain hn | ⟨hd, hg, rfl⟩ := h.current_eq hr
  · simp [hn] at hid
  · exact ⟨d, _, rfl, by simpa [hd] using hid, hg⟩

-- A run ends, and nothing is played.
theorem Counted.ends {t' : List (SchedulerSeen T)} {pendingCommands : Nat} (h : Counted t s)
    (hr : s.running = some r) (ho : VoiceCommandScheduler.outstanding t' = fresh s.generation s.queueTail) :
    Counted t' { s with currentPlayback := none, pendingCommands, running := none } := by
  have hp := h.ordered
  have hb := h.bounded
  rw [hr] at hp hb
  exact ⟨ho, hp.tail, fun id hid => hb id (List.mem_cons_of_mem _ hid), h.generation, by simp⟩

theorem Counted.overtaken {awaiting : Awaiting} {released sent : Bool} (h : Counted t s)
    (hr : s.running = some ⟨d, awaiting, released⟩) (hg : d.generation ≠ s.generation) :
    Counted (t ++ [.settled d.id (.sent sent)])
      { s with
        currentPlayback := if s.currentPlayback = some d.id then none else s.currentPlayback
        running         := none } := by
  have hn : s.currentPlayback = none := by
    obtain hn | ⟨-, hg', -⟩ := h.current_eq hr
    · exact hn
    · exact absurd hg' hg
  rw [hn, ite_self]
  refine h.ends hr ?_
  rw [outstanding_snoc, outlast, h.outstanding, hn]
  rfl

theorem Counted.caught {awaiting : Awaiting} {released : Bool} (h : Counted t s)
    (hr : s.running = some ⟨d, awaiting, released⟩) :
    Counted (t ++ [.settled d.id .error]) (s.caught ⟨d, awaiting, released⟩).1 := by
  have hn : (if s.currentPlayback = some d.id then none else s.currentPlayback) = none := by
    obtain hn | ⟨hd, -⟩ := h.current_eq hr
    · simp [hn]
    · simp [hd]
  have hf := filter_fresh s.generation (lt_of_unreturned (hr ▸ h.ordered))
  simp only [PlaybackAwareCommandScheduler.caught, hn]
  refine h.ends hr ?_
  rw [outstanding_snoc, outlast, h.outstanding, List.filter_append, hf]
  obtain hn | ⟨hd, -⟩ := h.current_eq hr
  · simp [hn]
  · simp [hd]

theorem Counted.returned {awaiting : Awaiting} (h : Counted t s) (hr : s.running = some ⟨d, awaiting, true⟩) :
    Counted t { s with running := none } := by
  have hn : s.currentPlayback = none := by
    obtain hn | ⟨-, -, hf⟩ := h.current_eq hr
    · exact hn
    · cases hf
  have he : { s with running := none } = { s with currentPlayback := none, running := none } :=
    congrArg (fun currentPlayback => { s with currentPlayback, running := none }) hn
  rw [he]
  refine h.ends hr ?_
  rw [h.outstanding, hn]
  rfl

theorem Counted.done {pendingCommands : Nat} (h : Counted t s) (hc : s.currentPlayback = some id) :
    Counted (t ++ [.playbackDone id])
      { s with currentPlayback := none, pendingCommands, running := s.releaseBarrier id } := by
  obtain ⟨d, awaiting, hr, rfl, hg⟩ := h.current id hc
  have hp := h.ordered
  have hb := h.bounded
  rw [hr] at hp hb
  have hl : s.releaseBarrier d.id = some ⟨d, awaiting, true⟩ := by simp [releaseBarrier, hr]
  refine ⟨?_, ?_, ?_, h.generation, ?_⟩
  · have hf := filter_fresh s.generation (lt_of_unreturned hp)
    rw [outstanding_snoc, outlast, h.outstanding, List.filter_append, hf, hc]
    simp
  · rw [hl]
    exact hp
  · rw [hl]
    exact hb
  · simp

theorem Counted.interrupt (h : Counted t s) : Counted (t ++ [.interrupted]) s.interrupt := by
  have hu : unreturned s.interrupt.running s.queueTail = unreturned s.running s.queueTail := by
    cases hc : s.currentPlayback <;> cases hr : s.running <;>
      simp [PlaybackAwareCommandScheduler.interrupt, unreturned, releaseBarrier, hc, hr]
    split <;> rfl
  refine ⟨?_, ?_, ?_, ?_, ?_⟩
  · rw [outstanding_snoc, outlast]
    exact (fresh_next h.generation).symm
  · exact hu ▸ h.ordered
  · exact hu ▸ h.bounded
  · exact fun d hd => Nat.le_succ_of_le (h.generation d hd)
  · intro id hid
    cases hid

theorem Counted.step (h : Counted t s) (m : Moves s e s' o) : Counted (t ++ o) s' := by
  cases m
  case dispatch command       => exact h.dispatch command
  case stale hi hq hg         => exact h.stale hi hq hg
  case send hi hq hg          => exact h.send hi hq hg
  case settle fulfilled hr    => exact h.awaits hr (outstanding_snoc t _)
  case overtaken hr hg        => exact h.overtaken hr hg
  case sent hr _              => exact h.awaits hr (outstanding_snoc t _)
  case caught hr              => exact h.caught hr
  case returned hr            =>
    rw [List.append_nil]
    exact h.returned hr
  case nothingDone            => simpa using h
  case done hc                => exact h.done hc
  case interrupt              => exact h.interrupt

-- A run that learns that its send has failed takes a command off the count after its playback was
-- taken off already.
def miscounts (s : PlaybackAwareCommandScheduler T) : Bool :=
  s.running.any fun r =>
    r.awaiting = .send .rejected && r.dispatch.generation = s.generation
      && s.currentPlayback ≠ some r.dispatch.id && s.pendingCommands > 0

def counts (s : PlaybackAwareCommandScheduler T) : SchedulerEvent T → Bool
  | .resume => !miscounts s
  | _       => true

structure Exact (t : List (SchedulerSeen T)) (s : PlaybackAwareCommandScheduler T) : Prop where
  count   : s.pendingCommands = (outstanding t).length
  pending : s.hasPendingPlayback = true ↔ outstanding t ≠ []

theorem exact_iff : Exact t s ↔ s.pendingCommands = (outstanding t).length where
  mp h := h.count
  mpr h := by
    refine ⟨h, ?_⟩
    rw [hasPendingPlayback, decide_eq_true_iff, h, gt_iff_lt, List.length_pos_iff]

theorem Exact.step (hc : Counted t s) (h : Exact t s) (m : Moves s e s' o) :
    Exact (t ++ o) s' ↔ counts s e = true := by
  have hn := h.count
  have ho := hc.outstanding
  rw [exact_iff]
  cases m
  case dispatch command => simp [outlast, counts, PlaybackAwareCommandScheduler.dispatch, hn]
  case stale            => simp [outlast, counts, hn]
  case send             => simp [outlast, counts, hn]
  case settle           => simp [outlast, counts, hn]
  case overtaken hr hg  => simp [outlast, counts, miscounts, hr, hn]
  case sent hr hg       => simp [outlast, counts, miscounts, hr, hn]
  case returned hr      => simp [counts, miscounts, hr, hn]
  case nothingDone      => simp [counts, hn]
  case interrupt        => simp [outlast, counts, PlaybackAwareCommandScheduler.interrupt]
  case done id hd =>
    obtain ⟨d, awaiting, hr, rfl, hg⟩ := hc.current id hd
    have hf := filter_fresh s.generation (lt_of_unreturned (hr ▸ hc.ordered))
    rw [ho, hd] at hn
    simp only [outstanding_snoc, outlast, ho, hd, List.filter_append, hf]
    simp at hn
    simp [counts, hn]
  case caught d released hr =>
    have hf := filter_fresh s.generation (lt_of_unreturned (hr ▸ hc.ordered))
    simp only [outstanding_snoc, outlast, ho, List.filter_append, hf, PlaybackAwareCommandScheduler.caught]
    rw [ho] at hn
    obtain hd | ⟨hd, hg, -⟩ := hc.current_eq hr
    · simp only [hd, Option.toList_none, List.nil_append] at hn
      by_cases hg : d.generation = s.generation
      case pos =>
        cases hl : (fresh s.generation s.queueTail).length <;> simp [hd, counts, miscounts, hr, hg, hn, hl]
      case neg => simp [hd, counts, miscounts, hr, hg, hn]
    · simp [hd] at hn
      simp [hd, counts, miscounts, hr, hg, hn]

end Counting

section Order

def SchedulerSeen.dispatch? : SchedulerSeen T → Option (Nat × T)
  | .dispatched id command => some (id, command)
  | _                      => none

def SchedulerSeen.send? : SchedulerSeen T → Option (Nat × T)
  | .send id command => some (id, command)
  | _                => none

def SchedulerSeen.settled? : SchedulerSeen T → Option Nat
  | .settled id _ => some id
  | _             => none

def dispatches (t : List (SchedulerSeen T)) : List (Nat × T) :=
  t.filterMap SchedulerSeen.dispatch?

def sends (t : List (SchedulerSeen T)) : List (Nat × T) :=
  t.filterMap SchedulerSeen.send?

def settlements (t : List (SchedulerSeen T)) : List Nat :=
  t.filterMap SchedulerSeen.settled?

-- The send of a command is settled, and its playback is ended or was never to come.
def Over (id : Nat) (t : List (SchedulerSeen T)) : Prop :=
  ∃ fulfilled, .sendSettled id fulfilled ∈ t ∧ (.playbackDone id ∈ t ∨ .interrupted ∈ t ∨ fulfilled = false)

structure Orderly (t : List (SchedulerSeen T)) : Prop where
  numbered : (dispatches t).map Prod.fst = List.range (dispatches t).length
  order    : (sends t).Sublist (dispatches t)
  sendOnce : ((sends t).map Prod.fst).Nodup
  apart    : ∀ {t₁ t₂ t₃ id id' command command'},
    t = t₁ ++ .send id command :: (t₂ ++ .send id' command' :: t₃) → Over id t₂
  fenced   : ∀ {t₁ t₂ id command}, t = t₁ ++ .interrupted :: t₂ → .send id command ∈ t₂ → .dispatched id command ∈ t₂
  once     : (settlements t).Nodup

def Dispatch.pair (d : Dispatch T) : Nat × T :=
  (d.id, d.command)

structure Listed (t : List (SchedulerSeen T)) (s : PlaybackAwareCommandScheduler T) : Prop where
  numbered : (dispatches t).map Prod.fst = List.range s.dispatched
  order    : (sends t ++ s.queueTail.map Dispatch.pair).Sublist (dispatches t)

structure Fenced (t : List (SchedulerSeen T)) (s : PlaybackAwareCommandScheduler T) : Prop where
  sent   : ∀ {t₁ t₂ id command}, t = t₁ ++ .interrupted :: t₂ → .send id command ∈ t₂ → .dispatched id command ∈ t₂
  queued : ∀ {t₁ t₂}, t = t₁ ++ .interrupted :: t₂ →
    ∀ d ∈ s.queueTail, d.generation = s.generation → .dispatched d.id d.command ∈ t₂

-- The promise of a dispatch is not settled before its run is called or while its send is.
structure Past (s : PlaybackAwareCommandScheduler T) (id : Nat) : Prop where
  dispatched : id < s.dispatched
  called     : id ∉ s.queueTail.map Dispatch.id
  playback   : ∀ r ∈ s.running, r.dispatch.id = id → r.awaiting = .playback

structure Once (t : List (SchedulerSeen T)) (s : PlaybackAwareCommandScheduler T) : Prop where
  nodup : (settlements t).Nodup
  past  : ∀ id ∈ settlements t, Past s id

-- How far a run is, by what was seen since its send.
structure Reached (t : List (SchedulerSeen T)) (generation : Nat) (r : Running T) : Prop where
  fulfilled : r.awaiting = .send .fulfilled ∨ r.awaiting = .playback → .sendSettled r.dispatch.id true ∈ t
  rejected  : r.awaiting = .send .rejected → .sendSettled r.dispatch.id false ∈ t
  released  : r.released = true → .playbackDone r.dispatch.id ∈ t ∨ .interrupted ∈ t
  overtaken : r.dispatch.generation ≠ generation → .interrupted ∈ t

structure Apart (t : List (SchedulerSeen T)) (s : PlaybackAwareCommandScheduler T) : Prop where
  last  : ∀ {t₁ t₂ id command}, t = t₁ ++ .send id command :: t₂ →
    Over id t₂ ∨ ∃ r, s.running = some r ∧ r.dispatch.id = id ∧ Reached t₂ s.generation r
  apart : ∀ {t₁ t₂ t₃ id id' command command'},
    t = t₁ ++ .send id command :: (t₂ ++ .send id' command' :: t₃) → Over id t₂

theorem Over.snoc {id : Nat} (h : Over id t) (o : List (SchedulerSeen T)) : Over id (t ++ o) := by
  obtain ⟨fulfilled, hs, he⟩ := h
  refine ⟨fulfilled, List.mem_append_left _ hs, ?_⟩
  exact he.imp (List.mem_append_left _) fun he => he.imp_left (List.mem_append_left _)

theorem Reached.snoc {generation : Nat} {r : Running T} (h : Reached t generation r) (o : List (SchedulerSeen T)) :
    Reached (t ++ o) generation r where
  fulfilled hr := List.mem_append_left _ (h.fulfilled hr)
  rejected hr  := List.mem_append_left _ (h.rejected hr)
  released hr  := (h.released hr).imp (List.mem_append_left _) (List.mem_append_left _)
  overtaken hr := List.mem_append_left _ (h.overtaken hr)

-- What a step shows does not come before what was seen earlier.
theorem split_step {t₁ t₂ : List (SchedulerSeen T)} {x : SchedulerSeen T} (ho : x ∉ o)
    (h : t ++ o = t₁ ++ x :: t₂) : ∃ t₂', t = t₁ ++ x :: t₂' ∧ t₂ = t₂' ++ o := by
  obtain ⟨u, rfl, hu⟩ | ⟨u, rfl, hu⟩ := List.append_eq_append_iff.mp h
  · exact absurd (hu ▸ by simp) ho
  · cases u
    case nil =>
      have hx : x ∈ [] ++ o := hu ▸ List.mem_cons_self
      exact absurd hx ho
    case cons y u =>
      obtain ⟨rfl, rfl⟩ := List.cons.inj hu
      exact ⟨u, rfl, rfl⟩

theorem Apart.frame (h : Apart t s) (ho : ∀ id command, .send id command ∉ o)
    (hr : ∀ r u, s.running = some r → Reached u s.generation r →
      Over r.dispatch.id (u ++ o) ∨
        ∃ r', s'.running = some r' ∧ r'.dispatch.id = r.dispatch.id ∧ Reached (u ++ o) s'.generation r') :
    Apart (t ++ o) s' where
  last ht := by
    obtain ⟨t₂, hu, rfl⟩ := split_step (ho _ _) ht
    obtain hov | ⟨r, hrun, rfl, hreach⟩ := h.last hu
    · exact .inl (hov.snoc o)
    · exact hr r t₂ hrun hreach
  apart ht := by
    obtain ⟨u, ht, hu⟩ := split_step (ho _ _) ht
    obtain ⟨t₃, hu, -⟩ := split_step (ho _ _) hu.symm
    exact h.apart (hu ▸ ht)

theorem Apart.step (h : Apart t s) (m : Moves s e s' o) : Apart (t ++ o) s' := by
  cases m
  case dispatch command =>
    refine h.frame (by simp) fun r u hr hu => .inr ⟨r, hr, rfl, hu.snoc _⟩
  case stale hi hq hg =>
    refine h.frame (by simp) fun r u hr hu => .inr ⟨r, hr, rfl, hu.snoc _⟩
  case send d queueTail hi hq hg =>
    constructor
    case last =>
      intro t₁ t₂ id command ht
      obtain ⟨rfl, -, he⟩ | ⟨t₂, rfl, hu⟩ := Machine.split_snoc ht
      · obtain ⟨rfl, -⟩ := by simpa using he
        refine .inr ⟨_, rfl, rfl, ?_⟩
        constructor <;> simp [hg]
      · obtain hov | ⟨r, hr, -⟩ := h.last hu
        · exact .inl (hov.snoc _)
        · simp [hi] at hr
    case apart =>
      intro t₁ t₂ t₃ id id' command command' ht
      rw [← List.cons_append, ← List.append_assoc] at ht
      obtain ⟨-, ht, -⟩ | ⟨t₃, -, ht⟩ := Machine.split_snoc ht
      · obtain hov | ⟨r, hr, -⟩ := h.last ht.symm
        · exact hov
        · simp [hi] at hr
      · rw [List.append_assoc, List.cons_append] at ht
        exact h.apart ht
  case settle d released fulfilled hr =>
    refine h.frame (by simp) fun r u hr' hu => .inr ⟨_, rfl, ?_, ?_⟩
    · obtain rfl := Option.some.inj (hr.symm.trans hr')
      rfl
    · obtain rfl := Option.some.inj (hr.symm.trans hr')
      have hu := hu.snoc [.sendSettled d.id fulfilled]
      exact ⟨by cases fulfilled <;> simp, by cases fulfilled <;> simp, hu.released, hu.overtaken⟩
  case overtaken d released hr hg =>
    refine h.frame (by simp) fun r u hr' hu => .inl ?_
    obtain rfl := Option.some.inj (hr.symm.trans hr')
    exact Over.snoc ⟨true, hu.fulfilled (.inl rfl), .inr (.inl (hu.overtaken hg))⟩ _
  case sent d released hr hg =>
    refine h.frame (by simp) fun r u hr' hu => .inr ⟨_, rfl, ?_, ?_⟩
    · obtain rfl := Option.some.inj (hr.symm.trans hr')
      rfl
    · obtain rfl := Option.some.inj (hr.symm.trans hr')
      have hu := hu.snoc [.settled d.id (.sent true)]
      exact ⟨fun _ => hu.fulfilled (.inl rfl), fun hn => absurd hn (by simp), hu.released, hu.overtaken⟩
  case caught d released hr =>
    refine h.frame (by simp) fun r u hr' hu => .inl ?_
    obtain rfl := Option.some.inj (hr.symm.trans hr')
    exact Over.snoc ⟨false, hu.rejected rfl, .inr (.inr rfl)⟩ _
  case returned d hr =>
    refine h.frame (by simp) fun r u hr' hu => .inl ?_
    obtain rfl := Option.some.inj (hr.symm.trans hr')
    refine Over.snoc ⟨true, hu.fulfilled (.inr rfl), ?_⟩ _
    exact (hu.released rfl).imp_right .inl
  case nothingDone => simpa using h
  case done id hc =>
    refine h.frame (by simp) fun r u hr hu => .inr ?_
    have hu := hu.snoc [.playbackDone id]
    by_cases hd : r.dispatch.id = id
    case pos =>
      refine ⟨{ r with released := true }, by simp [releaseBarrier, hr, hd], rfl, ?_⟩
      exact ⟨hu.fulfilled, hu.rejected, fun _ => .inl (by simp [hd]), hu.overtaken⟩
    case neg => exact ⟨r, by simp [releaseBarrier, hr, hd], rfl, hu⟩
  case interrupt =>
    refine h.frame (by simp) fun r u hr hu => .inr ?_
    have hu := hu.snoc [.interrupted]
    have hi : .interrupted ∈ u ++ [SchedulerSeen.interrupted (T := T)] := by simp
    by_cases hc : s.currentPlayback = some r.dispatch.id
    case pos =>
      refine ⟨{ r with released := true }, ?_, rfl, hu.fulfilled, hu.rejected, fun _ => .inr hi, fun _ => hi⟩
      simp [PlaybackAwareCommandScheduler.interrupt, releaseBarrier, hr, hc]
    case neg =>
      refine ⟨r, ?_, rfl, hu.fulfilled, hu.rejected, hu.released, fun _ => hi⟩
      cases hp : s.currentPlayback
      case none => simp [PlaybackAwareCommandScheduler.interrupt, hr, hp]
      case some id =>
        have hn : r.dispatch.id ≠ id := fun hn => hc (hn ▸ hp)
        simp [PlaybackAwareCommandScheduler.interrupt, releaseBarrier, hr, hp, hn]

@[simp]
theorem dispatches_append (t o : List (SchedulerSeen T)) : dispatches (t ++ o) = dispatches t ++ dispatches o := by
  simp [dispatches]

@[simp]
theorem sends_append (t o : List (SchedulerSeen T)) : sends (t ++ o) = sends t ++ sends o := by
  simp [sends]

@[simp]
theorem settlements_append (t o : List (SchedulerSeen T)) : settlements (t ++ o) = settlements t ++ settlements o := by
  simp [settlements]

theorem Listed.frame (h : Listed t s) (hd : dispatches o = []) (hs : sends o = [])
    (hq : s'.queueTail.Sublist s.queueTail) (hn : s'.dispatched = s.dispatched) : Listed (t ++ o) s' where
  numbered := by rw [dispatches_append, hd, List.append_nil, hn, h.numbered]
  order := by
    rw [dispatches_append, sends_append, hd, hs, List.append_nil, List.append_nil]
    exact (List.Sublist.append_left (hq.map _) _).trans h.order

theorem Listed.step (h : Listed t s) (m : Moves s e s' o) : Listed (t ++ o) s' := by
  cases m
  case dispatch command =>
    constructor
    case numbered =>
      rw [dispatches_append, List.map_append, h.numbered]
      exact List.range_succ.symm
    case order =>
      have ho : sends [.dispatched s.dispatched command] = [] := rfl
      simp only [sends_append, dispatches_append, ho, List.append_nil, PlaybackAwareCommandScheduler.dispatch,
        List.map_append, ← List.append_assoc]
      exact h.order.append_right _
  case send d queueTail hi hq hg =>
    constructor
    case numbered =>
      have ho : dispatches [.send d.id d.command] = [] := rfl
      rw [dispatches_append, ho, List.append_nil, h.numbered]
    case order =>
      have ho : dispatches [.send d.id d.command] = [] := rfl
      have hs : sends [.send d.id d.command] = [d.pair] := rfl
      have hl := h.order
      rw [hq, List.map_cons] at hl
      rw [dispatches_append, sends_append, ho, hs, List.append_nil, List.append_assoc]
      exact hl
  case stale d queueTail hi hq hg =>
    exact h.frame rfl rfl (hq ▸ List.sublist_cons_self d queueTail) rfl
  all_goals exact h.frame rfl rfl (List.Sublist.refl _) rfl

theorem Fenced.frame (h : Fenced t s) (hi : .interrupted ∉ o)
    (hs : ∀ id command, .send id command ∈ o →
      ∃ d ∈ s.queueTail, d.generation = s.generation ∧ d.id = id ∧ d.command = command)
    (hq : ∀ d ∈ s'.queueTail, d.generation = s'.generation →
      (d ∈ s.queueTail ∧ d.generation = s.generation) ∨ .dispatched d.id d.command ∈ o) :
    Fenced (t ++ o) s' where
  sent ht hm := by
    obtain ⟨t₂, hu, rfl⟩ := split_step hi ht
    obtain hm | hm := List.mem_append.mp hm
    · exact List.mem_append_left _ (h.sent hu hm)
    · obtain ⟨d, hd, hg, rfl, rfl⟩ := hs _ _ hm
      exact List.mem_append_left _ (h.queued hu d hd hg)
  queued ht d hd hg := by
    obtain ⟨t₂, hu, rfl⟩ := split_step hi ht
    obtain ⟨hd, hg⟩ | hm := hq d hd hg
    · exact List.mem_append_left _ (h.queued hu d hd hg)
    · exact List.mem_append_right _ hm

theorem Fenced.step (hc : Counted t s) (h : Fenced t s) (m : Moves s e s' o) : Fenced (t ++ o) s' := by
  cases m
  case dispatch command =>
    refine h.frame (by simp) (by simp) fun d hd hg => ?_
    obtain hd | hd := List.mem_append.mp hd
    · exact .inl ⟨hd, hg⟩
    · obtain rfl := List.mem_singleton.mp hd
      exact .inr List.mem_cons_self
  case stale d queueTail hi hq hg =>
    exact h.frame (by simp) (by simp) fun d hd hg => .inl ⟨hq ▸ List.mem_cons_of_mem _ hd, hg⟩
  case send d queueTail hi hq hg =>
    refine h.frame (by simp) (fun id command hm => ?_) fun d hd hg => .inl ⟨hq ▸ List.mem_cons_of_mem _ hd, hg⟩
    obtain ⟨rfl, rfl⟩ := by simpa using hm
    exact ⟨d, hq ▸ List.mem_cons_self, hg, rfl, rfl⟩
  case interrupt =>
    have hq : ∀ d ∈ s.queueTail, d.generation ≠ s.generation + 1 := by
      intro d hd
      have := hc.generation d hd
      omega
    constructor
    case sent =>
      intro t₁ t₂ id command ht hm
      obtain ⟨rfl, -, -⟩ | ⟨t₂, rfl, hu⟩ := Machine.split_snoc ht
      · cases hm
      · exact List.mem_append_left _ (h.sent hu (by simpa using hm))
    case queued => exact fun _ d hd hg => absurd hg (hq d hd)
  all_goals exact h.frame (by simp) (by simp) fun d hd hg => .inl ⟨hd, hg⟩

-- A step keeps to what it finds: it calls no run again and goes back to no send.
structure Keeps (s s' : PlaybackAwareCommandScheduler T) : Prop where
  dispatched : s.dispatched ≤ s'.dispatched
  queue      : ∀ id ∈ s'.queueTail.map Dispatch.id, id ∈ s.queueTail.map Dispatch.id ∨ s.dispatched ≤ id
  running    : ∀ r' ∈ s'.running, r'.awaiting ≠ .playback → r'.dispatch.id ∈ s.queueTail.map Dispatch.id ∨
    ∃ r ∈ s.running, r.dispatch.id = r'.dispatch.id ∧ r.awaiting ≠ .playback

theorem Past.keeps {id : Nat} (h : Past s id) (hk : Keeps s s') : Past s' id where
  dispatched := Nat.lt_of_lt_of_le h.dispatched hk.dispatched
  called hm := by
    obtain hm | hle := hk.queue id hm
    · exact h.called hm
    · exact absurd h.dispatched (Nat.not_lt.mpr hle)
  playback r' hr' he := by
    by_contra hne
    obtain hm | ⟨r, hr, he', hne⟩ := hk.running r' hr' hne
    · exact h.called (he ▸ hm)
    · exact hne (h.playback r hr (he'.trans he))

theorem releaseBarrier_running {id : Nat} {r' : Running T} (h : r' ∈ s.releaseBarrier id) :
    ∃ r ∈ s.running, r.dispatch = r'.dispatch ∧ r.awaiting = r'.awaiting := by
  obtain ⟨r, hr, rfl⟩ := Option.map_eq_some_iff.mp h
  refine ⟨r, hr, ?_⟩
  split <;> exact ⟨rfl, rfl⟩

theorem Moves.keeps (m : Moves s e s' o) : Keeps s s' := by
  cases m
  case dispatch command =>
    refine ⟨Nat.le_succ _, fun id hid => ?_, fun r hr hne => .inr ⟨r, hr, rfl, hne⟩⟩
    simp only [PlaybackAwareCommandScheduler.dispatch, List.map_append, List.mem_append] at hid
    refine hid.imp_right fun hid => ?_
    obtain rfl : id = s.dispatched := by simpa using hid
    exact Nat.le_refl _
  case stale d queueTail hi hq hg =>
    refine ⟨Nat.le_refl _, fun id hid => .inl ?_, fun r hr hne => .inr ⟨r, hr, rfl, hne⟩⟩
    rw [hq]
    exact List.mem_cons_of_mem _ hid
  case send d queueTail hi hq hg =>
    refine ⟨Nat.le_refl _, fun id hid => .inl ?_, fun r hr hne => .inl ?_⟩
    · rw [hq]
      exact List.mem_cons_of_mem _ hid
    · obtain rfl := Option.some.inj hr
      rw [hq]
      exact List.mem_cons_self
  case settle d released fulfilled hr =>
    refine ⟨Nat.le_refl _, fun id => .inl, fun r' hr' hne => .inr ⟨_, hr, ?_, by simp⟩⟩
    obtain rfl := Option.some.inj hr'
    rfl
  case overtaken => exact ⟨Nat.le_refl _, fun id => .inl, fun r' hr' => by cases hr'⟩
  case sent =>
    refine ⟨Nat.le_refl _, fun id => .inl, fun r' hr' hne => absurd ?_ hne⟩
    obtain rfl := Option.some.inj hr'
    rfl
  case caught      => exact ⟨Nat.le_refl _, fun id => .inl, fun r' hr' => by cases hr'⟩
  case returned    => exact ⟨Nat.le_refl _, fun id => .inl, fun r' hr' => by cases hr'⟩
  case nothingDone => exact ⟨Nat.le_refl _, fun id => .inl, fun r hr hne => .inr ⟨r, hr, rfl, hne⟩⟩
  case done id hc =>
    refine ⟨Nat.le_refl _, fun id => .inl, fun r' hr' hne => .inr ?_⟩
    obtain ⟨r, hr, hd, ha⟩ := releaseBarrier_running hr'
    exact ⟨r, hr, congrArg _ hd, ha ▸ hne⟩
  case interrupt =>
    refine ⟨Nat.le_refl _, fun id => .inl, fun r' hr' hne => .inr ?_⟩
    simp only [PlaybackAwareCommandScheduler.interrupt] at hr'
    cases hc : s.currentPlayback
    case none => exact ⟨r', by simpa [hc] using hr', rfl, hne⟩
    case some id =>
      rw [hc] at hr'
      obtain ⟨r, hr, hd, ha⟩ := releaseBarrier_running hr'
      exact ⟨r, hr, congrArg _ hd, ha ▸ hne⟩

theorem Once.frame (h : Once t s) (hk : Keeps s s') (ho : settlements o = []) : Once (t ++ o) s' := by
  constructor <;> rw [settlements_append, ho, List.append_nil]
  · exact h.nodup
  · exact fun id hid => (h.past id hid).keeps hk

theorem Once.settle {id : Nat} (h : Once t s) (hk : Keeps s s') (ho : settlements o = [id]) (hn : ¬Past s id)
    (hp : Past s' id) : Once (t ++ o) s' := by
  constructor <;> rw [settlements_append, ho]
  · exact h.nodup.append (List.nodup_singleton id) (by simpa using fun hm => hn (h.past id hm))
  · intro id' hid
    obtain hid | hid := List.mem_append.mp hid
    · exact (h.past id' hid).keeps hk
    · exact List.mem_singleton.mp hid ▸ hp

-- The promise of a run that has not got beyond its send is not settled, and it may be settled in a step
-- that takes the run there.
theorem not_past {d : Dispatch T} {promise : Settlement} {released : Bool}
    (hr : s.running = some ⟨d, .send promise, released⟩) : ¬Past s d.id := by
  intro h
  have hp := h.playback _ hr rfl
  cases hp

theorem past_of_running {d : Dispatch T} {awaiting : Awaiting} {released : Bool} (hc : Counted t s)
    (hr : s.running = some ⟨d, awaiting, released⟩) (hd : s'.dispatched = s.dispatched)
    (hq : s'.queueTail = s.queueTail) (hp : ∀ r ∈ s'.running, r.awaiting = .playback) : Past s' d.id where
  dispatched := by
    rw [hd]
    exact hc.bounded d.id (by simp [unreturned, hr])
  called hm := by
    obtain ⟨d', hd', he⟩ := List.mem_map.mp (hq ▸ hm)
    have := lt_of_unreturned (hr ▸ hc.ordered) d' hd'
    simp only at this
    omega
  playback r hr _ := hp r hr

theorem Once.step (hc : Counted t s) (h : Once t s) (m : Moves s e s' o) : Once (t ++ o) s' := by
  have hk := m.keeps
  cases m
  case stale d queueTail hi hq hg =>
    have hp := hc.ordered
    have hb := hc.bounded
    rw [hi, hq] at hp hb
    refine h.settle hk rfl (fun hn => hn.called (by simp [hq])) ⟨hb d.id (by simp [unreturned]), fun hm => ?_, ?_⟩
    · exact absurd (List.rel_of_pairwise_cons hp hm) (Nat.lt_irrefl _)
    · simp [hi]
  case overtaken d released hr hg =>
    exact h.settle hk rfl (not_past hr) (past_of_running hc hr rfl rfl fun r hr => by cases hr)
  case sent d released hr hg =>
    refine h.settle hk rfl (not_past hr) (past_of_running hc hr rfl rfl fun r hr => ?_)
    obtain rfl := Option.some.inj hr
    rfl
  case caught d released hr =>
    exact h.settle hk rfl (not_past hr) (past_of_running hc hr rfl rfl fun r hr => by cases hr)
  all_goals exact h.frame hk rfl

end Order

section Runs

structure Invariant (t : List (SchedulerSeen T)) (s : PlaybackAwareCommandScheduler T) : Prop where
  counted : Counted t s
  listed  : Listed t s
  fenced  : Fenced t s
  once    : Once t s
  apart   : Apart t s

theorem Invariant.new : Invariant [] (new : PlaybackAwareCommandScheduler T) where
  counted := by constructor <;> simp [outstanding, fresh, unreturned, PlaybackAwareCommandScheduler.new]
  listed  := by constructor <;> simp [dispatches, sends, PlaybackAwareCommandScheduler.new]
  fenced  := by constructor <;> simp
  once    := by constructor <;> simp [settlements]
  apart   := by constructor <;> simp

theorem Invariant.step (h : Invariant t s) (hs : (scheduler T).step s e = some (s', o)) : Invariant (t ++ o) s' where
  counted := h.counted.step (step_moves hs)
  listed  := h.listed.step (step_moves hs)
  fenced  := h.fenced.step h.counted (step_moves hs)
  once    := h.once.step h.counted (step_moves hs)
  apart   := h.apart.step (step_moves hs)

theorem Invariant.orderly (h : Invariant t s) : Orderly t where
  numbered := by
    have hl := congrArg List.length h.listed.numbered
    rw [List.length_map, List.length_range] at hl
    rw [h.listed.numbered, hl]
  order    := (List.sublist_append_left _ _).trans h.listed.order
  sendOnce := by
    have hs := ((List.sublist_append_left _ _).trans h.listed.order).map Prod.fst
    rw [h.listed.numbered] at hs
    exact List.nodup_range.sublist hs
  apart    := h.apart.apart
  fenced   := h.fenced.sent
  once     := h.once.nodup

-- The scheduler keeps its order in every run, and its count is right all along a run exactly when no
-- step of the run takes the failure of a send off the count after `playbackDone` has done so.
theorem playback_accounting_iff (events : List (SchedulerEvent T)) {t : List (SchedulerSeen T)}
    {s : PlaybackAwareCommandScheduler T} (h : (scheduler T).replay new events = some (s, t)) :
    (∀ es es' s' t', events = es ++ es' → (scheduler T).replay new es = some (s', t') → Orderly t' ∧ Exact t' s') ↔
      ((scheduler T).guarded counts).replay new events = some (s, t) := by
  refine Machine.replay_guarded_iff (I := Invariant) (P := fun t s => Orderly t ∧ Exact t s) (fun h hs => h.step hs)
    (fun h hp hs => ?_) Invariant.new ⟨Invariant.new.orderly, ?_⟩ events h
  · rw [← hp.2.step h.counted (step_moves hs)]
    exact and_iff_right (h.step hs).orderly
  · exact exact_iff.mpr rfl

theorem playback_accounting_interrupted :
    (∀ es es' s' t', [.dispatch 7, .run, .interrupt, .settle false, .resume] = es ++ es' →
      (scheduler Nat).replay new es = some (s', t') → Orderly t' ∧ Exact t' s') ↔
    ((scheduler Nat).guarded counts).replay new [.dispatch 7, .run, .interrupt, .settle false, .resume]
      = some (⟨none, 1, 0, 1, [], none⟩,
          [.dispatched 0 7, .send 0 7, .interrupted, .sendSettled 0 false, .settled 0 .error]) :=
  playback_accounting_iff _ rfl

-- The first command is ended and then fails, and the second one is waiting without being counted.
theorem playback_count_short :
    ¬∀ (events : List (SchedulerEvent Nat)) (s : PlaybackAwareCommandScheduler Nat) (t : List (SchedulerSeen Nat)),
      (scheduler Nat).replay new events = some (s, t) → Orderly t ∧ Exact t s := by
  intro h
  have hs := (h [.dispatch 1, .dispatch 2, .run, .playbackDone, .settle false, .resume] _ _ rfl).2.count
  exact absurd hs (by decide)

end Runs

end VoiceCommandScheduler
