import PersonaRuntime.OwnerLab.Theorems.EvidenceRecorder
import PersonaRuntime.OwnerLab.VoicePlayback
import PersonaRuntime.Runtime.Theorems.Cancellation

namespace OutputEvidence

variable {e : OutputEvidence}

theorem reconcilePlayed_run : if 2 ≤ e.rank then
      (reconcilePlayed.run e).isOk = true ∧ (reconcilePlayed.run e).state.eligibleAsSpoken = true
    else (reconcilePlayed.run e).isOk = false ∧ (reconcilePlayed.run e).state = e := by
  have ⟨state⟩ := e
  cases state
  case cancelled c => cases c <;> exact ⟨rfl, rfl⟩
  all_goals exact ⟨rfl, rfl⟩

theorem eligibleAsSpoken_iff : e.eligibleAsSpoken = true ↔ 4 ≤ e.rank := by
  have ⟨state⟩ := e
  cases state
  case cancelled c => cases c <;> decide
  all_goals decide

theorem Advances.eligibleAsSpoken {e' : OutputEvidence} (a : e.Advances e') (h : e.eligibleAsSpoken = true) :
    e'.eligibleAsSpoken = true :=
  eligibleAsSpoken_iff.mpr <| (eligibleAsSpoken_iff.mp h).trans a.rank

end OutputEvidence

namespace TurnMutableState

variable {s s' : TurnMutableState} {id : Nat}

def Played (s : TurnMutableState) (id : Nat) : Prop :=
  ∃ g ∈ s.outputSegments, g.id = id ∧ g.evidence.eligibleAsSpoken = true

-- The segment was sent, or its delivery is uncertain.
def departed (s : TurnMutableState) (id : Nat) : Bool :=
  (s.outputSegments.find? (·.id == id)).any (2 ≤ ·.evidence.rank)

theorem Received.played {gs gs' : List OutputSegmentEvidence} {k : Nat} (h : gs.Forall₂ (Received k) gs') :
    (∃ g ∈ gs, g.id = id ∧ g.evidence.eligibleAsSpoken = true) →
      ∃ g ∈ gs', g.id = id ∧ g.evidence.eligibleAsSpoken = true := by
  induction h
  case nil         => exact fun h => h
  case cons h _ hi =>
    intro ⟨g, hg, hk, hp⟩
    cases hg
    case head    => exact ⟨_, .head _, h.id_eq.trans hk, h.advances.eligibleAsSpoken hp⟩
    case tail hg =>
      have ⟨g', hg', hp'⟩ := hi ⟨g, hg, hk, hp⟩
      exact ⟨g', .tail _ hg', hp'⟩

theorem Change.played (c : s.Change s') (h : s.Played id) : s'.Played id := by
  have ⟨g, hg, hk, hp⟩ := h
  cases c
  case media | enter => exact h
  case freeze        =>
    exact ⟨_, List.mem_map.mpr ⟨g, hg, rfl⟩, hk, OutputEvidence.cancelled_eligibleAsSpoken.trans hp⟩
  case segment       => exact ⟨g, List.mem_append_left _ hg, hk, hp⟩
  case receipt hr    => exact Received.played hr h

theorem mem_writeSegment {gs : List OutputSegmentEvidence} {g : OutputSegmentEvidence} {e : OutputEvidence}
    (h : gs.find? (·.id == id) = some g) : ∃ g' ∈ writeSegment id e gs, g'.id = id ∧ g'.evidence = e := by
  induction gs
  case nil => cases h
  case cons g' gs hi =>
    by_cases hg : g'.id = id
    case pos =>
      rw [writeSegment, if_pos hg]
      exact ⟨_, .head _, hg, rfl⟩
    case neg =>
      obtain ⟨g'', hg'', h''⟩ := hi (by simpa [hg] using h)
      rw [writeSegment, if_neg hg]
      exact ⟨g'', .tail _ hg'', h''⟩

theorem writeSegment_self {gs : List OutputSegmentEvidence} {g : OutputSegmentEvidence}
    (h : gs.find? (·.id == id) = some g) : writeSegment id g.evidence gs = gs := by
  induction gs
  case nil => cases h
  case cons g' gs hi =>
    by_cases hg : g'.id = id
    case pos =>
      obtain rfl : g' = g := by simpa [hg] using h
      rw [writeSegment, if_pos hg]
    case neg => rw [writeSegment, if_neg hg, hi (by simpa [hg] using h)]

-- A segment that has departed is played after the receipt. Without one the receipt is refused and
-- nothing happens.
theorem reconcileOutputPlayed_run (s : TurnMutableState) (id : Nat) : if s.departed id then
      ((reconcileOutputPlayed id).run s).toExcept = .ok () ∧ ((reconcileOutputPlayed id).run s).state.Played id
    else (reconcileOutputPlayed id).run s = .error .invalidStateTransition s := by
  simp only [reconcileOutputPlayed, reconcile_run]
  cases hf : s.outputSegments.find? (·.id == id)
  case none => simp [departed, hf]
  case some g =>
    have h := OutputEvidence.reconcilePlayed_run (e := g.evidence)
    by_cases hr : 2 ≤ g.evidence.rank
    case pos =>
      have ⟨ho, hp⟩ := if_pos hr ▸ h
      have ⟨g', hg, hk, he⟩ := mem_writeSegment (e := (OutputEvidence.reconcilePlayed.run g.evidence).state) hf
      simp only [departed, hf, Option.any_some, hr, decide_true, if_true, ho]
      exact ⟨rfl, g', hg, hk, he ▸ hp⟩
    case neg =>
      have ⟨ho, hs⟩ := if_neg hr ▸ h
      simp [departed, hf, hr, ho, hs, writeSegment_self hf]

end TurnMutableState

namespace LabSessionEvidenceRecorder

variable {r r' : LabSessionEvidenceRecorder} {input : LabMediaEvidenceInput} {b : Nat × Nat}

-- The session of the observation is open, no playback of its request is recorded, there is room for
-- one, and the request has not failed and has the binding `b`.
def awaitsPlayback (r : LabSessionEvidenceRecorder) (input : LabMediaEvidenceInput) (b : Nat × Nat) : Bool :=
  r.sessionSequence = some input.sessionSequence && !r.isSealed &&
    (r.mediaEvents.all fun event =>
      event.kind ≠ .playbackCompleted || event.requestSequence ≠ input.requestSequence) &&
    r.mediaEvents.length < maxMediaEvents &&
    (input.requestSequence.bind (r.voiceAttempts[·]?)).any fun a =>
      a.status ≠ .failed && a.canonicalTurnSequence = some b.1 && a.canonicalOutputSequence = some b.2

theorem completedPlaybackBinding_eq_ok_iff {k : Nat} :
    r.completedPlaybackBinding k = .ok b ↔ r.isSealed = false ∧ (0 < b.1 ∧ 0 < b.2) ∧
      ∃ a, r.voiceAttempts[k]? = some a ∧ a.status ≠ .failed ∧ a.canonicalTurnSequence = some b.1 ∧
        a.canonicalOutputSequence = some b.2 := by
  simp only [completedPlaybackBinding, Except.ite_error_eq_ok_iff, Bool.not_eq_true]
  apply and_congr_right
  intro _
  cases hg : r.voiceAttempts[k]?
  case none => simp
  case some a =>
    obtain ⟨turn, output⟩ := b
    cases ht : a.canonicalTurnSequence <;> cases ho : a.canonicalOutputSequence
    case some.some x y =>
      simp only [Except.ite_error_eq_ok_iff, ht, ho, Option.some.injEq, exists_eq_left']
      split_ifs <;> grind
    all_goals simp [ht, ho]

-- What the recorder has prepared once, it would prepare again exactly when it still awaits it.
theorem prepareCanonicalPlayback_again (h : r.prepareCanonicalPlayback input = .ok b) :
    r'.prepareCanonicalPlayback input = .ok b ↔ r'.awaitsPlayback input b = true := by
  simp only [prepareCanonicalPlayback, Except.ite_error_eq_ok_iff, not_not, ne_eq] at h ⊢
  obtain ⟨hk, h⟩ := h
  obtain ⟨_, hv, h⟩ := Except.bind_eq_ok h
  obtain ⟨he, hq, -⟩ := validateMedia_eq_ok hv
  cases hr : input.requestSequence <;> simp only [hr] at h ⊢
  case none => cases h
  case some k =>
    obtain ⟨-, hb, -⟩ := completedPlaybackBinding_eq_ok_iff.mp h
    have hd : ((r'.validateMedia input >>= fun _ => r'.completedPlaybackBinding k) = .ok b) ↔
        r'.validateMedia input = .ok () ∧ r'.completedPlaybackBinding k = .ok b := by
      cases r'.validateMedia input
      case error => simp [Except.error_bind]
      case ok    => simp [Except.ok_bind]
    simp only [hd, completedPlaybackBinding_eq_ok_iff, hb, hk, true_and]
    simp only [validateMedia, awaitsPlayback, Except.ite_error_eq_ok_iff, hk, hr, Bool.and_eq_true]
    have hp : LabMediaEvidenceKind.playbackCompleted.requiresRequestSequence = true := rfl
    cases hg : r'.voiceAttempts[k]?
    case none   => simp [hg]
    case some a =>
      have hm : k ∈ r'.voiceAttempts := Std.TreeMap.mem_iff_isSome_getElem?.mpr (by simp [hg])
      simp only [hg, Option.bind_some, Option.any_some, Option.some.injEq, exists_eq_left']
      simp [hp, hm, Nat.not_lt.mpr he]
      grind

theorem recordCanonicalPlayback_eq_ok {turn output : Nat}
    (h : r.recordCanonicalPlayback input turn output = .ok r') :
    ∃ k a, input.requestSequence = some k ∧ r.voiceAttempts[k]? = some a ∧
      r'.voiceAttempts = r.voiceAttempts.insert k a.confirm := by
  simp only [recordCanonicalPlayback, Except.ite_error_eq_ok_iff] at h
  obtain ⟨_, -, h⟩ := Except.bind_eq_ok h.right
  split at h
  case h_1 => cases h
  case h_2 k hq =>
    obtain ⟨b, -, h⟩ := Except.bind_eq_ok h
    have h := (Except.ite_error_eq_ok_iff.mp h).right
    split at h
    case h_1      => cases h
    case h_2 a hg =>
      cases h
      exact ⟨k, a, hq, hg, rfl⟩

end LabSessionEvidenceRecorder

-- The playbacks that the recorder has confirmed.
def PlaybackWorld.confirmed (w : PlaybackWorld) (request : Nat) : Bool :=
  w.recorder.voiceAttempts[request]?.any (·.canonicalPlaybackConfirmed)

def PlaybackObservation.call : PlaybackObservation → Nat
  | moved k .. | registered k .. | returned k .. => k

namespace PlaybackObservation

variable {o : PlaybackObservation} {k i : Nat}

def refuses (k : Nat) : PlaybackObservation → Bool
  | returned j _ (.error _) => j = k
  | _                       => false

def changes (k i : Nat) : PlaybackObservation → Bool
  | moved j w w' => j = k ∧ w'.segments i ≠ w.segments i
  | _            => false

theorem refuses_iff : o.refuses k = true ↔ ∃ input e, o = returned k input (.error e) := by
  cases o
  case returned j input result => cases result <;> simp [refuses]
  all_goals simp [refuses]

theorem changes_iff : o.changes k i = true ↔ ∃ w w', o = moved k w w' ∧ w'.segments i ≠ w.segments i := by
  cases o
  case moved j w w' => simp [changes]
  all_goals simp [changes]

end PlaybackObservation

namespace PlaybackServer

def Played (s : PlaybackServer) (turn : Nat) (delivery : OutputDeliveryHandle) : Prop :=
  (s.turns turn).1.Played delivery.segmentId

-- What a call that was refused, or that was accepted, has done in the run `t` up to `s`.
structure AllOrNothing (t : List PlaybackObservation) (s : PlaybackServer) (k : Nat) : Prop where
  refused   : ∀ {input e w w'}, .returned k input (.error e) ∈ t → .moved k w w' ∈ t → w' = w
  delivered : ∀ {input}, .returned k input (.ok ()) ∈ t →
    (∃ turn deliveries, .registered k turn deliveries ∈ t) ∧
    ∀ turn deliveries, .registered k turn deliveries ∈ t → ∀ d ∈ deliveries, s.Played turn d
  confirmed : ∀ {input}, .returned k input (.ok ()) ∈ t →
    ∃ request, input.requestSequence = some request ∧
      (∃ w w', .moved k w w' ∈ t ∧ w'.confirmed request = true) ∧
      ∀ w w', .moved k w w' ∈ t → ∀ j ≠ request, w'.confirmed j = w.confirmed j

-- The next step of a call does not refuse what the call has begun to change.
def sound (s : PlaybackServer) (call : PlaybackCall) : Bool :=
  match call.point with
  | .reconcile turn (d :: _) => d.turnId = turn && (s.turns turn).1.departed d.segmentId
  | .record                  => s.recorder.awaitsPlayback call.input call.binding
  | _                        => true

def admits (s : PlaybackServer) : PlaybackEvent → Bool
  | .resume k => (s.calls[k]?).all fun call => !call.changed || s.sound call
  | _         => true

-- What is known of the call `k` that is at some point of `record_media`.
structure Progress (t : List PlaybackObservation) (s : PlaybackServer) (k : Nat) (call : PlaybackCall) :
    Prop where
  returned  : ∀ {input result}, .returned k input result ∈ t → call.point = .returned
  prepared  : call.point ≠ .returned →
    ∃ r : LabSessionEvidenceRecorder, r.prepareCanonicalPlayback call.input = .ok call.binding
  recorder  : call.point ≠ .returned → ∀ {w w'}, .moved k w w' ∈ t → w'.recorder = w.recorder
  unchanged : call.point ≠ .returned → call.changed = false → ∀ {w w'}, .moved k w w' ∈ t → w' = w
  changed   : call.point ≠ .returned → call.changed = true → ∃ w w', .moved k w w' ∈ t ∧ w' ≠ w
  fresh     : call.point = .acknowledge →
    call.changed = false ∧ ∀ turn deliveries, .registered k turn deliveries ∉ t
  reconcile : ∀ {turn rest}, call.point = .reconcile turn rest →
    ∃ done, (∀ i ds, .registered k i ds ∈ t ↔ i = turn ∧ ds = done ++ rest) ∧ ∀ d ∈ done, s.Played turn d
  record    : call.point = .record →
    ∃ turn ds, (∀ i ds', .registered k i ds' ∈ t ↔ i = turn ∧ ds' = ds) ∧ ∀ d ∈ ds, s.Played turn d

structure Consistent (t : List PlaybackObservation) (s : PlaybackServer) : Prop where
  wellFormed : ∀ i, (s.turns i).1.WellFormed
  known      : ∀ o ∈ t, o.call < s.calls.length
  progress   : ∀ {k call}, s.calls[k]? = some call → Progress t s k call

-- The turns only go on.
def Goes (s s' : PlaybackServer) : Prop :=
  ∀ i, (s.turns i).1.Change (s'.turns i).1

variable {t : List PlaybackObservation} {s s' : PlaybackServer} {k : Nat} {call call' : PlaybackCall}
  {o : List PlaybackObservation}

theorem Goes.refl (h : s'.turns = s.turns) : s.Goes s' := by
  intro i
  rw [h]
  exact .media (s.turns i).1.media

theorem Goes.setTurn {i : Nat} {turn : TurnMutableState} (h : (s.turns i).1.Change turn) :
    s.Goes (s.setTurn i turn) := by
  intro j
  by_cases hj : j = i
  case pos => simpa [PlaybackServer.setTurn, hj] using h
  case neg => simpa [PlaybackServer.setTurn, hj] using TurnMutableState.Change.media (s.turns j).1.media

theorem Goes.played {turn : Nat} {d : OutputDeliveryHandle} (h : s.Goes s') (hp : s.Played turn d) :
    s'.Played turn d :=
  (h turn).played hp

theorem Progress.other (h : Progress t s k call) (hg : s.Goes s') (ho : ∀ x ∈ o, x.call ≠ k) :
    Progress (t ++ o) s' k call := by
  have hm : ∀ {x : PlaybackObservation}, x.call = k → (x ∈ t ++ o ↔ x ∈ t) := fun hx => by
    rw [List.mem_append, or_iff_left fun h => ho _ h hx]
  refine ⟨fun hr => h.returned ((hm rfl).mp hr), h.prepared, fun hp _ _ hw => h.recorder hp ((hm rfl).mp hw),
    fun hp hc _ _ hw => h.unchanged hp hc ((hm rfl).mp hw), fun hp hc => ?changed,
    fun hp => (h.fresh hp).imp_right fun hf turn ds hr => hf turn ds ((hm rfl).mp hr), fun hp => ?reconcile,
    fun hp => ?record⟩
  case changed =>
    have ⟨w, w', hw, hn⟩ := h.changed hp hc
    exact ⟨w, w', (hm rfl).mpr hw, hn⟩
  case reconcile =>
    have ⟨done, hr, hd⟩ := h.reconcile hp
    exact ⟨done, fun i ds => (hm rfl).trans (hr i ds), fun d hm => hg.played (hd d hm)⟩
  case record =>
    have ⟨turn, ds, hr, hd⟩ := h.record hp
    exact ⟨turn, ds, fun i ds => (hm rfl).trans (hr i ds), fun d hm => hg.played (hd d hm)⟩

-- A step that no call takes.
theorem Consistent.other (h : Consistent t s) (hg : s.Goes s') (hc : s'.calls = s.calls) :
    Consistent (t ++ []) s' where
  wellFormed i := (hg i).preserves_wellFormed (h.wellFormed i)
  known o ho := hc ▸ h.known o (by simpa using ho)
  progress hk := (h.progress (hc ▸ hk)).other hg (by simp)

-- A step that the call `k` takes.
theorem Consistent.set (h : Consistent t s) (hk : s.calls[k]? = some call) (hg : s.Goes s')
    (hc : s'.calls = s.calls.set k call') (ho : ∀ x ∈ o, x.call = k) (hp : Progress (t ++ o) s' k call') :
    Consistent (t ++ o) s' where
  wellFormed i := (hg i).preserves_wellFormed (h.wellFormed i)
  known x hx := by
    rw [hc, List.length_set]
    obtain hx | hx := List.mem_append.mp hx
    case inl => exact h.known x hx
    case inr => exact ho x hx ▸ (List.getElem?_eq_some_iff.mp hk).choose
  progress {j} call'' hj := by
    have hl := (List.getElem?_eq_some_iff.mp hk).choose
    by_cases he : j = k
    case pos =>
      obtain rfl := he
      obtain rfl : call' = call'' := by simpa [hc, hl] using hj
      exact hp
    case neg =>
      have hj : s.calls[j]? = some call'' := by simpa [hc, Ne.symm he] using hj
      exact (h.progress hj).other hg fun x hx hxj => he (hxj.symm.trans (ho x hx))

-- A call that begins.
theorem Consistent.push (h : Consistent t s) (hg : s.Goes s') (hc : s'.calls = s.calls ++ [call])
    (ho : ∀ x ∈ o, x.call = s.calls.length) (hp : Progress (t ++ o) s' s.calls.length call) :
    Consistent (t ++ o) s' where
  wellFormed i := (hg i).preserves_wellFormed (h.wellFormed i)
  known x hx := by
    rw [hc, List.length_append]
    obtain hx | hx := List.mem_append.mp hx
    case inl => exact (h.known x hx).trans (by simp)
    case inr => simp [ho x hx]
  progress {j} call' hj := by
    rw [hc] at hj
    by_cases hl : j < s.calls.length
    case pos =>
      rw [List.getElem?_append_left hl] at hj
      exact (h.progress hj).other hg fun x hx hxj => hl.ne (hxj.symm.trans (ho x hx))
    case neg =>
      rw [List.getElem?_append_right (Nat.le_of_not_lt hl)] at hj
      have hl' := (List.getElem?_eq_some_iff.mp hj).choose
      have he : j = s.calls.length := by
        rw [List.length_singleton] at hl'
        omega
      obtain rfl := he
      obtain rfl : call = call' := by simpa using hj
      exact hp

theorem Progress.finished (hp : call.point = .returned) : Progress t s k call := by
  refine ⟨fun _ => hp, ?_, ?_, ?_, ?_, ?_, ?_, ?_⟩ <;> simp [hp]

-- A step after which the call goes on.
theorem Progress.goesOn (h : Progress t s k call) (hn : call.point ≠ .returned) (hr : s'.recorder = s.recorder)
    (ho : ∀ x ∈ o, ∃ turn ds, x = .registered k turn ds) (hi : call'.input = call.input)
    (hb : call'.binding = call.binding) (hc : call'.changed = true ↔ call.changed = true ∨ s'.world ≠ s.world)
    (hf : call'.point ≠ .acknowledge)
    (hl : ∀ {turn rest}, call'.point = .reconcile turn rest →
      ∃ done, (∀ i ds, .registered k i ds ∈ t ++ o ↔ i = turn ∧ ds = done ++ rest) ∧ ∀ d ∈ done, s'.Played turn d)
    (he : call'.point = .record →
      ∃ turn ds, (∀ i ds', .registered k i ds' ∈ t ++ o ↔ i = turn ∧ ds' = ds) ∧ ∀ d ∈ ds, s'.Played turn d) :
    Progress (t ++ .moved k s.world s'.world :: o) s' k call' := by
  have hm : ∀ {w w'}, .moved k w w' ∈ t ++ .moved k s.world s'.world :: o ↔
      .moved k w w' ∈ t ∨ w = s.world ∧ w' = s'.world := by
    intro w w'
    have hx : PlaybackObservation.moved k w w' ∉ o := fun hx => by simpa using ho _ hx
    simp [hx]
  have hg : ∀ {i ds}, PlaybackObservation.registered k i ds ∈ t ++ .moved k s.world s'.world :: o ↔
      .registered k i ds ∈ t ++ o := by simp
  refine ⟨fun hx => ?returned, fun _ => hi ▸ hb ▸ h.prepared hn, fun _ _ _ hw => ?recorder,
    fun _ hx _ _ hw => ?unchanged, fun _ hx => ?changed, fun hx => absurd hx hf, fun hx => by simpa only [hg] using hl hx,
    fun hx => by simpa only [hg] using he hx⟩
  case returned =>
    obtain hx | hx : .returned k _ _ ∈ t ∨ .returned k _ _ ∈ o := by simpa using hx
    case inl => exact absurd (h.returned hx) hn
    case inr => simpa using ho _ hx
  case recorder =>
    obtain hw | ⟨rfl, rfl⟩ := hm.mp hw
    case inl => exact h.recorder hn hw
    case inr => exact hr
  case unchanged =>
    have ⟨hx, hs⟩ := not_or.mp (mt hc.mpr (by simp [hx]))
    obtain hw | ⟨rfl, rfl⟩ := hm.mp hw
    case inl => exact h.unchanged hn (by simpa using hx) hw
    case inr => exact not_not.mp hs
  case changed =>
    obtain hx | hx := hc.mp hx
    case inl =>
      have ⟨w, w', hw, hne⟩ := h.changed hn hx
      exact ⟨w, w', hm.mpr (.inl hw), hne⟩
    case inr => exact ⟨s.world, s'.world, hm.mpr (.inr ⟨rfl, rfl⟩), hx⟩

theorem AllOrNothing.other (h : AllOrNothing t s k) (hg : s.Goes s') (ho : ∀ x ∈ o, x.call ≠ k) :
    AllOrNothing (t ++ o) s' k := by
  have hm : ∀ {x : PlaybackObservation}, x.call = k → (x ∈ t ++ o ↔ x ∈ t) := fun hx => by
    rw [List.mem_append, or_iff_left fun h => ho _ h hx]
  refine ⟨fun hr hw => h.refused ((hm rfl).mp hr) ((hm rfl).mp hw), fun hr => ?delivered, fun hr => ?confirmed⟩
  case delivered =>
    have ⟨⟨turn, ds, hd⟩, hp⟩ := h.delivered ((hm rfl).mp hr)
    exact ⟨⟨turn, ds, (hm rfl).mpr hd⟩, fun i ds hi d hd => hg.played (hp i ds ((hm rfl).mp hi) d hd)⟩
  case confirmed =>
    have ⟨request, hq, ⟨w, w', hw, hc⟩, hn⟩ := h.confirmed ((hm rfl).mp hr)
    exact ⟨request, hq, ⟨w, w', (hm rfl).mpr hw, hc⟩, fun w w' hw => hn w w' ((hm rfl).mp hw)⟩

-- A step of the call `k`, with what it says about the call.
structure Stepped (t : List PlaybackObservation) (s s' : PlaybackServer) (o : List PlaybackObservation)
    (k : Nat) (call : PlaybackCall) : Prop where
  consistent   : Consistent (t ++ .moved k s.world s'.world :: o) s'
  goes         : s.Goes s'
  own          : ∀ x ∈ o, x.call = k
  allOrNothing : AllOrNothing (t ++ .moved k s.world s'.world :: o) s' k ↔
    (!call.changed || s.sound call) = true

-- A step after which the call goes on.
theorem Stepped.resumed (h : Consistent t s) (hk : s.calls[k]? = some call) (hg : s.Goes s')
    (hc : s'.calls = s.calls.set k call') (ho : ∀ x ∈ o, x.call = k)
    (hp : Progress (t ++ .moved k s.world s'.world :: o) s' k call') (hr : call'.point ≠ .returned)
    (hs : s.sound call = true) : Stepped t s s' o k call where
  consistent   := h.set hk hg hc (by simpa using ⟨rfl, ho⟩) hp
  goes         := hg
  own          := ho
  allOrNothing := by
    refine iff_of_true ?_ (by simp [hs])
    constructor <;> exact fun ht => absurd (hp.returned ht) hr

-- A step by which the call is refused.
theorem Stepped.refused {e : MediaRecordError} (h : Consistent t s) (hk : s.calls[k]? = some call)
    (hp : call.point ≠ .returned) (ht : s'.turns = s.turns) (hr : s'.recorder = s.recorder)
    (hc : s'.calls = s.calls.set k call') (hp' : call'.point = .returned)
    (hs : call.changed = true → s.sound call = false) :
    Stepped t s s' [.returned k call.input (.error e)] k call where
  consistent   := h.set hk (.refl ht) hc (by simp [PlaybackObservation.call]) (.finished hp')
  goes         := .refl ht
  own          := by simp [PlaybackObservation.call]
  allOrNothing := by
    have hw : s'.world = s.world := by simp only [world, ht, hr]
    have hg := h.progress hk
    have hn : ∀ {input result}, .returned k input result ∉ t := fun hm => hp (hg.returned hm)
    cases hx : call.changed
    case true =>
      have ⟨w, w', hm, hne⟩ := hg.changed hp hx
      simp only [hs hx, Bool.not_true, Bool.or_false, Bool.false_eq_true, iff_false]
      exact fun ha => hne <| ha.refused (List.mem_append_right _ (.tail _ (.head _))) (by simp [hm])
    case false =>
      refine iff_of_true ⟨fun _ hm => ?_, fun hm => ?_, fun hm => ?_⟩ rfl
      · obtain hm | hm : PlaybackObservation.moved k _ _ ∈ t ∨ _ := by simpa using hm
        case inl => exact hg.unchanged hp hx hm
        case inr => rw [hm.1, hm.2, hw]
      all_goals simp [hn] at hm

-- A step by which the call is accepted.
theorem Stepped.accepted (h : Consistent t s) (hk : s.calls[k]? = some call)
    (hp : call.point = .record) (ht : s'.turns = s.turns) (hc : s'.calls = s.calls.set k call')
    (hp' : call'.point = .returned)
    (hr : s.recorder.recordCanonicalPlayback call.input call.binding.1 call.binding.2 = .ok s'.recorder) :
    Stepped t s s' [.returned k call.input (.ok ())] k call where
  consistent   := h.set hk (.refl ht) hc (by simp [PlaybackObservation.call]) (.finished hp')
  goes         := .refl ht
  own          := by simp [PlaybackObservation.call]
  allOrNothing := by
    have hg := h.progress hk
    have hnr : call.point ≠ .returned := by simp [hp]
    have hn : ∀ {input result}, .returned k input result ∉ t := fun hm => hnr (hg.returned hm)
    have ⟨_, hb⟩ := hg.prepared hnr
    have hs : s.sound call = true := by
      have ha := LabSessionEvidenceRecorder.prepareCanonicalPlayback_eq_ok_iff.mpr ⟨_, hr⟩
      simpa [sound, hp] using (LabSessionEvidenceRecorder.prepareCanonicalPlayback_again hb).mp ha
    have ⟨turn, ds, hd, hpl⟩ := hg.record hp
    have ⟨request, a, hq, ha, hv⟩ := LabSessionEvidenceRecorder.recordCanonicalPlayback_eq_ok hr
    have hm : ∀ {i deliveries}, PlaybackObservation.registered k i deliveries ∈
        t ++ [.moved k s.world s'.world, .returned k call.input (.ok ())] ↔ i = turn ∧ deliveries = ds := by
      simp [hd]
    refine iff_of_true ⟨fun hr => ?refused, fun _ => ⟨⟨turn, ds, hm.mpr ⟨rfl, rfl⟩⟩, ?delivered⟩,
      fun hr => ⟨request, ?request, ⟨s.world, s'.world, by simp, ?confirmed⟩, ?only⟩⟩ (by simp [hs])
    case refused   => simp [hn] at hr
    case delivered =>
      intro i deliveries hi d hx
      obtain ⟨rfl, rfl⟩ := hm.mp hi
      exact Goes.played (.refl ht) (hpl d hx)
    case request =>
      obtain rfl := by simpa [hn] using hr
      exact hq
    case confirmed => simp [PlaybackWorld.confirmed, world, hv, LabVoiceAttemptEvidence.confirm]
    case only      =>
      intro w w' hw j hj
      obtain hw | ⟨rfl, rfl⟩ : .moved k w w' ∈ t ∨ w = s.world ∧ w' = s'.world := by simpa using hw
      case inl => simp only [PlaybackWorld.confirmed, hg.recorder hnr hw]
      case inr => simp [PlaybackWorld.confirmed, world, hv, Std.TreeMap.getElem?_insert, hj.symm]

-- A receipt by its handle.
theorem acknowledge_change (receipt : Receipt) (turn : Nat) (d : OutputDeliveryHandle) (s : TurnMutableState) :
    s.Change ((d.acknowledge receipt turn).run s).state := by
  by_cases hd : d.turnId = turn
  case pos =>
    rw [OutputDeliveryHandle.acknowledge, if_pos hd]
    have ⟨_, hr, hs⟩ := TurnMutableState.receipt_received receipt d.segmentId s
    exact hs ▸ .receipt hr
  case neg =>
    rw [OutputDeliveryHandle.acknowledge, if_neg hd]
    exact .media s.media

theorem acknowledgeOutputPlayed_run (turn : Nat) (d : OutputDeliveryHandle) (s : TurnMutableState) :
    if d.turnId = turn && s.departed d.segmentId then
      ((d.acknowledgeOutputPlayed turn).run s).toExcept = .ok () ∧
        ((d.acknowledgeOutputPlayed turn).run s).state.Played d.segmentId
    else (d.acknowledgeOutputPlayed turn).run s = .error .invalidStateTransition s := by
  have h := s.reconcileOutputPlayed_run d.segmentId
  by_cases hd : d.turnId = turn
  all_goals simp only [OutputDeliveryHandle.acknowledgeOutputPlayed, OutputDeliveryHandle.acknowledge]
  case pos => simpa [hd, Receipt.reconcile] using h
  case neg => simp [hd]

theorem Stepped.acknowledge (h : Consistent t s) (hk : s.calls[k]? = some call) (hp : call.point = .acknowledge)
    (hr : s.resume k call = some (s', o)) : Stepped t s s' o k call := by
  have hg := h.progress hk
  have ⟨hf, hd⟩ := hg.fresh hp
  have hn : call.point ≠ .returned := by simp [hp]
  simp only [resume, hp] at hr
  split at hr
  case isTrue  => cases hr
  case isFalse =>
    split at hr
    case h_1 e he =>
      cases hr
      exact .refused h hk hn rfl rfl rfl rfl (by simp [hf])
    case h_2 turn deliveries he =>
      cases hr
      refine .resumed h hk (.refl rfl) rfl (by simp [PlaybackObservation.call]) ?_ (by simp) (by simp [sound, hp])
      refine hg.goesOn hn rfl (by simp) rfl rfl (by simp [world, setCall]) (by simp) (fun hx => ?_) (by simp)
      obtain ⟨rfl, rfl⟩ := by simpa using hx
      exact ⟨[], by simp [hd], by simp⟩

theorem Stepped.reconcile {turn : Nat} {d : OutputDeliveryHandle} {rest : List OutputDeliveryHandle}
    (h : Consistent t s) (hk : s.calls[k]? = some call) (hp : call.point = .reconcile turn (d :: rest))
    (hr : s.resume k call = some (s', o)) : Stepped t s s' o k call := by
  have hg := h.progress hk
  have hn : call.point ≠ .returned := by simp [hp]
  have hx := acknowledgeOutputPlayed_run turn d (s.turns turn).1
  simp only [resume, hp, PlaybackServer.reconcile, Option.some.injEq] at hr
  by_cases hd : (d.turnId = turn && (s.turns turn).1.departed d.segmentId) = true
  case neg =>
    have hx := if_neg hd ▸ hx
    simp only [hx, EStateM.Result.toExcept, EStateM.Result.state, finish] at hr
    cases hr
    exact .refused h hk hn (by simp [setTurn, setCall]) rfl rfl rfl fun _ => by simpa [sound, hp] using hd
  case pos =>
    obtain ⟨he, hpl⟩ := if_pos hd ▸ hx
    have hgo : s.Goes (s.setTurn turn ((d.acknowledgeOutputPlayed turn).run (s.turns turn).1).state) :=
      .setTurn (acknowledge_change .played turn d _)
    obtain ⟨done, hm, hdone⟩ := hg.reconcile hp
    simp only [he] at hr
    cases hr
    refine .resumed h hk hgo rfl (by simp) ?_ (by simp) (by simpa [sound, hp] using hd)
    refine hg.goesOn hn rfl (by simp) rfl rfl ?changed (by simp) (fun hr => ?_) (by simp)
    case changed =>
      simp only [Bool.or_eq_true, decide_eq_true_eq]
      refine or_congr_right <| not_congr ⟨fun hs => ?_, fun hs => ?_⟩
      · simp only [world, setCall, setTurn, PlaybackWorld.mk.injEq, true_and]
        funext i
        by_cases hi : i = turn
        case pos => simpa [hi] using hs
        case neg => simp [hi]
      · simpa [world, setCall, setTurn] using congrFun (congrArg PlaybackWorld.segments hs) turn
    obtain ⟨rfl, rfl⟩ := by simpa using hr
    refine ⟨done ++ [d], by simpa using hm, fun d' hd' => ?_⟩
    obtain hd' | hd' := List.mem_append.mp hd'
    case inl => exact hgo.played (hdone d' hd')
    case inr =>
      obtain rfl := List.mem_singleton.mp hd'
      simpa [Played, setCall, setTurn] using hpl

theorem Stepped.endReconcile {turn : Nat} (h : Consistent t s) (hk : s.calls[k]? = some call)
    (hp : call.point = .reconcile turn []) (hr : s.resume k call = some (s', o)) : Stepped t s s' o k call := by
  have hg := h.progress hk
  have ⟨done, hm, hdone⟩ := hg.reconcile hp
  simp only [resume, hp, Option.some.injEq] at hr
  cases hr
  refine .resumed h hk (.refl rfl) rfl (by simp) ?_ (by simp) (by simp [sound, hp])
  refine hg.goesOn (by simp [hp]) rfl (by simp) rfl rfl (by simp [world, setCall]) (by simp) (by simp) fun _ => ?_
  exact ⟨turn, done, by simpa using hm, hdone⟩

theorem Stepped.record (h : Consistent t s) (hk : s.calls[k]? = some call) (hp : call.point = .record)
    (hr : s.resume k call = some (s', o)) : Stepped t s s' o k call := by
  have hn : call.point ≠ .returned := by simp [hp]
  simp only [resume, hp] at hr
  split at hr
  case h_1 e he =>
    cases hr
    refine .refused h hk hn rfl rfl rfl rfl fun _ => ?_
    obtain ⟨_, hb⟩ := (h.progress hk).prepared hn
    rw [sound, hp, ← Bool.not_eq_true]
    intro ha
    have ha := (LabSessionEvidenceRecorder.prepareCanonicalPlayback_again hb).mpr ha
    obtain ⟨_, hr⟩ := LabSessionEvidenceRecorder.prepareCanonicalPlayback_eq_ok_iff.mp ha
    simp [hr] at he
  case h_2 recorder he =>
    cases hr
    exact .accepted h hk hp rfl rfl rfl he

theorem resume_stepped (h : Consistent t s) (hk : s.calls[k]? = some call) (hr : s.resume k call = some (s', o)) :
    Stepped t s s' o k call := by
  cases hp : call.point
  case acknowledge         => exact .acknowledge h hk hp hr
  case reconcile turn rest =>
    cases rest
    case nil  => exact .endReconcile h hk hp hr
    case cons => exact .reconcile h hk hp hr
  case record   => exact .record h hk hp hr
  case returned => simp [resume, hp] at hr

-- A `record_media` that begins has changed nothing.
theorem begin_consistent {input : LabMediaEvidenceInput} (h : Consistent t s) (hb : s.begin input = (s', o)) :
    Consistent (t ++ o) s' ∧ ∀ j, AllOrNothing t s j → AllOrNothing (t ++ o) s' j := by
  have hn : ∀ x ∈ t, x.call ≠ s.calls.length := fun x hx => (h.known x hx).ne
  simp only [begin] at hb
  split at hb
  case h_1 e he =>
    cases hb
    refine ⟨h.push (.refl rfl) rfl (by simp [PlaybackObservation.call]) (.finished rfl), fun j ha => ?_⟩
    by_cases hj : j = s.calls.length
    case neg => exact ha.other (.refl rfl) (by simpa [PlaybackObservation.call] using Ne.symm hj)
    case pos =>
      obtain rfl := hj
      refine ⟨fun _ hw => ?_, fun hr => ?_, fun hr => ?_⟩
      · exact absurd rfl (hn _ (by simpa using hw))
      all_goals exact absurd rfl (hn _ (by simpa using hr))
  case h_2 binding he =>
    cases hb
    refine ⟨h.push (o := []) (.refl rfl) rfl (by simp) ?_, fun j ha => ha.other (.refl rfl) (by simp)⟩
    rw [List.append_nil]
    refine ⟨fun hr => ?_, fun _ => ⟨_, he⟩, fun _ _ _ hw => ?_, fun _ _ _ _ hw => ?_, by simp,
      fun _ => ⟨rfl, fun _ _ hr => ?_⟩, by simp, by simp⟩
    all_goals exact absurd rfl (hn _ ‹_›)

theorem Consistent.env (h : Consistent t s) (hg : s.Goes s') (hc : s'.calls = s.calls) :
    Consistent (t ++ []) s' ∧
      ((∀ j, AllOrNothing t s j) → ((∀ j, AllOrNothing (t ++ []) s' j) ↔ true = true)) :=
  ⟨h.other hg hc, fun ha => iff_of_true (fun j => (ha j).other hg (by simp)) rfl⟩

theorem acknowledgeVoice_goes (receipt : Receipt) (turn output : Nat) :
    s.Goes (s.acknowledgeVoice receipt turn output) := by
  simp only [acknowledgeVoice]
  split
  case h_1        => exact .refl rfl
  case h_2 i d he => exact .setTurn (acknowledge_change receipt i d _)

theorem acknowledgeVoice_calls (receipt : Receipt) (turn output : Nat) :
    (s.acknowledgeVoice receipt turn output).calls = s.calls := by
  simp only [acknowledgeVoice]
  split <;> rfl

theorem registerDelivery_goes (sequence turn : Nat) (d : OutputDeliveryHandle) :
    s.Goes (s.registerDelivery sequence turn d) ∧ (s.registerDelivery sequence turn d).calls = s.calls := by
  simp only [registerDelivery]
  split <;> exact ⟨.refl rfl, rfl⟩

-- A step keeps what is known, and it keeps the calls all or nothing exactly when it is admitted.
theorem step_allOrNothing {e : PlaybackEvent} (h : Consistent t s) (hs : machine.step s e = some (s', o)) :
    Consistent (t ++ o) s' ∧
      ((∀ j, AllOrNothing t s j) → ((∀ j, AllOrNothing (t ++ o) s' j) ↔ s.admits e = true)) := by
  cases e <;> simp only [machine] at hs
  case recordMedia input =>
    split at hs
    case isFalse => cases hs
    case isTrue  =>
      have ⟨hc, ha⟩ := begin_consistent h (Option.some.inj hs)
      exact ⟨hc, fun hj => iff_of_true (fun j => ha j (hj j)) rfl⟩
  case resume k =>
    split at hs
    case h_1         => cases hs
    case h_2 call hk =>
      obtain ⟨⟨_, o⟩, hr, hs⟩ := Option.map_eq_some_iff.mp hs
      cases hs
      have hp := resume_stepped h hk hr
      have hadm : s.admits (.resume k) = (!call.changed || s.sound call) := by simp [admits, hk]
      refine ⟨hp.consistent, fun ha => ?_⟩
      rw [hadm, ← hp.allOrNothing]
      refine ⟨fun hj => hj k, fun hj j => ?_⟩
      by_cases he : j = k
      case pos => exact he ▸ hj
      case neg =>
        refine (ha j).other hp.goes fun x hx hxj => he ?_
        obtain rfl | hx := List.mem_cons.mp hx
        · exact hxj.symm
        · exact hxj.symm.trans (hp.own x hx)
  case recorder call =>
    obtain ⟨⟨_, _⟩, hr, hs⟩ := Option.map_eq_some_iff.mp hs
    cases hs
    exact h.env (.refl rfl) rfl
  case turn i event =>
    obtain ⟨⟨_, _⟩, hr, hs⟩ := Option.map_eq_some_iff.mp hs
    cases hs
    have hc := TurnMutableState.step_change (h.wellFormed i) hr
    refine h.env (fun j => ?_) rfl
    by_cases hj : j = i
    case pos => simpa [hj] using hc
    case neg => simpa [hj] using TurnMutableState.Change.media (s.turns j).1.media
  case registerDelivery sequence turn d =>
    split at hs
    case isTrue  => cases hs
    case isFalse =>
      cases hs
      have ⟨hg, hc⟩ := registerDelivery_goes (s := s) sequence turn d
      exact h.env hg hc
  case clear =>
    split at hs
    case isTrue  => cases hs
    case isFalse =>
      cases hs
      exact h.env (.refl rfl) rfl
  all_goals
    split at hs
    case isTrue  => cases hs
    case isFalse =>
      cases hs
      exact h.env (acknowledgeVoice_goes _ _ _) (acknowledgeVoice_calls _ _ _)

theorem init_consistent (i : machine.init s) : Consistent [] s ∧ ∀ k, AllOrNothing [] s k := by
  obtain ⟨-, -, -, ht, hc⟩ := i
  refine ⟨⟨fun i => ?_, by simp, fun hk => by simp [hc] at hk⟩, fun k => ⟨?_, ?_, ?_⟩⟩
  · obtain ⟨_, _, _, h⟩ := ht i
    exact h ▸ TurnMutableState.new_wellFormed _ _
  all_goals simp

-- The completions of a run are all or nothing exactly when every step of it is admitted.
theorem run_allOrNothing_iff {s₀ : PlaybackServer} {es : List PlaybackEvent} (i : machine.init s₀)
    (h : machine.replay s₀ es = some (s, t)) :
    (∀ es₁ es₂ s t, es = es₁ ++ es₂ → machine.replay s₀ es₁ = some (s, t) → ∀ k, AllOrNothing t s k) ↔
      (machine.guarded admits).replay s₀ es = some (s, t) := by
  have ⟨hc, ha⟩ := init_consistent i
  exact Machine.replay_guarded_iff (I := Consistent) (P := fun t s => ∀ k, AllOrNothing t s k)
    (fun hi hs => (step_allOrNothing hi hs).left) (fun hi hp hs => (step_allOrNothing hi hs).right hp) hc ha es h

-- A server whose turns have this identifier.
def exampleServer (id : CanonicalId) : PlaybackServer where
  recorder := {}
  registry := ∅
  locked   := false
  turns    := fun _ => (.new (.new id id) 1, .new)
  calls    := []

theorem exampleServer_init (id : CanonicalId) : machine.init (exampleServer id) :=
  ⟨rfl, rfl, rfl, fun _ => ⟨id, id, 1, rfl⟩, rfl⟩

-- A reply in two segments of which the first was sent, up to the report that all of it was played.
def exampleReply : List PlaybackEvent :=
  ([.transition .authorized, .transition .processing, .transition .outputting, .beginOutputSegment,
      .beginOutputSegment, .reconcile .sent 1] : List TurnCall).map (fun c => .turn 0 (.call c)) ++
    [.registerDelivery 3 0 ⟨0, 1⟩, .registerDelivery 3 0 ⟨0, 2⟩, .recorder (.beginSession 1 .owner 0),
      .recorder (.beginVoice 1), .recorder (.bindVoiceSegment 1 ⟨3, 1⟩),
      .recordMedia ⟨1, some 1, .playbackCompleted, 900⟩]

-- The second segment is sent before the report is dealt with.
theorem run_allOrNothing_iff_sent : ∃ s₀ es s t, machine.replay s₀ es = some (s, t) ∧ s.world.confirmed 1 = true ∧
    ((∀ es₁ es₂ s t, es = es₁ ++ es₂ → machine.replay s₀ es₁ = some (s, t) → ∀ k, AllOrNothing t s k) ↔
      (machine.guarded admits).replay s₀ es = some (s, t)) := by
  let id : CanonicalId := ⟨"turn", by decide, by decide⟩
  let es := exampleReply ++ .acknowledgeVoiceDeliverySent 3 2 :: List.replicate 5 (.resume 0)
  have h : ((machine.replay (exampleServer id) es).any fun r => r.1.world.confirmed 1) = true := by decide +kernel
  have ⟨⟨s, t⟩, hr, hc⟩ := (Option.any_eq_true _ _).mp h
  exact ⟨_, es, s, t, hr, hc, run_allOrNothing_iff (exampleServer_init id) hr⟩

-- The second segment is not sent yet, so the report is refused. By then the first one is played.
theorem not_allOrNothing_prepared : ¬∀ t s, machine.Run t s → ∀ k, AllOrNothing t s k := by
  intro h
  let id : CanonicalId := ⟨"turn", by decide, by decide⟩
  have ⟨t, s, r, ht⟩ := Machine.Run.exists_of_replay (m := machine)
    (p := fun t => t.any (·.refuses 0) && t.any (·.changes 0 0)) (exampleServer id)
    (exampleReply ++ List.replicate 3 (.resume 0)) (exampleServer_init id) (by decide +kernel)
  simp only [Bool.and_eq_true, List.any_eq_true] at ht
  have ⟨⟨x, hx, hr⟩, y, hy, hc⟩ := ht
  obtain ⟨input, e, rfl⟩ := PlaybackObservation.refuses_iff.mp hr
  obtain ⟨w, w', rfl, hn⟩ := PlaybackObservation.changes_iff.mp hc
  exact hn <| congrArg (·.segments 0) ((h t s r 0).refused hx hy)

end PlaybackServer
