import PersonaRuntime.OwnerLab.VoiceStream

variable {ε : Type}

-- Everything that was seen of one stream.
structure VoiceStreamHistory (ε : Type) where
  -- How often `begin` has succeeded and `finish_with_unlock` was called.
  begun     : Nat
  finishes  : Nat
  -- The events that were accepted.
  pushed    : List ε
  finish    : List ε
  responses : List (List ε × Bool)
  -- What `clear` has dropped.
  lost      : List ε

namespace VoiceStreamHistory

def empty : VoiceStreamHistory ε :=
  ⟨0, 0, [], [], [], []⟩

def delivered (h : VoiceStreamHistory ε) : List ε :=
  h.responses.flatMap (·.1)

def observe (key : VoiceStreamKey) (h : VoiceStreamHistory ε) : VoiceStreamObservation ε → VoiceStreamHistory ε
  | .began k true                => if k = key then { h with begun := h.begun + 1 } else h
  | .pushed k event true         => if k = key then { h with pushed := h.pushed ++ [event] } else h
  | .finished k event found      =>
    if k = key then
      { h with finishes := h.finishes + 1, finish := h.finish ++ if found then [event] else [] }
    else
      h
  | .response k events terminal  =>
    if k = key then { h with responses := h.responses ++ [(events, terminal)] } else h
  | .cleared streams             =>
    { h with lost := h.lost ++ (streams.lookup key).elim [] (·.events) }
  | .began _ false | .pushed _ _ false | .missing _ => h

def of (key : VoiceStreamKey) (t : List (VoiceStreamObservation ε)) : VoiceStreamHistory ε :=
  t.foldl (observe key) empty

-- No key is begun twice, and each successful `begin` has at most one `finish_with_unlock`.
structure Disciplined (h : VoiceStreamHistory ε) : Prop where
  begun    : h.begun ≤ 1
  finishes : h.finishes ≤ h.begun

variable {key : VoiceStreamKey} {h : VoiceStreamHistory ε} {t t' : List (VoiceStreamObservation ε)}

theorem observe_mono (key : VoiceStreamKey) (o : VoiceStreamObservation ε) :
    h.begun ≤ (h.observe key o).begun ∧ h.finishes ≤ (h.observe key o).finishes := by
  unfold observe
  split <;> try split
  all_goals simp

theorem foldl_mono (key : VoiceStreamKey) : h.begun ≤ (t.foldl (observe key) h).begun ∧ h.finishes ≤ (t.foldl (observe key) h).finishes := by
  induction t generalizing h
  case nil => exact ⟨le_rfl, le_rfl⟩
  case cons o t hi =>
    have ho := observe_mono (h := h) key o
    exact ⟨Nat.le_trans ho.left hi.left, Nat.le_trans ho.right hi.right⟩

theorem of_append : of key (t ++ t') = t'.foldl (observe key) (of key t) :=
  List.foldl_append ..

end VoiceStreamHistory

open VoiceStreamHistory

-- What a step does to the stream of a key.
inductive VoiceStreamChange (key : VoiceStreamKey) :
    Option (VoiceStreamState ε) → List (VoiceStreamObservation ε) → Option (VoiceStreamState ε) → Prop
  | idle {stream o} : (∀ h, o.foldl (observe key) h = h) → VoiceStreamChange key stream o stream
  | begin : VoiceStreamChange key none [.began key true] (some .default)
  | push {events event} :
    (events.length < maxPendingVoiceStreamEvents - 1) →
    VoiceStreamChange key (some ⟨events, false⟩) [.pushed key event true] (some ⟨events ++ [event], false⟩)
  | finish {stream event} :
    VoiceStreamChange key (some stream) [.finished key event true] (some ⟨stream.events ++ [event], true⟩)
  | finishMissing {event} : VoiceStreamChange key none [.finished key event false] none
  | respond {events} :
    VoiceStreamChange key (some ⟨events, false⟩) [.response key events false] (some ⟨[], false⟩)
  | last {events} : VoiceStreamChange key (some ⟨events, true⟩) [.response key events true] none
  | clear {streams} : VoiceStreamChange key (streams.lookup key) [.cleared streams] none

-- A stream that is not terminal was there before the step, or it was begun by it.
theorem VoiceStreamChange.active {key : VoiceStreamKey} {o : List (VoiceStreamObservation ε)}
    {old : Option (VoiceStreamState ε)} {stream : VoiceStreamState ε}
    (c : VoiceStreamChange key old o (some stream)) (h : stream.terminal = false) :
    (∃ old', old = some old' ∧ old'.terminal = false) ∨ o = [.began key true] := by
  cases c
  case idle        => exact .inl ⟨stream, rfl, h⟩
  case begin       => exact .inr rfl
  case push events _ _ => exact .inl ⟨_, rfl, rfl⟩
  case finish      => cases h
  case respond     => exact .inl ⟨_, rfl, rfl⟩

namespace VoiceStreamRegistry

variable {s s' : VoiceStreamRegistry ε} {k key : VoiceStreamKey} {event : ε}

theorem lookup_setStream {f : VoiceStreamState ε → VoiceStreamState ε} :
    (s.setStream k f).streams.lookup key = if k = key then (s.streams.lookup key).map f else s.streams.lookup key := by
  rw [setStream, Table.lookup_update]
  by_cases h : k = key
  case pos => simp [h]
  case neg => simp [h, Ne.symm h]

theorem begin_change :
    VoiceStreamChange key (s.streams.lookup key) (s.begin k).2.2 ((s.begin k).1.streams.lookup key) := by
  unfold begin
  split
  case isTrue => exact .idle fun h => rfl
  case isFalse =>
    split
    case isTrue => exact .idle fun h => rfl
    case isFalse hc =>
      obtain rfl | hk := eq_or_ne key k
      case inl =>
        have hn : s.streams.lookup key = none := AList.lookup_eq_none.mpr fun hm => hc (.inr (.inl hm))
        simp only [AList.lookup_insert, hn]
        exact .begin
      case inr =>
        simp only [AList.lookup_insert_ne hk]
        exact .idle fun h => by simp [observe, Ne.symm hk]

theorem push_change :
    VoiceStreamChange key (s.streams.lookup key) (s.push k event).2.2 ((s.push k event).1.streams.lookup key) := by
  unfold push
  split
  case h_1 => exact .idle fun h => rfl
  case h_2 stream hs =>
    split
    case isTrue => exact .idle fun h => rfl
    case isFalse hc =>
      simp only [lookup_setStream]
      split
      case isFalse hk => exact .idle fun h => by simp [observe, hk]
      case isTrue hk =>
        subst hk
        obtain ⟨events, _ | _⟩ := stream
        case true => simp at hc
        case false =>
          rw [hs]
          exact .push (Nat.lt_of_not_le fun hl => hc (.inr hl))

theorem finish_change :
    VoiceStreamChange key (s.streams.lookup key) (s.finishWithUnlock k event).2.2
      ((s.finishWithUnlock k event).1.streams.lookup key) := by
  unfold finishWithUnlock
  by_cases hk : k = key
  case neg => split <;> simp only [lookup_setStream, hk, if_false] <;> exact .idle fun h => by simp [observe, hk]
  case pos =>
    subst hk
    split
    case h_1 hs =>
      rw [hs]
      exact .finishMissing
    case h_2 stream hs =>
      simp only [lookup_setStream, if_true, hs]
      exact .finish

theorem drain_change :
    VoiceStreamChange key (s.streams.lookup key) (s.drain k).2.2 ((s.drain k).1.streams.lookup key) := by
  unfold drain
  split
  case h_1 => exact .idle fun h => rfl
  case h_2 stream hs =>
    by_cases hk : k = key
    case neg =>
      have hl : (if stream.terminal then (s.setStream k ({ · with events := [] })).streams.erase k
          else (s.setStream k ({ · with events := [] })).streams).lookup key = s.streams.lookup key := by
        split <;> simp [AList.lookup_erase_ne (Ne.symm hk), lookup_setStream, hk]
      simp only [hl]
      exact .idle fun h => by simp [observe, hk]
    case pos =>
      subst hk
      obtain ⟨events, _ | _⟩ := stream
      case false =>
        simp only [Bool.false_eq_true, if_false, lookup_setStream, if_true, hs]
        exact .respond
      case true =>
        simp only [if_true, AList.lookup_erase, hs]
        exact .last

theorem waitEvents_change :
    VoiceStreamChange key (s.streams.lookup key) (s.waitEvents k).2.2 ((s.waitEvents k).1.streams.lookup key) := by
  unfold waitEvents
  split
  case h_1 => exact .idle fun h => rfl
  case h_2 =>
    split
    case isTrue  => exact .idle fun h => rfl
    case isFalse => exact drain_change

-- What a step does to the map.
structure Change (s : VoiceStreamRegistry ε) (o : List (VoiceStreamObservation ε)) (s' : VoiceStreamRegistry ε) :
    Prop where
  stream : ∀ key, VoiceStreamChange key (s.streams.lookup key) o (s'.streams.lookup key)
  room   : s'.streams.entries.length ≤ s.streams.entries.length ∨
    s'.streams.entries.length ≤ maxRetainedVoiceStreams
  -- Nothing is begun beside a stream that is not terminal.
  fresh  : ∀ key stream, .began key true ∈ o → stream ∈ s.streams.entries → stream.2.terminal = true

theorem length_setStream {f : VoiceStreamState ε → VoiceStreamState ε} :
    (s.setStream k f).streams.entries.length = s.streams.entries.length :=
  List.length_map ..

theorem begin_room : (s.begin k).1.streams.entries.length ≤ s.streams.entries.length ∨
    (s.begin k).1.streams.entries.length ≤ maxRetainedVoiceStreams := by
  unfold begin
  split
  case isTrue => exact .inl le_rfl
  case isFalse =>
    split
    case isTrue => exact .inl le_rfl
    case isFalse hc =>
      have hl : (s.streams.insert k .default).entries.length ≤ s.streams.entries.length + 1 :=
        Table.length_insert_le
      simp only [not_or, Nat.not_le] at hc
      right
      dsimp only
      omega

theorem begin_fresh {stream : Sigma fun _ : VoiceStreamKey => VoiceStreamState ε}
    (h : .began key true ∈ (s.begin k).2.2) (hs : stream ∈ s.streams.entries) : stream.2.terminal = true := by
  unfold begin at h
  split at h
  case isTrue => simp at h
  case isFalse =>
    split at h
    case isTrue => simp at h
    case isFalse hc =>
      simp only [Table.any, not_or, List.any_eq_true, not_exists, not_and] at hc
      simpa using hc.right.right stream hs

theorem drain_room : (s.drain k).1.streams.entries.length ≤ s.streams.entries.length := by
  unfold drain
  split
  case h_1 => exact le_rfl
  case h_2 =>
    dsimp only
    split
    case isTrue  => exact Nat.le_trans Table.length_erase_le (Nat.le_of_eq length_setStream)
    case isFalse => exact Nat.le_of_eq length_setStream

theorem drain_began {o : VoiceStreamObservation ε} (h : o ∈ (s.drain k).2.2) : o ≠ .began key true := by
  unfold drain at h
  split at h <;> simp at h <;> simp [h]

theorem enter_change {c : VoiceStreamCall ε} (env : Unit) {after : List VoiceStreamInstruction}
    {o : List (VoiceStreamObservation ε)} (h : s.enter c env = some (s', after, o)) : Change s o s' := by
  cases c <;> simp only [enter, Option.some.injEq] at h
  case begin k =>
    rw [show s' = (s.begin k).1 by rw [h], show o = (s.begin k).2.2 by rw [h]]
    exact ⟨fun _ => begin_change, begin_room, fun _ _ => begin_fresh⟩
  case push k event =>
    rw [show s' = (s.push k event).1 by rw [h], show o = (s.push k event).2.2 by rw [h]]
    refine ⟨fun _ => push_change, .inl ?_, ?_⟩
    all_goals
      unfold push
      split <;> try split
      all_goals simp [length_setStream]
  case finishWithUnlock k event =>
    rw [show s' = (s.finishWithUnlock k event).1 by rw [h], show o = (s.finishWithUnlock k event).2.2 by rw [h]]
    refine ⟨fun _ => finish_change, .inl ?_, ?_⟩
    all_goals
      unfold finishWithUnlock
      split
      all_goals simp [length_setStream]
  case waitEvents k =>
    rw [show s' = (s.waitEvents k).1 by rw [h], show o = (s.waitEvents k).2.2 by rw [h]]
    refine ⟨fun _ => waitEvents_change, .inl ?_, fun key stream hm _ => ?_⟩
    case refine_1 =>
      unfold waitEvents
      split <;> try split
      case h_1 => exact le_rfl
      case h_2.isTrue => exact le_rfl
      case h_2.isFalse => exact drain_room
    case refine_2 =>
      unfold waitEvents at hm
      split at hm <;> try split at hm
      case h_1 => simp at hm
      case h_2.isTrue => simp at hm
      case h_2.isFalse => exact absurd rfl (drain_began hm)
  case clear =>
    cases h
    exact ⟨fun _ => .clear, .inl (Nat.zero_le _), by simp⟩

theorem step_change {before after : List VoiceStreamInstruction} {o : List (VoiceStreamObservation ε)}
    (h : (program ε).Effect s before s' after o) : Change s o s' := by
  cases h
  case enter env h => exact enter_change env h
  case execute i _ h =>
    obtain ⟨k⟩ := i
    simp only [program, execute, Option.some.injEq] at h
    rw [show s' = (s.drain k).1 by rw [h], show o = (s.drain k).2.2 by rw [h]]
    exact ⟨fun _ => drain_change, .inl drain_room, fun _ _ hm => absurd rfl (drain_began hm)⟩

end VoiceStreamRegistry

-- What one stream can look like beside what was seen of it.
inductive VoiceStreamPhase (h : VoiceStreamHistory ε) : Option (VoiceStreamState ε) → Prop
  | fresh : h.begun = 0 → h.pushed = [] → h.finish = [] → h.responses = [] → h.lost = [] → VoiceStreamPhase h none
  | live {events} :
    0 < h.begun → h.finish = [] → h.lost = [] → (∀ r ∈ h.responses, r.2 = false) →
    h.pushed = h.delivered ++ events → events.length < maxPendingVoiceStreamEvents →
    VoiceStreamPhase h (some ⟨events, false⟩)
  | terminal {front event} :
    0 < h.begun → 0 < h.finishes → h.finish = [event] → h.lost = [] → (∀ r ∈ h.responses, r.2 = false) →
    h.pushed = h.delivered ++ front → front.length < maxPendingVoiceStreamEvents →
    VoiceStreamPhase h (some ⟨front ++ [event], true⟩)
  | done {before front event} :
    0 < h.begun → h.finish = [event] → h.lost = [] → h.responses = before ++ [(front ++ [event], true)] →
    (∀ r ∈ before, r.2 = false) → h.pushed ++ [event] = h.delivered → VoiceStreamPhase h none
  | cleared :
    0 < h.begun → (∀ r ∈ h.responses, r.2 = false) → h.delivered <+: h.pushed → h.finish.length ≤ 1 →
    h.pushed ++ h.finish = h.delivered ++ h.lost → VoiceStreamPhase h none

namespace VoiceStreamPhase

variable {key : VoiceStreamKey} {h : VoiceStreamHistory ε} {o : List (VoiceStreamObservation ε)}
variable {stream stream' : Option (VoiceStreamState ε)}

-- One step of the registry, as long as the stream is begun and finished once.
theorem change (p : VoiceStreamPhase h stream) (c : VoiceStreamChange key stream o stream')
    (hb : (o.foldl (observe key) h).begun ≤ 1) (hf : (o.foldl (observe key) h).finishes ≤ 1) :
    VoiceStreamPhase (o.foldl (observe key) h) stream' := by
  cases c
  case idle hi => rwa [hi h]
  all_goals simp only [List.foldl_cons, List.foldl_nil, observe, if_true] at hb hf ⊢
  case begin =>
    cases p
    case fresh h₁ h₂ h₃ h₄ h₅ =>
      refine .live (by simp) h₃ h₅ (by simp [h₄]) (by simp [delivered, h₂, h₄]) (Nat.zero_lt_succ 63)
    all_goals omega
  case push events event hl =>
    cases p
    case live h₁ h₂ h₃ h₄ h₅ _ =>
      refine .live h₁ h₂ h₃ h₄ (by simp [delivered, h₅]) ?_
      simp only [List.length_append, List.length_singleton]
      omega
  case finish stream event =>
    cases p
    case live h₁ h₂ h₃ h₄ h₅ h₆ => exact .terminal h₁ (by simp) (by simp [h₂]) h₃ h₄ h₅ h₆
    case terminal => omega
  case finishMissing event =>
    cases p
    case fresh h₁ h₂ h₃ h₄ h₅ => exact .fresh h₁ h₂ (by simp [h₃]) h₄ h₅
    case done h₁ h₂ h₃ h₄ h₅ h₆ => exact .done h₁ (by simp [h₂]) h₃ h₄ h₅ h₆
    case cleared h₁ h₂ h₃ h₄ h₅ => exact .cleared h₁ h₂ h₃ (by simpa using h₄) (by simpa [delivered] using h₅)
  case respond events =>
    cases p
    case live h₁ h₂ h₃ h₄ h₅ h₆ =>
      refine .live h₁ h₂ h₃ ?_ (by simpa [delivered] using h₅) (Nat.zero_lt_succ 63)
      intro r hr
      obtain hr | hr := List.mem_append.mp hr
      · exact h₄ r hr
      · exact congrArg Prod.snd (List.mem_singleton.mp hr)
  case last events =>
    cases p
    case terminal front event h₁ h₂ h₃ h₄ h₅ h₆ h₇ =>
      exact .done h₁ h₃ h₄ rfl h₅ (by simp [delivered, h₆])
  case clear streams =>
    generalize streams.lookup key = stream at p ⊢
    cases p
    case fresh h₁ h₂ h₃ h₄ h₅ => exact .fresh h₁ h₂ h₃ h₄ (by simp [h₅])
    case live events h₁ h₂ h₃ h₄ h₅ h₆ =>
      exact .cleared h₁ h₄ ⟨events, h₅.symm⟩ (by simp [h₂]) (by simp [delivered, h₂, h₃, h₅])
    case terminal front event h₁ h₂ h₃ h₄ h₅ h₆ h₇ =>
      exact .cleared h₁ h₅ ⟨front, h₆.symm⟩ (by simp [h₃]) (by simp [delivered, h₃, h₄, h₆])
    case done h₁ h₂ h₃ h₄ h₅ h₆ => exact .done h₁ h₂ (by simp [h₃]) h₄ h₅ h₆
    case cleared h₁ h₂ h₃ h₄ h₅ => exact .cleared h₁ h₂ h₃ h₄ (by simpa [delivered] using h₅)

end VoiceStreamPhase

-- What the events of one stream have come to.
structure ExactlyOnce (h : VoiceStreamHistory ε) (stream : Option (VoiceStreamState ε)) : Prop where
  -- Every accepted event, in the order of the pushes, is delivered, lost to `clear` or still buffered.
  exact : h.pushed ++ h.finish = h.delivered ++ h.lost ++ stream.elim [] (·.events)
  once  : h.finish.length ≤ 1
  -- A response that is marked terminal is the last one, ends with the last event, and nothing is left.
  ended : ∀ events, (events, true) ∈ h.responses → ∃ before front event,
    h.responses = before ++ [(events, true)] ∧ (∀ r ∈ before, r.2 = false) ∧ events = front ++ [event] ∧
      h.finish = [event] ∧ h.delivered = h.pushed ++ [event] ∧ h.lost = [] ∧ stream = none
  -- No other response has the last event.
  unended : (∀ r ∈ h.responses, r.2 = false) → h.delivered <+: h.pushed

theorem VoiceStreamPhase.exactlyOnce {h : VoiceStreamHistory ε} {stream : Option (VoiceStreamState ε)}
    (p : VoiceStreamPhase h stream) : ExactlyOnce h stream := by
  have hn {events : List ε} (ho : ∀ r ∈ h.responses, r.2 = false) (hm : (events, true) ∈ h.responses) : False :=
    nomatch ho _ hm
  cases p
  case fresh h₁ h₂ h₃ h₄ h₅ =>
    constructor <;> simp [delivered, h₂, h₃, h₄, h₅]
  case live events h₁ h₂ h₃ h₄ h₅ h₆ =>
    exact ⟨by simp [h₂, h₃, h₅], by simp [h₂], fun _ hm => (hn h₄ hm).elim, fun _ => ⟨events, h₅.symm⟩⟩
  case terminal front event h₁ h₂ h₃ h₄ h₅ h₆ h₇ =>
    exact ⟨by simp [h₃, h₄, h₆], by simp [h₃], fun _ hm => (hn h₅ hm).elim, fun _ => ⟨front, h₆.symm⟩⟩
  case done before front event h₁ h₂ h₃ h₄ h₅ h₆ =>
    refine ⟨by simp [h₂, h₃, h₆], by simp [h₂], fun events hm => ?_, fun ho => ?_⟩
    case refine_1 =>
      rw [h₄] at hm
      obtain hm | hm := List.mem_append.mp hm
      · exact nomatch h₅ _ hm
      · cases List.mem_singleton.mp hm
        exact ⟨before, front, event, h₄, h₅, rfl, h₂, h₆.symm, h₃, rfl⟩
    case refine_2 => exact nomatch ho (front ++ [event], true) (by simp [h₄])
  case cleared h₁ h₂ h₃ h₄ h₅ =>
    exact ⟨by simpa using h₅, h₄, fun _ hm => (hn h₂ hm).elim, fun _ => h₃⟩

namespace VoiceStreamRegistry

-- The capacity of the registry and of each stream.
structure Bounded (s : VoiceStreamRegistry ε) : Prop where
  retained : s.streams.entries.length ≤ 2
  active   : ∀ {key key' stream stream'}, s.streams.lookup key = some stream → s.streams.lookup key' = some stream' →
    stream.terminal = false → stream'.terminal = false → key = key'
  pending  : ∀ {key stream}, s.streams.lookup key = some stream → stream.events.length ≤ 64

-- What was seen of every stream, and the capacity of the registry.
structure Accounted (t : List (VoiceStreamObservation ε)) (s : VoiceStreamRegistry ε) : Prop where
  phase    : ∀ key, VoiceStreamPhase (of key t) (s.streams.lookup key)
  retained : s.streams.entries.length ≤ 2
  active   : ∀ {key key' stream stream'}, s.streams.lookup key = some stream → s.streams.lookup key' = some stream' →
    stream.terminal = false → stream'.terminal = false → key = key'

theorem Accounted.bounded {t : List (VoiceStreamObservation ε)} (a : Accounted t s) : Bounded s where
  retained := a.retained
  active   := a.active
  pending {key stream} hs := by
    have p := a.phase key
    rw [hs] at p
    cases p
    case live h₁ h₂ h₃ h₄ h₅ h₆ => exact Nat.le_of_lt h₆
    case terminal front event h₁ h₂ h₃ h₄ h₅ h₆ h₇ =>
      rw [List.length_append, List.length_singleton]
      exact h₇

theorem Accounted.step {t o : List (VoiceStreamObservation ε)} (a : Accounted t s) (c : Change s o s')
    (hd : ∀ key, (of key (t ++ o)).begun ≤ 1 ∧ (of key (t ++ o)).finishes ≤ 1) : Accounted (t ++ o) s' where
  phase key := by
    have hk := hd key
    rw [of_append] at hk ⊢
    exact (a.phase key).change (c.stream key) hk.left hk.right
  retained := c.room.elim (Nat.le_trans · a.retained) id
  active {key key' stream stream'} hs hs' ht ht' := by
    obtain ⟨old, ho, hto⟩ | ho := (hs ▸ c.stream key).active ht <;>
      obtain ⟨old', ho', hto'⟩ | ho' := (hs' ▸ c.stream key').active ht'
    case inl.inl => exact a.active ho ho' hto hto'
    case inl.inr =>
      have hf := c.fresh key' ⟨key, old⟩ (by simp [ho']) (AList.mem_lookup_iff.mp ho)
      exact absurd hf (by simp [hto])
    case inr.inl =>
      have hf := c.fresh key ⟨key', old'⟩ (by simp [ho]) (AList.mem_lookup_iff.mp ho')
      exact absurd hf (by simp [hto'])
    case inr.inr =>
      rw [ho] at ho'
      simpa using ho'

-- Every interleaving of the threads, up to any point of it.
theorem run_exactlyOnce {t : List (VoiceStreamObservation ε)} {s : Threaded (VoiceStreamRegistry ε) VoiceStreamInstruction}
    (h : (program ε).machine.Run t s) (hd : ∀ key, (of key t).Disciplined) :
    Bounded s.shared ∧ ∀ key, ExactlyOnce (of key t) (s.shared.streams.lookup key) := by
  have ha : (∀ key, (of key t).begun ≤ 1 ∧ (of key t).finishes ≤ 1) → Accounted t s.shared := by
    refine Machine.Run.invariant (P := fun t s =>
      (∀ key, (of key t).begun ≤ 1 ∧ (of key t).finishes ≤ 1) → Accounted t s.shared) ?_ ?_ h
    case refine_1 =>
      rintro s ⟨hs, -⟩ -
      rw [hs]
      exact ⟨fun _ => .fresh rfl rfl rfl rfl rfl, Nat.zero_le _, nofun⟩
    case refine_2 =>
      intro t s₁ e s₂ o hi hs hd
      obtain ⟨after, he, -⟩ := Program.step_effect hs
      refine (hi fun key => ?_).step (step_change he) hd
      have hk := hd key
      rw [of_append] at hk
      have hm := foldl_mono key (h := of key t) (t := o)
      omega
  have a := ha fun key => ⟨(hd key).begun, Nat.le_trans (hd key).finishes (hd key).begun⟩
  exact ⟨a.bounded, fun key => (a.phase key).exactlyOnce⟩

-- A poll waits, a reply is pushed and finished, and the poll returns it.
theorem run_exactlyOnce_reply : ∃ t s, (program Nat).machine.Run t s ∧ (of (1, 1) t).delivered = [7, 8] ∧
    ExactlyOnce (of (1, 1) t) (s.shared.streams.lookup (1, 1)) := by
  have hr : (program Nat).machine.replay ⟨new, []⟩
      [.enter (.begin (1, 1)) (), .enter (.waitEvents (1, 1)) (), .enter (.push (1, 1) 7) (),
        .enter (.finishWithUnlock (1, 1) 8) (), .resume 1 ()] =
      some (⟨⟨∅⟩, [[], [], [], []]⟩, [.began (1, 1) true, .pushed (1, 1) 7 true, .finished (1, 1) 8 true,
        .response (1, 1) [7, 8] true]) := rfl
  have i : (program Nat).machine.init ⟨new, []⟩ := ⟨rfl, rfl⟩
  have h := Machine.Run.of_replay _ _ i hr
  refine ⟨_, _, h, rfl, (run_exactlyOnce h fun key => ?_).right (1, 1)⟩
  by_cases hk : (1, 1) = key
  case pos => exact hk ▸ ⟨le_rfl, le_rfl⟩
  case neg => exact ⟨by simp [of, observe, hk, VoiceStreamHistory.empty], by simp [of, observe, hk, VoiceStreamHistory.empty]⟩

end VoiceStreamRegistry
