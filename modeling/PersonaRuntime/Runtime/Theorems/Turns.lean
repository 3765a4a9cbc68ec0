import PersonaRuntime.Runtime.Theorems.Session
import PersonaRuntime.Runtime.Theorems.TurnState

-- The state that a call requests.
def TurnCall.target : TurnCall → Option TurnState
  | transition next          => some next.state
  | transitionAndFreeze next => some next.state
  | interrupt                => some .cancelled
  | _                        => none

namespace TurnMutableState

variable {s : TurnMutableState} {timeline : MediaTimeline}

theorem reconcile_state (r : Receipt) (id : Nat) : ((r.reconcile id).run s).state.state = s.state := by
  have ⟨_, _, h⟩ := receipt_received r id s
  rw [h]
  rfl

theorem mediaStamp_state {x : TurnMediaState.Stamping MediaTimelineStamp} :
    ((mediaStamp x).run (s, timeline)).state.1.state = s.state := by
  by_cases h : s.state = .outputting
  case neg => simp [mediaStamp, h]
  case pos =>
    cases hx : x.run (s.media, timeline) <;> simp [mediaStamp, h, EStateM.zoom_run, hx]
    all_goals exact h

theorem onTurn_isOk {α : Type} {x : Update α} :
    ((TurnCall.onTurn x).run (s, timeline)).isOk = (x.run s).isOk := by
  cases hx : x.run s <;> simp [TurnCall.onTurn, EStateM.zoom_run, hx]

-- A call leaves a turn in its state or succeeds and takes it where the call says.
theorem WellFormed.call_enters (w : s.WellFormed) (c : TurnCall) (timeline : MediaTimeline) :
    (c.call.run (s, timeline)).state.1.state = s.state ∨
    ∃ next, c.target = some next ∧ (c.call.run (s, timeline)).isOk = true ∧
      (c.call.run (s, timeline)).state.1.state = next := by
  cases c <;> simp only [TurnCall.call, TurnCall.target, onTurn_state, onTurn_isOk]
  case transition next =>
    cases hv : Turn.valid s.state next.state
    case false => exact .inl <| by simp [transition_run, hv]
    case true  => exact .inr ⟨next.state, rfl, by simp [transition_run, hv]⟩
  case transitionAndFreeze next =>
    cases hi : s.state.interruptible
    case false => exact .inl <| by simp [w.transitionAndFreeze_run, hi]
    case true  => exact .inr ⟨next.state, rfl, by simp [w.transitionAndFreeze_run, hi]⟩
  case interrupt =>
    cases hi : s.state.interruptible
    case false => exact .inl <| by simp [w.interrupt_run, hi]
    case true  => exact .inr ⟨.cancelled, rfl, by simp [w.interrupt_run, hi]⟩
  case beginOutputSegment =>
    apply Or.inl
    rw [beginOutputSegment_run]
    split_ifs <;> rfl
  case reconcile r id => exact .inl <| reconcile_state r id
  all_goals
    rw [map_state]
    exact .inl mediaStamp_state

end TurnMutableState

-- The call on the state of its turn that a method comes down to.
def TurnMethod.turnCall : TurnMethod → TurnCall
  | authorize               => .transition .authorized
  | beginProcessing         => .transition .processing
  | beginOutput             => .transition .outputting
  | complete                => .transition .completed
  | deny                    => .transitionAndFreeze .denied
  | fail                    => .transitionAndFreeze .failed
  | beginOutputSegment      => .beginOutputSegment
  | nextAudioMediaStamp n d => .nextAudioMediaStamp n d
  | nextVideoMediaStamp n t => .nextVideoMediaStamp n t
  | reconcile receipt id    => .reconcile receipt id
  | interrupt               => .interrupt

namespace ActiveTurn

variable {t : ActiveTurn} {m : MediaTimeline}

-- A method is refused by its guard or it reaches the state of the turn.
theorem guarded_state {g : ActiveTurn → Except Rt0ReasonCode Unit} {c : TurnCall} :
    ((guarded g c).run (t, m)).state = (t, m) ∨
    ((guarded g c).run (t, m)).isOk = (c.call.run (t.state, m)).isOk ∧
      ((guarded g c).run (t, m)).state =
        ({ t with state := (c.call.run (t.state, m)).state.1 }, (c.call.run (t.state, m)).state.2) := by
  cases hg : g t
  case error => exact .inl <| by simp [guarded, hg]
  case ok    =>
    apply Or.inr
    cases hc : c.call.run (t.state, m) <;> simp [guarded, hg, EStateM.zoom_run, hc]

theorem interrupt_run (w : t.state.WellFormed) :
    interrupt.run (t, m) =
      if t.state.state.interruptible then
        .ok () ({ t with state := (t.state.enter .cancelled).cancelAll, cancelled := true }, m)
      else .error .invalidStateTransition (t, m) := by
  have hr := w.interrupt_run
  cases hi : t.state.state.interruptible <;> simp only [hi, if_true] at hr
  all_goals
    simp [interrupt, guarded, EStateM.zoom_run, TurnCall.call, TurnCall.onTurn, hr]

theorem fail_run (w : t.state.WellFormed) :
    fail.run (t, m) =
      if t.cancelled then
        .error .turnCancelled (t, m)
      else if t.state.state.interruptible then
        .ok () ({ t with state := (t.state.enter .failed).cancelAll }, m)
      else .error .invalidStateTransition (t, m) := by
  have hr : (TurnMutableState.transitionAndFreeze .failed).run t.state = _ := w.transitionAndFreeze_run .failed
  obtain ⟨state, _, _, _, cancelled, _⟩ := t
  cases cancelled
  case true => simp [fail, guarded, requireNotCancelled]
  case false =>
    cases hi : state.state.interruptible <;> simp only [hi, if_true] at hr
    all_goals
      simp [fail, guarded, requireNotCancelled, EStateM.zoom_run, TurnCall.call, TurnCall.onTurn,
        TurnFreeze.state, hr]

-- A method leaves a turn in its state or succeeds and takes it where its call says. An interrupted
-- turn also has its flag set.
theorem method_enters (w : t.state.WellFormed) (x : TurnMethod) (s : ActiveSession) (now : Option Nat) :
    ((x.call s now).run (t, m)).state.1.state.state = t.state.state ∨
    ∃ next, x.turnCall.target = some next ∧ ((x.call s now).run (t, m)).isOk = true ∧
      ((x.call s now).run (t, m)).state.1.state.state = next ∧
      (next = .cancelled → ((x.call s now).run (t, m)).state.1.cancelled = true) := by
  cases x <;> simp only [TurnMethod.call, authorize, beginProcessing, beginOutput, complete, deny,
    fail, beginOutputSegment, deliver]
  case interrupt =>
    cases hi : t.state.state.interruptible <;> simp only [interrupt_run w, hi, if_true]
    case false => exact .inl rfl
    case true  => exact .inr ⟨.cancelled, rfl, rfl, rfl, fun _ => rfl⟩
  all_goals
    obtain h | ⟨hk, h⟩ := guarded_state (t := t) (m := m) <;> rw [h]
    · exact .inl rfl
    · obtain h | ⟨next, ht, hr, h⟩ := w.call_enters _ m
      · exact .inl h
      · refine .inr ⟨next, ht, hk.trans hr, h, ?_⟩
        rintro rfl
        cases ht

theorem method_change (w : t.state.WellFormed) (x : TurnMethod) (s : ActiveSession)
    (now : Option Nat) : t.state.Change ((x.call s now).run (t, m)).state.1.state := by
  cases x <;> simp only [TurnMethod.call, authorize, beginProcessing, beginOutput, complete, deny,
    fail, beginOutputSegment, deliver]
  case interrupt =>
    cases hi : t.state.state.interruptible <;> simp only [interrupt_run w, hi, if_true]
    case false => exact .media t.state.media
    case true  => exact .freeze hi rfl
  all_goals
    obtain h | ⟨_, h⟩ := guarded_state (t := t) (m := m) <;> rw [h]
    · exact .media t.state.media
    · exact TurnMutableState.call_change w _ m

end ActiveTurn

namespace ActiveSession

variable {s s' : ActiveSession} {e : SessionEvent} {o : List SessionObservation} {i : TurnAddress}

-- What a step does to the turn at `i`.
inductive TurnMove (s : ActiveSession) (e : SessionEvent) (i : TurnAddress) (t' : ActiveTurn) : Prop
  | new (turnId : TurnId) (correlationId : CorrelationId) : (s.turns i = none) →
    (t'.state = .new (.new turnId correlationId) s.mediaTimeline.epoch) → TurnMove s e i t'
  | kept {t : ActiveTurn} : (s.turns i = some t) → (t'.state = t.state) → (t.Keeps t') →
    TurnMove s e i t'
  | method {t : ActiveTurn} (x : TurnMethod) (now : Option Nat) : (e = .method i x now) →
    (s.turns i = some t) → (t' = ((x.call s now).run (t, s.mediaTimeline)).state.1) →
    TurnMove s e i t'

theorem TurnMove.refl {t : ActiveTurn} (h : s.turns i = some t) : s.TurnMove e i t :=
  .kept h rfl (.refl t)

theorem Controlled.turnMove {t' : ActiveTurn} (c : s.Controlled s') (h : s'.turns i = some t') :
    s.TurnMove e i t' := by
  cases c
  case rebased => exact .refl h
  case written w =>
    cases w
    case unchanged => exact .refl h
    all_goals
      obtain ⟨t, ht, rfl⟩ := by simpa [sweepAuthorization, sweepPolicy, cancelTurns] using h
      exact .kept ht rfl ⟨rfl, rfl, by simp +contextual⟩

theorem setTurn_turns {j : TurnAddress} {t t' : ActiveTurn} (h : (s.setTurn j t).turns i = some t') :
    (i = j ∧ t' = t) ∨ s.turns i = some t' := by
  by_cases hi : i = j
  case pos => exact .inl ⟨hi, by simpa [setTurn, hi] using h.symm⟩
  case neg => exact .inr <| by simpa [setTurn, hi] using h

theorem newTurn_turnMove {j : TurnAddress} {turnId : TurnId} {correlationId : CorrelationId}
    {persona : PersonaIdentity} {t' : ActiveTurn} (hj : s.turns j = none)
    (h : ((newTurn j turnId correlationId persona).run s).state.turns i = some t') :
    s.TurnMove e i t' := by
  obtain ⟨_, hr⟩ | ⟨_, ht, _, _, hr⟩ := newTurn_run s j turnId correlationId persona
  case inl => exact .refl <| by simpa [hr] using h
  rw [hr] at h
  obtain ⟨rfl, rfl⟩ | h := setTurn_turns h
  · exact .new turnId correlationId hj ht
  · exact .refl h

theorem Move.turnMove {t' : ActiveTurn} (m : s.Move e s' o) (h : s'.turns i = some t') :
    s.TurnMove e i t' := by
  cases m
  case controlled c _ => exact c.turnMove h
  case newTurn hj     => exact newTurn_turnMove hj h
  case handles j t n ht =>
    obtain ⟨rfl, rfl⟩ | h := setTurn_turns h
    · exact .kept (ofTurn_eq_some_iff.mp ht).left rfl ⟨rfl, rfl, id⟩
    · exact .refl h
  case method j x now t ht =>
    obtain ⟨rfl, rfl⟩ | h := setTurn_turns h
    · exact .method x now rfl (ofTurn_eq_some_iff.mp ht).left rfl
    · exact .refl h
  case issue j scope dataClass now t _ =>
    obtain ⟨_, hr⟩ | ⟨_, _, _, _, hr⟩ := issueProviderPermit_run s j t scope dataClass now
    all_goals exact .refl <| by simpa [hr] using h
  case egress n now c t _ _ =>
    obtain ⟨_, hr⟩ | ⟨_, hr⟩ := beginProviderEgress_run s n c t now
    all_goals exact .refl <| by simpa [hr] using h
  case dropPermit => exact .refl h

theorem step_turns_wellFormed (w : ∀ {i t}, s.turns i = some t → t.state.WellFormed)
    (h : machine.step s e = some (s', o)) {t' : ActiveTurn} (ht : s'.turns i = some t') :
    t'.state.WellFormed := by
  cases (step_move h).turnMove ht
  case new hs            => exact hs ▸ TurnMutableState.new_wellFormed _ _
  case kept ht hs _      => exact hs ▸ w ht
  case method x now _ ht h =>
    rw [h]
    exact (ActiveTurn.method_change (w ht) x s now).preserves_wellFormed (w ht)

end ActiveSession

-- The methods that end a turn without setting its flag.
def TurnMethod.finishes : TurnMethod → Bool
  | complete | deny | fail => true
  | _                      => false

namespace ActiveSession

variable {s s' : ActiveSession} {e : SessionEvent} {o : List SessionObservation} {i : TurnAddress}

-- A turn that `complete`, `deny` or `fail` ends in this step has no provider call between its halves.
def finishesIdle (s : ActiveSession) : SessionEvent → Bool
  | .method i x now =>
    !(x.finishes && (s.turns i).any fun turn => ((x.call s now).run (turn, s.mediaTimeline)).isOk) ||
      !s.calls.any (·.cancellation.turn = i)
  | _ => true

-- The turn of every call between its halves may still execute, or its flag will refuse the call.
structure Admissible (s : ActiveSession) : Prop where
  turns : ∀ {i t}, s.turns i = some t → t.state.WellFormed
  calls : ∀ {c}, c ∈ s.calls → ∃ t, s.turns c.cancellation.turn = some t ∧
    (t.cancelled = false → t.state.providerExecutionAllowed = true)

theorem new_admissible (id : SessionId) (personaId : PersonaId) (security : SessionSecurityConfig) :
    (new id personaId security).Admissible where
  turns := nofun
  calls := nofun

-- A call that a step adds has found its turn executing.
theorem Move.mem_calls {c : ProviderCall} (m : s.Move e s' o) (h : c ∈ s'.calls) :
    c ∈ s.calls ∨ ∃ t, s.turns c.cancellation.turn = some t ∧ s'.turns = s.turns ∧
      t.state.providerExecutionAllowed = true := by
  cases m
  case controlled c _ =>
    cases c
    case rebased   => exact .inl h
    case written w => cases w <;> exact .inl h
  case newTurn j turnId correlationId persona _ =>
    obtain ⟨_, hr⟩ | ⟨_, _, _, _, hr⟩ := newTurn_run s j turnId correlationId persona
    all_goals exact .inl <| by simpa [hr, bindTurn, setTurn] using h
  case issue j scope dataClass now t ht =>
    obtain ⟨_, hr⟩ | ⟨hs, c', rfl, _, hr⟩ := issueProviderPermit_run s j t scope dataClass now
    · exact .inl <| by simpa [hr] using h
    · obtain h | rfl : c ∈ s.calls ∨ c = c' := by simpa [hr] using h
      · exact .inl h
      · exact .inr ⟨t, (ofTurn_eq_some_iff.mp ht).left, by rw [hr]; rfl, hs⟩
  case egress n now c t _ _ =>
    obtain ⟨_, hr⟩ | ⟨_, hr⟩ := beginProviderEgress_run s n c t now
    all_goals exact .inl <| List.mem_of_mem_eraseIdx <| by simpa [hr] using h
  all_goals exact .inl h

-- A method that takes an executing turn out of execution sets its flag or ends it.
theorem method_allowed {t : ActiveTurn} {m : MediaTimeline} (w : t.state.WellFormed)
    (ht : t.state.providerExecutionAllowed = true) (x : TurnMethod) (now : Option Nat) :
    ((x.call s now).run (t, m)).state.1.state.providerExecutionAllowed = true ∨
    ((x.call s now).run (t, m)).state.1.cancelled = true ∨
    x.finishes = true ∧ ((x.call s now).run (t, m)).isOk = true := by
  obtain h | ⟨next, hx, hr, h, hc⟩ := ActiveTurn.method_enters (m := m) w x s now
  case inl => exact .inl <| by simpa [TurnMutableState.providerExecutionAllowed, h] using ht
  cases x <;> simp only [TurnMethod.turnCall, TurnCall.target, Option.some.injEq, reduceCtorEq] at hx
  case authorize | beginProcessing | beginOutput =>
    subst hx
    exact .inl <| by simp [TurnMutableState.providerExecutionAllowed, h, TurnAdvance.state]
  case complete | deny | fail => exact .inr <| .inr ⟨rfl, hr⟩
  case interrupt => exact .inr <| .inl <| hc hx.symm

theorem Admissible.step (a : s.Admissible) (ok : finishesIdle s e = true)
    (h : machine.step s e = some (s', o)) : s'.Admissible where
  turns ht := step_turns_wellFormed a.turns h ht
  calls {c} hc := by
    have m := step_move h
    obtain hc | ⟨t, ht, hs, hx⟩ := m.mem_calls hc
    case inr => exact ⟨t, hs ▸ ht, fun _ => hx⟩
    have ⟨t, ht, hx⟩ := a.calls hc
    have ⟨t', ht', k⟩ := (step_advances h).forward ht
    refine ⟨t', ht', fun hn => ?_⟩
    have hx := hx (k.not_cancelled hn)
    cases m.turnMove ht'
    case new hi _      => simp [ht] at hi
    case kept ht₁ hs _ =>
      obtain rfl : _ = t := by simpa [ht] using ht₁.symm
      rw [hs, hx]
    case method x now he ht₁ hm =>
      obtain rfl : _ = t := by simpa [ht] using ht₁.symm
      obtain h | h | ⟨hf, hr⟩ := method_allowed (m := s.mediaTimeline) (a.turns ht) hx x now
      · rw [hm, h]
      · simp [hm, h] at hn
      · simp [he, finishesIdle, hf, ht, hr] at ok
        exact absurd rfl (ok c hc)

theorem run_admissible {t : List SessionObservation} :
    ((machine.guarded finishesIdle).Run t s) → s.Admissible :=
  Machine.Run.state_invariant (fun ⟨_, _, _, h⟩ => h ▸ new_admissible _ _ _) fun a h =>
    have ⟨ok, h⟩ := Machine.guarded_step_iff.mp h
    a.step ok h

theorem admission_executing {t o : List SessionObservation} {c : ProviderCall} {now : Option Nat}
    (r : (machine.guarded finishesIdle).Run t s) (h : machine.step s e = some (s', o))
    (ha : .admitted c now ∈ o) :
    ∃ turn, s'.turns c.cancellation.turn = some turn ∧
      turn.state.state ∈ [.authorized, .processing, .outputting] := by
  have ⟨turn, hc, ht, hn, _, _, hs⟩ := step_admitted h ha
  have ⟨_, ht', hx⟩ := (run_admissible r).calls hc
  obtain rfl : turn = _ := by simpa [ht] using ht'
  refine ⟨turn, hs ▸ ht, ?_⟩
  have hx := hx (not_isCancelled_iff.mp hn).left
  revert hx
  cases h : turn.state.state <;> simp [TurnMutableState.providerExecutionAllowed, h]

-- A turn goes on to output between the halves of its provider call.
theorem admission_executing_output : ∃ t s e s' o c now, (machine.guarded finishesIdle).Run t s ∧
    machine.step s e = some (s', o) ∧ .admitted c now ∈ o ∧
    ∃ turn, s'.turns c.cancellation.turn = some turn ∧
      turn.state.state ∈ [.authorized, .processing, .outputting] :=
  let id : CanonicalId := ⟨"canonical", by decide, by decide⟩
  let scope : AuthorityScope := ⟨"provider.egress", by decide⟩
  let persona : PersonaIdentity := ⟨id, ⟨1, by decide⟩, .digitalTwin⟩
  have r := Machine.Run.of_replay (m := machine.guarded finishesIdle)
    (new id id ⟨⟨{scope}⟩, none, true, .granted, false⟩)
    [.activate, .newTurn 0 id id persona, .method 0 .authorize (some 10),
      .method 0 .beginProcessing (some 20), .issueProviderPermit 0 scope .publicData (some 30),
      .method 0 .beginOutput (some 40)]
    ⟨id, id, _, rfl⟩ rfl
  have ha := List.mem_singleton_self <|
    SessionObservation.admitted ⟨⟨0, none⟩, scope, .publicData⟩ (some 50)
  ⟨_, _, .beginProviderEgress 0 (some 50), _, _, _, _, r, rfl, ha,
    admission_executing (e := .beginProviderEgress 0 (some 50)) r rfl ha⟩

-- Another thread completes the turn between the halves. The flag stays unset, so that the second
-- half admits the call.
theorem not_admission_executing_completed : ∃ t s e s' o c now, machine.Run t s ∧
    machine.step s e = some (s', o) ∧ .admitted c now ∈ o ∧
    ∃ turn, s'.turns c.cancellation.turn = some turn ∧
      turn.state.state ∉ [.authorized, .processing, .outputting] :=
  let id : CanonicalId := ⟨"canonical", by decide, by decide⟩
  let scope : AuthorityScope := ⟨"provider.egress", by decide⟩
  let persona : PersonaIdentity := ⟨id, ⟨1, by decide⟩, .digitalTwin⟩
  have r := Machine.Run.of_replay (m := machine) (new id id ⟨⟨{scope}⟩, none, true, .granted, false⟩)
    [.activate, .newTurn 0 id id persona, .method 0 .authorize (some 10),
      .method 0 .beginProcessing (some 20), .method 0 .beginOutput (some 30),
      .issueProviderPermit 0 scope .publicData (some 40), .method 0 .complete (some 50)]
    ⟨id, id, _, rfl⟩ rfl
  have ha := List.mem_singleton_self <|
    SessionObservation.admitted ⟨⟨0, none⟩, scope, .publicData⟩ (some 60)
  ⟨_, _, .beginProviderEgress 0 (some 60), _, _, _, _, r, rfl, ha, _, rfl, by decide⟩

end ActiveSession
