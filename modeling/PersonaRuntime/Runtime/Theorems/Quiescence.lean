import PersonaRuntime.Runtime.Theorems.Session

-- What the owners of a session, its turns and its revocation handles can do. The controllers are
-- private to the runtime, so that `replace` and `replace_authority` are only reached through the
-- session, which first asks whether it is active.
def SessionEvent.exposed : SessionEvent → Bool
  | .write (.replace _) | .write (.replaceAuthority _ _) => false
  | _                                                    => true

namespace ActiveSession

def exposed : Machine ActiveSession SessionEvent SessionObservation :=
  machine.guarded fun _ e => e.exposed

-- `await_provider_quiescence` returns with the count locked, after a notification or a timeout.
def awaitProviderQuiescence (s : ActiveSession) : Bool :=
  s.activeEgress = 0

-- No admission of the session succeeds. A permit is refused by the half that it has reached.
structure Refuses (s : ActiveSession) : Prop where
  newTurn             : ∀ {i turnId correlationId persona},
    ((newTurn i turnId correlationId persona).run s).isOk = false
  authorize           : ∀ {turn mediaTimeline now},
    ((ActiveTurn.authorize s now).run (turn, mediaTimeline)).isOk = false
  beginOutputSegment  : ∀ {turn mediaTimeline now},
    ((ActiveTurn.beginOutputSegment s now).run (turn, mediaTimeline)).isOk = false
  issueProviderPermit : ∀ {i turn scope dataClass now},
    ((issueProviderPermit i turn scope dataClass now).run s).isOk = false
  beginProviderEgress : ∀ {n call turn now}, s.calls[n]? = some call →
    s.turns call.cancellation.turn = some turn →
    ((beginProviderEgress n call turn now).run s).isOk = false

-- The session is over and its authority went with it.
structure Ended (s : ActiveSession) : Prop where
  state   : s.session.state = .revoked ∨ s.session.state = .closed
  revoked : s.authorization.authorization.revoked = true

variable {s s' s'' : ActiveSession} {t : List SessionObservation}

theorem Ended.not_active (h : s.Ended) : s.session.state ≠ .active := by
  intro ha
  simpa [ha] using h.state

theorem Ended.frame (h : s.Ended) (hs : s'.session = s.session)
    (ha : s'.authorization = s.authorization) : s'.Ended :=
  ⟨hs ▸ h.state, ha ▸ h.revoked⟩

theorem validateSnapshots_error (h : s.authorization.authorization.revoked = true)
    (turn : ActiveTurn) (now : Option Nat) :
    ∃ e, ActiveTurn.validateSnapshots s turn now = .error e := by
  cases now
  case none => exact ⟨.internalError, rfl⟩
  case some now =>
    cases hv : s.authorization.authorization.validate turn.authorizationSnapshot now
    case error e =>
      refine ⟨(RuntimeDenyReason.ofValidity e).reasonCode, ?_⟩
      simp [ActiveTurn.validateSnapshots, okOr, AuthorizationRuntimeState.validateBound, hv,
        Except.mapError_error, bind, Except.bind]
    case ok =>
      have hr := (AuthorizationState.validate_iff.mp hv).right.left
      simp [h] at hr

theorem guarded_isOk_of_error {g : ActiveTurn → Except Rt0ReasonCode Unit} {turn : ActiveTurn}
    (h : ∃ e, g turn = .error e) (c : TurnCall) (mediaTimeline : MediaTimeline) :
    ((ActiveTurn.guarded g c).run (turn, mediaTimeline)).isOk = false := by
  obtain ⟨_, h⟩ := h
  simp [ActiveTurn.guarded, h, EStateM.Result.isOk]

theorem Ended.refuses (h : s.Ended) (f : s.Fenced) : s.Refuses where
  newTurn := by
    intros
    simp [ActiveSession.newTurn, h.not_active, EStateM.Result.isOk]
  authorize {turn mediaTimeline now} := by
    refine guarded_isOk_of_error ?_ _ _
    obtain ⟨e, he⟩ := validateSnapshots_error h.revoked turn now
    exact ⟨e, by simp [he, bind, Except.bind]⟩
  beginOutputSegment {turn mediaTimeline now} := by
    refine guarded_isOk_of_error ?_ _ _
    obtain ⟨e, he⟩ := validateSnapshots_error h.revoked turn now
    cases hc : turn.cancelled
    case true  => exact ⟨.turnCancelled, by
      simp [ActiveTurn.requireExecutionactiveEgress, ActiveTurn.requireNotCancelled, hc, bind, Except.bind]⟩
    case false => exact ⟨e, by
      simp [ActiveTurn.requireExecutionactiveEgress, ActiveTurn.requireNotCancelled, hc, he, bind, Except.bind]⟩
  issueProviderPermit {i turn scope dataClass now} := by
    obtain ⟨_, hr⟩ | ⟨_, _, _, p, _⟩ := issueProviderPermit_run s i turn scope dataClass now
    case inl => simp [hr, EStateM.Result.isOk]
    case inr => simpa [h.revoked] using p.active
  beginProviderEgress {n call turn now} hc ht := by
    obtain ⟨_, hr⟩ | ⟨hn, _⟩ := beginProviderEgress_run s n call turn now
    case inl => simp [hr, EStateM.Result.isOk]
    case inr =>
      have hc := (f.admitted (List.mem_of_getElem? hc) ht hn).active
      simp [h.revoked] at hc

theorem revokeAuthority_revoked {a : Unit} (h : revokeAuthority.run s = .ok a s') :
    s'.authorization.authorization.revoked = true ∧ s'.session = s.session := by
  cases hr : s.authorization.authorization.revoked <;>
    cases hn : s.authorization.authorization.epoch.next
  case false.error =>
    simp [revokeAuthority, onAuthorization, EStateM.zoom_run, AuthorizationState.revoke_run, hr, hn] at h
  all_goals
    simp only [revokeAuthority, onAuthorization, EStateM.run_bind, EStateM.zoom_run,
      AuthorizationState.revoke_run, hr, hn, cancelStaleBoundTurns, EStateM.run_modify, if_true,
      Bool.false_eq_true, if_false, EStateM.Result.ok.injEq] at h
    obtain ⟨-, rfl⟩ := h
    exact ⟨by simp [hr], rfl⟩

theorem transition_eq_ok {next : RealtimeSessionState} {session session' : RealtimeSession} {a : Unit}
    (h : (RealtimeSession.transition next).run session = .ok a session') :
    RealtimeSession.valid session.state next = true ∧ session' = { session with state := next } := by
  cases hv : RealtimeSession.valid session.state next <;> simp [RealtimeSession.transition, hv] at h
  exact ⟨rfl, h.symm⟩

theorem endWith_ended {next : RealtimeSessionState} (hn : next = .revoked ∨ next = .closed)
    (h : ((endWith next).run s) = .ok () s') : s'.Ended := by
  cases ht : (RealtimeSession.transition next).run s.session
  case error => simp [endWith, ht] at h
  case ok a candidate =>
    obtain ⟨-, rfl⟩ := transition_eq_ok ht
    cases hw : revokeAuthority.run s
    case error => simp [endWith, ht, write, GateWriter.call, EStateM.run_adaptExcept, hw] at h
    case ok b r =>
      simp only [endWith, ht, write, GateWriter.call, EStateM.run_bind, EStateM.run_get,
        EStateM.run_adaptExcept, hw, EStateM.run_modify, EStateM.Result.ok.injEq] at h
      obtain ⟨-, rfl⟩ := h
      exact ⟨hn, (revokeAuthority_revoked hw).left⟩

theorem endWith_error {next : RealtimeSessionState} {e : Rt0ReasonCode}
    (h : (endWith next).run s = .error e s') : s' = s := by
  cases ht : (RealtimeSession.transition next).run s.session
  case error =>
    simp only [endWith, ht, EStateM.run_bind, EStateM.run_get, EStateM.run_throw_any,
      EStateM.Result.error.injEq] at h
    exact h.right.symm
  case ok =>
    obtain ⟨_, hw⟩ | ⟨_, _, hw⟩ := writer_run (s := s) .revoke
    case inl =>
      simp only [endWith, ht, write, EStateM.run_bind, EStateM.run_get, EStateM.run_adaptExcept, hw,
        EStateM.Result.error.injEq] at h
      exact h.right.symm
    case inr => simp [endWith, ht, write, EStateM.run_adaptExcept, hw] at h

namespace Ended

theorem transition (h : s.Ended) {next : RealtimeSessionState}
    (hn : next = .active ∨ next = .draining) : ((transition next).run s).state.Ended := by
  have hv : RealtimeSession.valid s.session.state next = false := by
    obtain hs | hs := h.state <;> obtain rfl | rfl := hn <;> rw [hs] <;> rfl
  have he : (RealtimeSession.transition next).run s.session = .error ⟨s.session.state, next⟩ s.session := by
    simp [RealtimeSession.transition, hv]
  simpa [ActiveSession.transition, EStateM.zoom_run, he] using h

theorem endWith (h : s.Ended) {next : RealtimeSessionState} (hn : next = .revoked ∨ next = .closed) :
    ((endWith next).run s).state.Ended := by
  cases hr : (ActiveSession.endWith next).run s
  case ok    => exact endWith_ended hn hr
  case error => exact endWith_error hr ▸ h

theorem whileActive (h : s.Ended) (w : GateWriter) : ((whileActive w).run s).state.Ended := by
  simpa [ActiveSession.whileActive, h.not_active] using h

theorem rebaseMediaTimeline (h : s.Ended) (now : Option Nat) :
    ((rebaseMediaTimeline now).run s).state.Ended := by
  simpa [ActiveSession.rebaseMediaTimeline, h.not_active] using h

theorem setPolicy {α : Type} [DecidableEq α] {field : EgressPolicyRuntimeState → α}
    {assign : EgressPolicyRuntimeState → α → EgressPolicyRuntimeState} {value : α} (h : s.Ended) :
    ((setPolicy field assign value).run s).state.Ended := by
  by_cases hv : field s.egressPolicy = value
  case pos => simpa [ActiveSession.setPolicy, hv] using h
  obtain ha | ⟨_, _, ha⟩ := advanceAndCancel_run (s := s)
  · simpa [ActiveSession.setPolicy, hv, ha] using h
  · refine h.frame ?_ ?_ <;> simp [ActiveSession.setPolicy, hv, ha, sweepPolicy, cancelTurns]

theorem write (h : s.Ended) {w : GateWriter} (hw : (SessionEvent.write w).exposed = true) :
    ((write w).run s).state.Ended := by
  have hs : ((ActiveSession.write w).run s).state = (w.call.run s).state := by
    cases hr : w.call.run s <;> simp [ActiveSession.write, EStateM.run_adaptExcept, hr]
  rw [hs]
  cases w <;> simp only [SessionEvent.exposed, Bool.false_eq_true, GateWriter.call] at hw ⊢
  case revoke =>
    cases hr : revokeAuthority.run s
    case ok =>
      obtain ⟨ha, hs⟩ := revokeAuthority_revoked hr
      simpa [GateWriter.call, hr] using ⟨hs ▸ h.state, ha⟩
    case error =>
      obtain ⟨_, hf⟩ | ⟨_, _, hf⟩ := writer_run (s := s) .revoke
      all_goals simp only [GateWriter.call, hr, EStateM.Result.error.injEq, reduceCtorEq] at hf
      simpa [GateWriter.call, hr, hf.right] using h
  all_goals exact h.setPolicy

-- No step of an ended session brings anything back.
theorem step (h : s.Ended) {e : SessionEvent} {o : List SessionObservation}
    (hs : exposed.step s e = some (s', o)) : s'.Ended := by
  have ⟨he, hm⟩ := Machine.guarded_step_iff.mp hs
  cases e <;> simp only [machine, Option.bind_eq_bind, Option.pure_def, Option.some.injEq,
    Prod.mk.injEq, Option.bind_eq_some_iff] at hm
  case newTurn i turnId correlationId persona =>
    obtain ⟨_, hr⟩ : ∃ e, (newTurn i turnId correlationId persona).run s = .error e s :=
      ⟨.invalidTurnState, by simp [newTurn, h.not_active]⟩
    split at hm <;> simp only [hr, Option.some.injEq, Prod.mk.injEq, reduceCtorEq] at hm
    exact hm.left ▸ h
  case cloneHandle | dropHandle | method =>
    obtain ⟨_, _, rfl, rfl⟩ := hm
    exact h.frame rfl rfl
  case issueProviderPermit i scope dataClass now =>
    obtain ⟨turn, _, rfl, rfl⟩ := hm
    obtain ⟨_, hr⟩ | ⟨_, _, _, _, hr⟩ := issueProviderPermit_run s i turn scope dataClass now
    all_goals exact hr ▸ h.frame rfl rfl
  case beginProviderEgress n now =>
    obtain ⟨c, _, turn, _, rfl, rfl⟩ := hm
    obtain ⟨_, hr⟩ | ⟨_, hr⟩ := beginProviderEgress_run s n c turn now
    all_goals exact hr ▸ h.frame rfl rfl
  case dropPermit =>
    split at hm <;> cases hm
    exact h.frame rfl rfl
  all_goals obtain ⟨rfl, rfl⟩ := hm
  case activate             => exact h.transition (.inl rfl)
  case beginDraining        => exact h.transition (.inr rfl)
  case revoke               => exact h.endWith (.inl rfl)
  case close                => exact h.endWith (.inr rfl)
  case replaceAuthority     => exact h.whileActive _
  case refreshAuthorization => exact h.whileActive _
  case rebaseMediaTimeline  => exact h.rebaseMediaTimeline _
  case write                => exact h.write he

end Ended

theorem Controlled.permits (c : s.Controlled s') :
    s'.activeEgress = s.activeEgress ∧ s'.permits = s.permits := by
  cases c
  case rebased => exact ⟨rfl, rfl⟩
  case written w => cases w <;> exact ⟨rfl, rfl⟩

-- Everything that a step can do to the guards and to their count.
theorem step_permits {e : SessionEvent} {o : List SessionObservation}
    (h : machine.step s e = some (s', o)) :
    (s'.activeEgress = s.activeEgress ∧ s'.permits = s.permits) ∨
    (∃ n c turn now, s.calls[n]? = some c ∧ s.turns c.cancellation.turn = some turn ∧
      ((beginProviderEgress n c turn now).run s).isOk = true ∧
      s'.activeEgress = s.activeEgress + 1 ∧ s'.permits = s.permits ++ [c.cancellation]) ∨
    ∃ n, n < s.permits.length ∧ s'.activeEgress = s.activeEgress - 1 ∧
      s'.permits = s.permits.eraseIdx n := by
  cases step_move h
  case controlled c _ => exact .inl c.permits
  case newTurn i turnId correlationId persona _ =>
    obtain ⟨_, hr⟩ | ⟨_, _, _, _, hr⟩ := newTurn_run s i turnId correlationId persona
    all_goals exact .inl <| hr ▸ ⟨rfl, rfl⟩
  case handles | method => exact .inl ⟨rfl, rfl⟩
  case issue i scope dataClass now turn _ =>
    obtain ⟨_, hr⟩ | ⟨_, _, _, _, hr⟩ := issueProviderPermit_run s i turn scope dataClass now
    all_goals exact .inl <| hr ▸ ⟨rfl, rfl⟩
  case egress n now c turn hc ht =>
    obtain ⟨_, hr⟩ | ⟨_, hr⟩ := beginProviderEgress_run s n c turn now
    · exact .inl <| hr ▸ ⟨rfl, rfl⟩
    · exact .inr <| .inl ⟨n, c, turn, now, hc, ht, by rw [hr]; rfl, hr ▸ ⟨rfl, rfl⟩⟩
  case dropPermit n =>
    refine .inr <| .inr ⟨n, ?_, rfl, rfl⟩
    by_contra hn
    simp [machine, hn] at h

-- Every live guard is counted once.
def Counted (s : ActiveSession) : Prop :=
  s.activeEgress = s.permits.length

theorem Counted.step {e : SessionEvent} {o : List SessionObservation} (h : s.Counted)
    (hs : machine.step s e = some (s', o)) : s'.Counted := by
  simp only [Counted] at h ⊢
  obtain ⟨ha, hp⟩ | ⟨_, _, _, _, _, _, _, ha, hp⟩ | ⟨_, hn, ha, hp⟩ := step_permits hs <;> rw [ha, hp, h]
  case inr.inl => simp
  case inr.inr => simp [List.length_eraseIdx, hn]

-- What holds of a session in every state that it reaches.
structure Tracked (s : ActiveSession) : Prop where
  fenced  : s.Fenced
  counted : s.Counted

theorem Tracked.step {e : SessionEvent} {o : List SessionObservation} (h : s.Tracked)
    (hs : exposed.step s e = some (s', o)) : s'.Tracked :=
  have hm := (Machine.guarded_step_iff.mp hs).right
  ⟨(step_advances hm).fenced h.fenced, h.counted.step hm⟩

theorem run_tracked : (exposed.Run t s) → s.Tracked := by
  refine Machine.Run.state_invariant (fun hi => ?_) Tracked.step
  obtain ⟨_, _, _, rfl⟩ := hi
  exact ⟨new_fenced _ _ _, rfl⟩

theorem Ended.no_permits (h : s.Ended) (f : s.Fenced) (hp : s.permits = []) {e : SessionEvent}
    {o : List SessionObservation} (hs : exposed.step s e = some (s', o)) : s'.permits = [] := by
  have hm := (Machine.guarded_step_iff.mp hs).right
  obtain ⟨_, hp'⟩ | ⟨_, _, _, _, hc, ht, hok, _⟩ | ⟨n, hn, _⟩ := step_permits hm
  · rw [hp', hp]
  · simp [(h.refuses f).beginProviderEgress hc ht] at hok
  · simp [hp] at hn

-- The session is over, with everything that its counters and its registries say.
structure Final (s : ActiveSession) : Prop extends s.Tracked, s.Ended

theorem Final.step {e : SessionEvent} {o : List SessionObservation} (h : s.Final)
    (hs : exposed.step s e = some (s', o)) : s'.Final :=
  ⟨h.toTracked.step hs, h.toEnded.step hs⟩

theorem Tracked.ended (h : s.Tracked) (he : revoke.run s = .ok () s' ∨ close.run s = .ok () s') :
    s'.Final := by
  obtain he | he := he
  case inl =>
    refine ⟨h.step (e := .revoke) (o := []) ?_, endWith_ended (.inl rfl) he⟩
    simp [exposed, Machine.guarded, SessionEvent.exposed, machine, he]
  case inr =>
    refine ⟨h.step (e := .close) (o := []) ?_, endWith_ended (.inr rfl) he⟩
    simp [exposed, Machine.guarded, SessionEvent.exposed, machine, he]

theorem Final.quiescent (h : s.Final) (hq : s.awaitProviderQuiescence = true) : s.permits = [] := by
  have ha : s.activeEgress = 0 := by simpa [awaitProviderQuiescence] using hq
  exact List.eq_nil_of_length_eq_zero <| h.counted ▸ ha

-- What revocation and quiescence promise in a state.
structure Quiesces (s : ActiveSession) : Prop where
  counted   : s.activeEgress = s.permits.length
  underflow : ∀ {n s' o}, exposed.step s (.dropPermit n) = some (s', o) → 0 < s.activeEgress
  final     : ∀ {s₀ t s'}, (revoke.run s = .ok () s₀ ∨ close.run s = .ok () s₀) →
    exposed.Steps s₀ t s' → s'.Refuses
  quiescent : ∀ {s₀ t s' t' s''}, (revoke.run s = .ok () s₀ ∨ close.run s = .ok () s₀) →
    exposed.Steps s₀ t s' → s'.awaitProviderQuiescence = true → exposed.Steps s' t' s'' →
    s'.permits = [] ∧ s''.permits = []

theorem run_quiesces (r : exposed.Run t s) : s.Quiesces := by
  have h := run_tracked r
  refine ⟨h.counted, ?underflow, ?final, ?quiescent⟩
  case underflow =>
    intro n s' o hs
    have hn : n < s.permits.length := by
      by_contra hn
      simp [exposed, Machine.guarded, machine, hn] at hs
    exact h.counted ▸ Nat.zero_lt_of_lt hn
  case final =>
    intro s₀ t s' he e
    have hf := e.stable Final.step (h.ended he)
    exact hf.toEnded.refuses hf.fenced
  case quiescent =>
    intro s₀ t s' t' s'' he e hq e'
    have hf := e.stable Final.step (h.ended he)
    have hp := hf.quiescent hq
    refine ⟨hp, (e'.stable (P := fun s => s.Final ∧ s.permits = []) ?_ ⟨hf, hp⟩).right⟩
    intro s₁ e s₂ o h hs
    exact ⟨h.left.step hs, h.left.toEnded.no_permits h.left.fenced h.right hs⟩

-- A session that is revoked while one provider operation runs and another one waits for admission.
theorem run_quiesces_revoked : ∃ t s s₀ t' s', exposed.Run t s ∧ revoke.run s = .ok () s₀ ∧
    s.permits.length = 1 ∧ s.calls.length = 1 ∧ exposed.Steps s₀ t' s' ∧ s'.awaitProviderQuiescence = true ∧
    s.Quiesces :=
  let id : CanonicalId := ⟨"canonical", by decide, by decide⟩
  let scope : AuthorityScope := ⟨"provider.egress", by decide⟩
  let persona : PersonaIdentity := ⟨id, ⟨1, by decide⟩, .digitalTwin⟩
  have r := Machine.Run.of_replay (m := exposed) (new id id ⟨⟨{scope}⟩, some 100, true, .granted, false⟩)
    [.activate, .newTurn 0 id id persona, .method 0 .authorize (some 10),
      .issueProviderPermit 0 scope .biometric (some 20), .beginProviderEgress 0 (some 30),
      .issueProviderPermit 0 scope .biometric (some 40)]
    ⟨id, id, _, rfl⟩ rfl
  have e := Machine.Steps.of_replay (m := exposed) [.beginProviderEgress 0 (some 50), .dropPermit 0] rfl
  ⟨_, _, _, _, _, r, rfl, rfl, rfl, e, rfl, run_quiesces r⟩

end ActiveSession
