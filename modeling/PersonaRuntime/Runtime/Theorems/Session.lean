import PersonaRuntime.Runtime.Session
import PersonaRuntime.Runtime.Theorems.MediaTimeline

-- What no step takes away from a turn.
structure ActiveTurn.Keeps (t t' : ActiveTurn) : Prop where
  authorization : t'.authorizationSnapshot = t.authorizationSnapshot
  egressPolicy  : t'.egressPolicySnapshot = t.egressPolicySnapshot
  cancelled     : t.cancelled = true → t'.cancelled = true

theorem ActiveTurn.Keeps.refl (t : ActiveTurn) : t.Keeps t :=
  ⟨rfl, rfl, id⟩

theorem ActiveTurn.Keeps.trans {t₁ t₂ t₃ : ActiveTurn} (k : t₁.Keeps t₂) (k' : t₂.Keeps t₃) :
    t₁.Keeps t₃ :=
  ⟨k'.authorization.trans k.authorization, k'.egressPolicy.trans k.egressPolicy,
    fun h => k'.cancelled (k.cancelled h)⟩

theorem ActiveTurn.Keeps.not_cancelled {t t' : ActiveTurn} (k : t.Keeps t')
    (h : t'.cancelled = false) : t.cancelled = false := by
  by_contra hn
  simp [k.cancelled (by simpa using hn)] at h

theorem decideEgress_allow {r : EgressRequest} {reason : EgressReason}
    (h : decideEgress r = .allow reason) : reason = .allowed := by
  have ⟨dataClass, allows, consent, localOnly⟩ := r
  cases dataClass <;> cases allows <;> cases consent <;> cases localOnly <;> simp_all [decideEgress]

namespace ActiveSession

-- Everything that the first half of a provider call has checked, beside the two snapshots of the
-- turn and its flag.
structure Permits (s : ActiveSession) (c : ProviderCall) : Prop where
  expires : c.cancellation.expiresAtMillis = s.authorization.authorization.expiresAtMillis
  active  : s.authorization.authorization.revoked = false
  scope   : s.authorization.effectiveAuthority.allows c.requiredScope = true
  egress  : decideEgress (s.egressPolicy.request c.dataClass) = .allow .allowed

-- Both registries fence the turns of the session, and what a call has checked still holds for as
-- long as the flag of its turn is unset.
structure Fenced (s : ActiveSession) : Prop where
  epochs    : s.authorization.boundTurns.Fences s.live s.turns (·.authorizationSnapshot.epoch)
    (·.cancelled) s.authorization.authorization.epoch
  revisions : s.egressPolicy.boundTurns.Fences s.live s.turns (·.egressPolicySnapshot.revision)
    (·.cancelled) s.egressPolicy.revision
  calls     : ∀ {c}, c ∈ s.calls → ∃ t, s.turns c.cancellation.turn = some t ∧
    (t.cancelled = false → s.Permits c)

-- The same turns, each with everything it keeps.
structure SameTurns (s s' : ActiveSession) : Prop where
  forward  : ∀ {i t}, s.turns i = some t → ∃ t', s'.turns i = some t' ∧ t.Keeps t'
  backward : ∀ {i t'}, s'.turns i = some t' → ∃ t, s.turns i = some t ∧ t.Keeps t'

-- A step keeps the fences and forgets nothing about a turn.
structure Advances (s s' : ActiveSession) : Prop where
  fenced  : s.Fenced → s'.Fenced
  forward : ∀ {i t}, s.turns i = some t → ∃ t', s'.turns i = some t' ∧ t.Keeps t'

def sweepAuthorization (s : ActiveSession) (authorization : AuthorizationState)
    (effectiveAuthority : EffectiveAuthority) : ActiveSession :=
  let bound := s.authorization.boundTurns
  { s.cancelTurns (bound.stale s.live authorization.epoch) with
    authorization := { authorization, effectiveAuthority, boundTurns := bound.prune s.live } }

def sweepPolicy (s : ActiveSession) (policy : EgressPolicyRuntimeState) : ActiveSession :=
  let bound := s.egressPolicy.boundTurns
  { s.cancelTurns (bound.stale s.live policy.revision) with
    egressPolicy := { policy with boundTurns := bound.prune s.live } }

-- Everything that a successful writer can do. It does not touch the authority without a new epoch
-- nor the policy without a new revision.
inductive Written (s : ActiveSession) : ActiveSession → Prop
  | unchanged : Written s s
  | authority {authorization effectiveAuthority} :
    (authorization.epoch = s.authorization.authorization.epoch →
      authorization = s.authorization.authorization ∧
      effectiveAuthority = s.authorization.effectiveAuthority) →
    Written s (s.sweepAuthorization authorization effectiveAuthority)
  | policy {policy : EgressPolicyRuntimeState} :
    (policy.revision ≠ s.egressPolicy.revision) → Written s (s.sweepPolicy policy)

-- Everything that a method of the session itself can do. Beside the writers there are its lifecycle
-- and the epochs of the timeline.
inductive Controlled (s : ActiveSession) : ActiveSession → Prop
  | written {s'} (session : RealtimeSession) : (s.Written s') → Controlled s { s' with session }
  | rebased {mediaTimeline} :
    (s.mediaTimeline.Rebased mediaTimeline) → Controlled s { s with mediaTimeline }

variable {s s' : ActiveSession} {i : TurnAddress} {t t' : ActiveTurn}

theorem onAuthorization_revoke_run :
    (onAuthorization AuthorizationState.revoke).run s = .error .internalError s ∨
    ∃ a, (a.epoch = s.authorization.authorization.epoch → a = s.authorization.authorization) ∧
      (onAuthorization AuthorizationState.revoke).run s =
        .ok () { s with authorization := { s.authorization with authorization := a } } := by
  cases hr : s.authorization.authorization.revoked <;>
    cases hn : s.authorization.authorization.epoch.next
  case false.ok e =>
    refine .inr ⟨{ s.authorization.authorization with epoch := e, revoked := true }, ?_, ?_⟩
    · exact fun h => absurd h.symm (AuthorizationEpoch.next_ne hn)
    · simp [onAuthorization, EStateM.zoom_run, AuthorizationState.revoke_run, hr, hn]
  case false.error =>
    exact .inl (by simp [onAuthorization, EStateM.zoom_run, AuthorizationState.revoke_run, hr, hn])
  all_goals
    refine .inr ⟨s.authorization.authorization, fun _ => rfl, ?_⟩
    simp [onAuthorization, EStateM.zoom_run, AuthorizationState.revoke_run, hr]

theorem onAuthorization_replace_run {e : Option Nat} :
    (onAuthorization (AuthorizationState.replace e)).run s = .error .internalError s ∨
    ∃ a, a.epoch ≠ s.authorization.authorization.epoch ∧
      (onAuthorization (AuthorizationState.replace e)).run s =
        .ok () { s with authorization := { s.authorization with authorization := a } } := by
  cases hn : s.authorization.authorization.epoch.next
  case error =>
    exact .inl (by simp [onAuthorization, EStateM.zoom_run, AuthorizationState.replace_run, hn])
  case ok epoch =>
    refine .inr ⟨⟨epoch, false, e⟩, (AuthorizationEpoch.next_ne hn).symm, ?_⟩
    simp [onAuthorization, EStateM.zoom_run, AuthorizationState.replace_run, hn]

theorem advanceAndCancel_run :
    advanceAndCancel.run s = .error .internalError s ∨
    ∃ revision, revision ≠ s.egressPolicy.revision ∧
      advanceAndCancel.run s = .ok () (s.sweepPolicy { s.egressPolicy with revision }) := by
  cases hn : s.egressPolicy.revision.next
  case error => exact .inl (by simp [advanceAndCancel, hn])
  case ok r =>
    refine .inr ⟨r, (PolicyRevision.next_ne hn).symm, ?_⟩
    simp only [advanceAndCancel, EStateM.run_bind, EStateM.run_get, hn, EStateM.check_ok_run,
      EStateM.run_modify]
    rfl

theorem setPolicy_run {α : Type} [DecidableEq α] {field : EgressPolicyRuntimeState → α}
    {assign : EgressPolicyRuntimeState → α → EgressPolicyRuntimeState} {value : α}
    (ha : ∀ p v b, assign { p with boundTurns := b } v = { assign p v with boundTurns := b })
    (hr : ∀ p v, (assign p v).revision = p.revision) :
    (∃ e, (setPolicy field assign value).run s = .error e s) ∨
    ∃ s', s.Written s' ∧ (setPolicy field assign value).run s = .ok () s' := by
  by_cases hv : field s.egressPolicy = value
  case pos => exact .inr ⟨s, .unchanged, by simp [setPolicy, hv]⟩
  obtain h | ⟨r, hn, h⟩ := advanceAndCancel_run (s := s)
  · exact .inl ⟨.internalError, by simp [setPolicy, hv, h]⟩
  · refine .inr ⟨s.sweepPolicy (assign { s.egressPolicy with revision := r } value), .policy ?_, ?_⟩
    · simpa [hr] using hn
    · have hb := ha { s.egressPolicy with revision := r } value (s.egressPolicy.boundTurns.prune s.live)
      simpa [setPolicy, hv, h, sweepPolicy, hr] using hb

-- A writer either fails and leaves the session as it is or makes one of the changes.
theorem writer_run (w : GateWriter) :
    (∃ e, w.call.run s = .error e s) ∨ ∃ s', s.Written s' ∧ w.call.run s = .ok () s' := by
  cases w <;> simp only [GateWriter.call]
  case revoke =>
    obtain h | ⟨a, ha, h⟩ := onAuthorization_revoke_run (s := s)
    · exact .inl ⟨.internalError, by simp [revokeAuthority, h]⟩
    · refine .inr ⟨_, .authority fun he => ⟨ha he, rfl⟩, ?_⟩
      simp only [revokeAuthority, EStateM.run_bind, h, cancelStaleBoundTurns, EStateM.run_modify]
      rfl
  case replace expires =>
    obtain h | ⟨a, ha, h⟩ := onAuthorization_replace_run (s := s) (e := expires)
    · exact .inl ⟨.internalError, by simp [replace, h]⟩
    · refine .inr ⟨s.sweepAuthorization a s.authorization.effectiveAuthority,
        .authority fun he => absurd he ha, ?_⟩
      simp only [replace, EStateM.run_bind, h, cancelStaleBoundTurns, EStateM.run_modify]
      rfl
  case replaceAuthority effectiveAuthority expires =>
    obtain h | ⟨a, ha, h⟩ := onAuthorization_replace_run (s := s) (e := expires)
    · exact .inl ⟨.internalError, by simp [replaceEffectiveAuthority, h]⟩
    · refine .inr ⟨s.sweepAuthorization a effectiveAuthority, .authority fun he => absurd he ha, ?_⟩
      simp only [replaceEffectiveAuthority, EStateM.run_bind, h, cancelStaleBoundTurns,
        EStateM.run_modify]
      rfl
  case setProviderPolicyAllows => exact setPolicy_run (fun _ _ _ => rfl) fun _ _ => rfl
  case setConsent              => exact setPolicy_run (fun _ _ _ => rfl) fun _ _ => rfl
  case setLocalOnlyRequired    => exact setPolicy_run (fun _ _ _ => rfl) fun _ _ => rfl

namespace Controlled

theorem refl (s : ActiveSession) : s.Controlled s :=
  written s.session .unchanged

theorem write (w : GateWriter) : s.Controlled ((write w).run s).state := by
  obtain ⟨_, h⟩ | ⟨s', hw, h⟩ := writer_run (s := s) w
  · simpa [ActiveSession.write, EStateM.run_adaptExcept, h] using refl s
  · simpa [ActiveSession.write, EStateM.run_adaptExcept, h] using written s'.session hw

theorem transition (next : RealtimeSessionState) : s.Controlled ((transition next).run s).state := by
  cases h : (RealtimeSession.transition next).run s.session
  all_goals simpa [ActiveSession.transition, EStateM.zoom_run, h] using written _ .unchanged

theorem endWith (next : RealtimeSessionState) : s.Controlled ((endWith next).run s).state := by
  cases h : (RealtimeSession.transition next).run s.session
  case error => simpa [ActiveSession.endWith, h] using refl s
  case ok _ candidate =>
    obtain ⟨e, hw⟩ | ⟨s', hw, hr⟩ := writer_run (s := s) .revoke
    · simpa [ActiveSession.endWith, h, ActiveSession.write, EStateM.run_adaptExcept, hw] using refl s
    · simpa [ActiveSession.endWith, h, ActiveSession.write, EStateM.run_adaptExcept, hr]
        using written candidate hw

theorem whileActive (w : GateWriter) : s.Controlled ((whileActive w).run s).state := by
  by_cases h : s.session.state = .active
  case neg => simpa [ActiveSession.whileActive, h] using refl s
  case pos => simpa [ActiveSession.whileActive, h] using write w

theorem rebaseMediaTimeline (now : Option Nat) :
    s.Controlled ((rebaseMediaTimeline now).run s).state := by
  by_cases h : s.session.state = .active
  case neg => simpa [ActiveSession.rebaseMediaTimeline, h] using refl s
  cases now
  case none => simpa [ActiveSession.rebaseMediaTimeline, h, okOr] using refl s
  case some now =>
    obtain ⟨_, hr⟩ | ⟨_, hm, hr⟩ := s.mediaTimeline.rebase_run now
    · simpa [ActiveSession.rebaseMediaTimeline, h, okOr, EStateM.zoom_run, hr] using refl s
    · simpa [ActiveSession.rebaseMediaTimeline, h, okOr, EStateM.zoom_run, hr] using rebased hm

end Controlled

theorem live_cancelTurns {f : TurnAddress → Bool} : (s.cancelTurns f).live = s.live := by
  funext i
  cases h : s.turns i <;> simp [live, cancelTurns, h]

theorem cancelTurns_sameTurns {f : TurnAddress → Bool} : s.SameTurns (s.cancelTurns f) where
  forward {i t} h :=
    ⟨{ t with cancelled := t.cancelled || f i }, by simp [cancelTurns, h], rfl, rfl, by simp +contextual⟩
  backward {i t'} h := by
    obtain ⟨t, ht, rfl⟩ := by simpa [cancelTurns] using h
    exact ⟨t, ht, rfl, rfl, by simp +contextual⟩

theorem sameTurns_of_eq (h : s'.turns = s.turns) : s.SameTurns s' where
  forward ht  := ⟨_, h ▸ ht, .refl _⟩
  backward ht := ⟨_, h ▸ ht, .refl _⟩

theorem setTurn_sameTurns (h : s.turns i = some t) (k : t.Keeps t') :
    s.SameTurns (s.setTurn i t') where
  forward {j u} hu := by
    by_cases hj : j = i
    case pos =>
      obtain rfl : u = t := by simpa [hj, h] using hu.symm
      exact ⟨t', by simp [setTurn, hj], k⟩
    case neg => exact ⟨u, by simpa [setTurn, hj] using hu, .refl u⟩
  backward {j u'} hu := by
    by_cases hj : j = i
    case pos =>
      obtain rfl : u' = t' := by simpa [setTurn, hj] using hu.symm
      exact ⟨t, hj ▸ h, k⟩
    case neg => exact ⟨u', by simpa [setTurn, hj] using hu, .refl u'⟩

theorem live_iff : s.live i = true ↔ (∃ t, s.turns i = some t ∧ 0 < t.owners) ∨
    (∃ c ∈ s.calls, c.cancellation.turn = i) ∨ ∃ c ∈ s.permits, c.turn = i := by
  simp only [live, Bool.or_eq_true, Option.any_eq_true_iff_get, List.any_eq_true, decide_eq_true_eq, or_assoc]
  cases h : s.turns i <;> simp

theorem live_of_call {c : ProviderCall} (h : c ∈ s.calls) : s.live c.cancellation.turn = true := by
  exact live_iff.mpr <| .inr <| .inl ⟨c, h, rfl⟩

namespace Fenced

-- A call whose flag is unset has a turn that is bound to the current epoch and revision.
theorem current (f : s.Fenced) {c : ProviderCall} (hc : c ∈ s.calls)
    (ht : s.turns c.cancellation.turn = some t) (hn : t.cancelled = false) :
    t.authorizationSnapshot.epoch = s.authorization.authorization.epoch ∧
    t.egressPolicySnapshot.revision = s.egressPolicy.revision := by
  constructor <;> by_contra h
  case left  => simp [f.epochs.flagged ht (live_of_call hc) h] at hn
  case right => simp [f.revisions.flagged ht (live_of_call hc) h] at hn

-- Steps that leave both controllers alone.
theorem frame (f : s.Fenced) (ha : s'.authorization = s.authorization)
    (hp : s'.egressPolicy = s.egressPolicy) (ht : s.SameTurns s')
    (hl : ∀ {i}, s'.live i = true → s.live i = true)
    (hc : ∀ {c}, c ∈ s'.calls → c ∈ s.calls ∨ ∃ t, s'.turns c.cancellation.turn = some t ∧ s'.Permits c) :
    s'.Fenced where
  epochs := by
    rw [ha]
    refine f.epochs.mono hl fun h => ?_
    have ⟨t, h, k⟩ := ht.backward h
    exact ⟨t, h, by rw [k.authorization], k.cancelled⟩
  revisions := by
    rw [hp]
    refine f.revisions.mono hl fun h => ?_
    have ⟨t, h, k⟩ := ht.backward h
    exact ⟨t, h, by rw [k.egressPolicy], k.cancelled⟩
  calls h := by
    obtain h | ⟨t, h, p⟩ := hc h
    · have ⟨t, h, p⟩ := f.calls h
      have ⟨t', h', k⟩ := ht.forward h
      refine ⟨t', h', fun hn => ?_⟩
      have p := p (k.not_cancelled hn)
      exact ⟨ha ▸ p.expires, ha ▸ p.active, ha ▸ p.scope, hp ▸ p.egress⟩
    · exact ⟨t, h, fun _ => p⟩

-- A sweep of the turns that are bound to another epoch. The turn of a call whose flag it leaves unset
-- is bound both to the old and to the new epoch, so that the authority did not change.
theorem sweepAuthorization (f : s.Fenced) {a : AuthorizationState} {e : EffectiveAuthority}
    (h : a.epoch = s.authorization.authorization.epoch →
      a = s.authorization.authorization ∧ e = s.authorization.effectiveAuthority) :
    (s.sweepAuthorization a e).Fenced := by
  have hl : (s.sweepAuthorization a e).live = s.live := live_cancelTurns
  have ht : s.SameTurns (s.sweepAuthorization a e) :=
    ⟨cancelTurns_sameTurns.forward, cancelTurns_sameTurns.backward⟩
  have epochs : (s.authorization.boundTurns.prune s.live).Fences s.live
      (s.sweepAuthorization a e).turns (·.authorizationSnapshot.epoch) (·.cancelled) a.epoch := by
    refine f.epochs.sweep fun {i t'} h' => ?_
    obtain ⟨t, ht, rfl⟩ := by simpa [ActiveSession.sweepAuthorization, cancelTurns] using h'
    exact ⟨t, ht, rfl, fun hs => by simp [hs]⟩
  refine ⟨hl ▸ epochs, ?revisions, fun {c} hc => ?calls⟩
  case revisions =>
    refine hl ▸ f.revisions.mono id fun h => ?_
    have ⟨t, h, k⟩ := ht.backward h
    exact ⟨t, h, by rw [k.egressPolicy], k.cancelled⟩
  case calls =>
    have hc : c ∈ s.calls := hc
    have ⟨t, htc, p⟩ := f.calls hc
    have ⟨t', htc', k⟩ := ht.forward htc
    refine ⟨t', htc', fun hn => ?_⟩
    have hn' := k.not_cancelled hn
    have he : t'.authorizationSnapshot.epoch = a.epoch := by
      by_contra he
      simp [epochs.flagged htc' (live_of_call hc) he] at hn
    obtain ⟨rfl, rfl⟩ := h (he ▸ k.authorization ▸ (f.current hc htc hn').left)
    have p := p hn'
    exact ⟨p.expires, p.active, p.scope, p.egress⟩

theorem sweepPolicy (f : s.Fenced) {p : EgressPolicyRuntimeState}
    (h : p.revision ≠ s.egressPolicy.revision) : (s.sweepPolicy p).Fenced := by
  have hl : (s.sweepPolicy p).live = s.live := live_cancelTurns
  have ht : s.SameTurns (s.sweepPolicy p) := ⟨cancelTurns_sameTurns.forward, cancelTurns_sameTurns.backward⟩
  have revisions : (s.egressPolicy.boundTurns.prune s.live).Fences s.live
      (s.sweepPolicy p).turns (·.egressPolicySnapshot.revision) (·.cancelled) p.revision := by
    refine f.revisions.sweep fun {i t'} h' => ?_
    obtain ⟨t, ht, rfl⟩ := by simpa [ActiveSession.sweepPolicy, cancelTurns] using h'
    exact ⟨t, ht, rfl, fun hs => by simp [hs]⟩
  refine ⟨?epochs, hl ▸ revisions, fun {c} hc => ?calls⟩
  case epochs =>
    refine hl ▸ f.epochs.mono id fun h => ?_
    have ⟨t, h, k⟩ := ht.backward h
    exact ⟨t, h, by rw [k.authorization], k.cancelled⟩
  case calls =>
    have hc : c ∈ s.calls := hc
    have ⟨t, htc, _⟩ := f.calls hc
    have ⟨t', htc', k⟩ := ht.forward htc
    refine ⟨t', htc', fun hn => ?_⟩
    have hn' := k.not_cancelled hn
    have hr : t'.egressPolicySnapshot.revision = p.revision := by
      by_contra hr
      simp [revisions.flagged htc' (live_of_call hc) hr] at hn
    exact absurd (hr ▸ k.egressPolicy ▸ (f.current hc htc hn').right) h

theorem bindTurn (f : s.Fenced) (hi : s.turns i = none)
    (he : t.authorizationSnapshot.epoch = s.authorization.authorization.epoch)
    (hr : t.egressPolicySnapshot.revision = s.egressPolicy.revision) : (s.bindTurn i t).Fenced := by
  have hc : ∀ {j t'}, (s.bindTurn i t).turns j = some t' →
      (j = i ∧ t' = t) ∨ (j ≠ i ∧ s.turns j = some t') := by
    intro j t' h
    by_cases hj : j = i
    case pos => exact .inl ⟨hj, by simpa [ActiveSession.bindTurn, setTurn, hj] using h.symm⟩
    case neg => exact .inr ⟨hj, by simpa [ActiveSession.bindTurn, setTurn, hj] using h⟩
  have hl : ∀ {j}, j ≠ i → (s.bindTurn i t).live j = true → s.live j = true := by
    intro j hj
    simp [live, ActiveSession.bindTurn, setTurn, hj]
  refine ⟨f.epochs.bind he hc hl, f.revisions.bind hr hc hl, fun {c} h => ?_⟩
  have ⟨t', ht, p⟩ := f.calls h
  have hn : c.cancellation.turn ≠ i := fun h => by simp [h, hi] at ht
  refine ⟨t', by simpa [ActiveSession.bindTurn, setTurn, hn] using ht, fun h => ?_⟩
  have p := p h
  exact ⟨p.expires, p.active, p.scope, p.egress⟩

end Fenced

theorem ofTurn_eq_some_iff : s.ofTurn i = some t ↔ s.turns i = some t ∧ 0 < t.owners := by
  simp [ofTurn, Option.filter_eq_some_iff]

theorem live_setTurn (h : s.ofTurn i = some t) {j : TurnAddress} :
    (s.setTurn i t').live j = true → s.live j = true := by
  have ⟨h, ho⟩ := ofTurn_eq_some_iff.mp h
  by_cases hj : j = i
  case pos => simp [live, hj, h, ho]
  case neg => simp [live, setTurn, hj]

end ActiveSession

namespace ActiveTurn

variable {g : ActiveTurn → Except Rt0ReasonCode Unit} {c : TurnCall} {t : ActiveTurn} {m : MediaTimeline}

theorem guarded_keeps : t.Keeps ((guarded g c).run (t, m)).state.1 := by
  cases hg : g t
  case error => simpa [guarded, hg] using Keeps.refl t
  case ok =>
    cases hc : c.call.run (t.state, m)
    all_goals
      simp only [guarded, EStateM.run_bind, EStateM.run_get, hg, EStateM.check_ok_run, EStateM.zoom_run, hc]
      exact ⟨rfl, rfl, id⟩

theorem interrupt_keeps : t.Keeps (interrupt.run (t, m)).state.1 := by
  have k := guarded_keeps (g := fun _ => .ok ()) (c := .interrupt) (t := t) (m := m)
  cases hr : (guarded (fun _ => .ok ()) .interrupt).run (t, m) <;> rw [hr] at k
  case error => simpa [interrupt, hr] using k
  case ok    => simpa [interrupt, hr] using ⟨k.authorization, k.egressPolicy, fun _ => rfl⟩

theorem method_keeps (x : TurnMethod) (s : ActiveSession) (now : Option Nat) :
    t.Keeps ((x.call s now).run (t, m)).state.1 := by
  cases x <;> simp only [TurnMethod.call, authorize, beginProcessing, beginOutput, complete, deny,
    fail, beginOutputSegment, deliver]
  case interrupt => exact interrupt_keeps
  all_goals exact guarded_keeps

end ActiveTurn

namespace ActiveSession

variable {s s' : ActiveSession} {i : TurnAddress} {t t' : ActiveTurn}

theorem newTurn_run (s : ActiveSession) (i : TurnAddress) (turnId : TurnId)
    (correlationId : CorrelationId) (persona : PersonaIdentity) :
    (∃ e, (newTurn i turnId correlationId persona).run s = .error e s) ∨
    ∃ t, t.state = .new (.new turnId correlationId) s.mediaTimeline.epoch ∧
      t.authorizationSnapshot = s.authorization.authorization.snapshot ∧
      t.egressPolicySnapshot = ⟨s.egressPolicy.revision⟩ ∧
      (newTurn i turnId correlationId persona).run s = .ok () (s.bindTurn i t) := by
  by_cases h₁ : s.session.state = .active
  case neg => exact .inl ⟨.invalidTurnState, by simp [newTurn, h₁]⟩
  by_cases h₂ : s.session.personaId = persona.id
  case neg => exact .inl ⟨.authorityDenied, by simp [newTurn, h₁, h₂]⟩
  simp only [newTurn, EStateM.run_bind, EStateM.run_get, h₁, h₂, ne_eq, not_true_eq_false, if_false,
    EStateM.run_modify]
  exact .inr ⟨_, rfl, rfl, rfl, rfl⟩

namespace Advances

theorem refl (s : ActiveSession) : s.Advances s :=
  ⟨id, fun h => ⟨_, h, .refl _⟩⟩

-- Steps that leave the controllers, the turns and the calls alone.
theorem frame (ha : s'.authorization = s.authorization) (hp : s'.egressPolicy = s.egressPolicy)
    (ht : s'.turns = s.turns) (hl : ∀ {i}, s'.live i = true → s.live i = true)
    (hc : ∀ {c}, c ∈ s'.calls → c ∈ s.calls) : s.Advances s' where
  fenced f  := f.frame ha hp (sameTurns_of_eq ht) hl fun h => .inl (hc h)
  forward h := (sameTurns_of_eq ht).forward h

theorem trans {s₁ s₂ s₃ : ActiveSession} (a₁ : s₁.Advances s₂) (a₂ : s₂.Advances s₃) :
    s₁.Advances s₃ where
  fenced f  := a₂.fenced (a₁.fenced f)
  forward h := by
    have ⟨_, h, k⟩ := a₁.forward h
    have ⟨t, h, k'⟩ := a₂.forward h
    exact ⟨t, h, k.trans k'⟩

theorem written (w : s.Written s') : s.Advances s' := by
  cases w
  case unchanged   => exact refl s
  case authority h => exact ⟨(·.sweepAuthorization h), cancelTurns_sameTurns.forward⟩
  case policy h    => exact ⟨(·.sweepPolicy h), cancelTurns_sameTurns.forward⟩

theorem controlled (c : s.Controlled s') : s.Advances s' := by
  cases c
  case written w => exact (written w).trans <| frame rfl rfl rfl id id
  case rebased   => exact frame rfl rfl rfl id id

-- Steps that change one turn and the timeline.
theorem setTurn (h : s.ofTurn i = some t) (k : t.Keeps t') (m : MediaTimeline) :
    s.Advances { s.setTurn i t' with mediaTimeline := m } := by
  have ht := setTurn_sameTurns (ofTurn_eq_some_iff.mp h).left k
  exact ⟨fun f => f.frame rfl rfl ⟨ht.forward, ht.backward⟩ (live_setTurn h) .inl, ht.forward⟩

theorem newTurn (hi : s.turns i = none) (turnId : TurnId) (correlationId : CorrelationId)
    (persona : PersonaIdentity) :
    s.Advances ((newTurn i turnId correlationId persona).run s).state := by
  obtain ⟨_, hr⟩ | ⟨t, _, he, hp, hr⟩ := newTurn_run s i turnId correlationId persona <;> rw [hr]
  · exact refl s
  · refine ⟨fun f => f.bindTurn hi (by rw [he]; rfl) (by rw [hp]), fun {j t'} h => ⟨t', ?_, .refl t'⟩⟩
    have hj : j ≠ i := fun hj => by simp [hj, hi] at h
    simpa [bindTurn, ActiveSession.setTurn, hj] using h

end Advances

theorem issueProviderPermit_permits {policy : EgressPolicyRuntimeState}
    {state : AuthorizationRuntimeState} {snapshot : AuthorizationSnapshot}
    {egressSnapshot : EgressPolicySnapshot} {b : Bool} {scope : AuthorityScope}
    {dataClass : DataClass} {now : Nat} {c : ProviderCancellation}
    (h : state.issueProviderPermit policy snapshot egressSnapshot i b scope dataClass now = .ok c) :
    c = ⟨i, state.authorization.expiresAtMillis⟩ ∧ state.authorization.revoked = false ∧
      state.effectiveAuthority.allows scope = true ∧
      decideEgress (policy.request dataClass) = .allow .allowed := by
  simp only [AuthorizationRuntimeState.issueProviderPermit, AuthorizationRuntimeState.validateBound] at h
  cases hv : state.authorization.validate snapshot now <;> rw [hv] at h
  case error => cases h
  have hr := (AuthorizationState.validate_iff.mp hv).right.left
  by_cases hp : policy.revision = egressSnapshot.revision
  case neg => simp [hp, Except.mapError] at h; cases h
  cases b
  case true => simp [hp, Except.mapError] at h; cases h
  cases ha : state.effectiveAuthority.allows scope
  case false => simp [hp, ha, Except.mapError] at h; cases h
  simp [hp, ha, Except.mapError] at h
  rcases hd : decideEgress (policy.request dataClass) with reason | _ | reason
  case allow =>
    obtain rfl := decideEgress_allow hd
    rw [hd] at h
    cases h
    exact ⟨rfl, hr, rfl, rfl⟩
  case localOnly => rw [hd] at h; cases h
  case deny      => rw [hd] at h; cases reason <;> cases h

theorem issueProviderPermit_run (s : ActiveSession) (i : TurnAddress) (t : ActiveTurn)
    (scope : AuthorityScope) (dataClass : DataClass) (now : Option Nat) :
    (∃ e, (issueProviderPermit i t scope dataClass now).run s = .error e s) ∨
    t.state.providerExecutionAllowed = true ∧
    ∃ c : ProviderCall, c.cancellation.turn = i ∧ s.Permits c ∧
      (issueProviderPermit i t scope dataClass now).run s = .ok () { s with calls := s.calls ++ [c] } := by
  cases ht : t.state.providerExecutionAllowed
  case false => exact .inl ⟨.invalidTurnState, by simp [issueProviderPermit, ht]⟩
  cases now
  case none => exact .inl ⟨.internalError, by simp [issueProviderPermit, ht, okOr]⟩
  case some now =>
    cases hp : s.authorization.issueProviderPermit s.egressPolicy t.authorizationSnapshot
      t.egressPolicySnapshot i t.cancelled scope dataClass now
    case error e => exact .inl ⟨e, by simp [issueProviderPermit, ht, okOr, hp]⟩
    case ok c =>
      obtain ⟨hc, hr, hs, he⟩ := issueProviderPermit_permits hp
      refine .inr ⟨rfl, ⟨c, scope, dataClass⟩, by rw [hc], ⟨by rw [hc], hr, hs, he⟩, ?_⟩
      simp [issueProviderPermit, ht, okOr, hp]

theorem Advances.issueProviderPermit (h : s.ofTurn i = some t) (scope : AuthorityScope)
    (dataClass : DataClass) (now : Option Nat) :
    s.Advances ((issueProviderPermit i t scope dataClass now).run s).state := by
  have ⟨ht, ho⟩ := ofTurn_eq_some_iff.mp h
  obtain ⟨_, hr⟩ | ⟨-, c, hc, p, hr⟩ := issueProviderPermit_run s i t scope dataClass now
  · exact hr ▸ refl s
  · rw [hr]
    refine ⟨fun f => f.frame rfl rfl (sameTurns_of_eq rfl) ?live ?calls, fun h => ⟨_, h, .refl _⟩⟩
    case live =>
      intro j
      by_cases hj : j = i
      case pos => simp [live, hj, ht, ho]
      case neg => simp [live, hc, Ne.symm hj]
    case calls =>
      intro c' hc'
      obtain hc' | rfl : c' ∈ s.calls ∨ c' = c := by simpa using hc'
      · exact .inl hc'
      · exact .inr ⟨t, hc ▸ ht, p.expires, p.active, p.scope, p.egress⟩

-- What holds at the moment in which a call is admitted.
structure Current (s : ActiveSession) (t : ActiveTurn) (c : ProviderCall) (now : Option Nat) :
    Prop where
  epoch     : t.authorizationSnapshot.epoch = s.authorization.authorization.epoch
  active    : s.authorization.authorization.revoked = false
  unexpired : ∀ expires, s.authorization.authorization.expiresAtMillis = some expires →
    ∃ n, now = some n ∧ n < expires
  revision  : t.egressPolicySnapshot.revision = s.egressPolicy.revision
  scope     : s.authorization.effectiveAuthority.allows c.requiredScope = true
  egress    : decideEgress (s.egressPolicy.request c.dataClass) = .allow .allowed
  unset     : t.cancelled = false

theorem beginProviderEgress_run (s : ActiveSession) (n : Nat) (c : ProviderCall) (t : ActiveTurn)
    (now : Option Nat) :
    (∃ e, (beginProviderEgress n c t now).run s = .error e { s with calls := s.calls.eraseIdx n }) ∨
    c.cancellation.isCancelled t.cancelled now = false ∧
    (beginProviderEgress n c t now).run s = .ok () { s with
      calls        := s.calls.eraseIdx n
      activeEgress := s.activeEgress + 1
      permits      := s.permits ++ [c.cancellation] } := by
  cases hc : c.cancellation.isCancelled t.cancelled now
  case true => exact .inl ⟨.turnCancelled, by simp [beginProviderEgress, hc]⟩
  cases ha : checkedAdd s.activeEgress 1
  case none   => exact .inl ⟨.turnCancelled, by simp [beginProviderEgress, hc, ha, okOr]⟩
  case some a =>
    obtain ⟨_, rfl⟩ := checkedAdd_eq_some_iff.mp ha
    exact .inr ⟨rfl, by simp [beginProviderEgress, hc, ha, okOr]⟩

theorem not_isCancelled_iff {c : ProviderCancellation} {b : Bool} {now : Option Nat} :
    c.isCancelled b now = false ↔
      b = false ∧ ∀ expires, c.expiresAtMillis = some expires → ∃ n, now = some n ∧ n < expires := by
  cases b <;> cases he : c.expiresAtMillis <;> cases now
  all_goals simp [ProviderCancellation.isCancelled, he]

-- The second half checks the flag and the expiry that it captured. The invariant has the rest.
theorem Fenced.admitted (f : s.Fenced) {c : ProviderCall} {now : Option Nat} (hc : c ∈ s.calls)
    (ht : s.turns c.cancellation.turn = some t)
    (ha : c.cancellation.isCancelled t.cancelled now = false) : s.Current t c now := by
  have ⟨hn, hx⟩ := not_isCancelled_iff.mp ha
  have ⟨_, ht', p⟩ := f.calls hc
  obtain rfl : _ = t := by simpa [ht'] using ht
  have p := p hn
  have ⟨he, hr⟩ := f.current hc ht hn
  exact ⟨he, p.active, fun e h => hx e (p.expires.trans h), hr, p.scope, p.egress, hn⟩

theorem Advances.beginProviderEgress {n : Nat} {c : ProviderCall} (hc : s.calls[n]? = some c)
    (t : ActiveTurn) (now : Option Nat) :
    s.Advances ((beginProviderEgress n c t now).run s).state := by
  have he : ∀ {c'}, c' ∈ s.calls.eraseIdx n → c' ∈ s.calls := List.mem_of_mem_eraseIdx
  obtain ⟨_, hr⟩ | ⟨_, hr⟩ := beginProviderEgress_run s n c t now <;> rw [hr]
  · refine frame rfl rfl rfl (fun {i} h => ?_) he
    obtain h | ⟨c', h, hi⟩ | h := live_iff.mp h
    · exact live_iff.mpr <| .inl h
    · exact live_iff.mpr <| .inr <| .inl ⟨c', he h, hi⟩
    · exact live_iff.mpr <| .inr <| .inr h
  · refine frame rfl rfl rfl (fun {i} h => ?_) he
    obtain h | ⟨c', h, hi⟩ | ⟨c', h, hi⟩ := live_iff.mp h
    · exact live_iff.mpr <| .inl h
    · exact live_iff.mpr <| .inr <| .inl ⟨c', he h, hi⟩
    · -- The new permit takes the place of the call as an owner of the flag.
      obtain h | rfl : c' ∈ s.permits ∨ c' = c.cancellation := by simpa using h
      · exact live_iff.mpr <| .inr <| .inr ⟨c', h, hi⟩
      · exact live_iff.mpr <| .inr <| .inl ⟨c, List.mem_of_getElem? hc, hi⟩

theorem Advances.dropPermit (n : Nat) : s.Advances (s.dropPermit n) := by
  refine frame rfl rfl rfl (fun {i} h => ?_) id
  obtain h | h | ⟨c, h, hi⟩ := live_iff.mp h
  · exact live_iff.mpr <| .inl h
  · exact live_iff.mpr <| .inr <| .inl h
  · exact live_iff.mpr <| .inr <| .inr ⟨c, List.mem_of_mem_eraseIdx h, hi⟩

theorem new_fenced (id : SessionId) (personaId : PersonaId) (security : SessionSecurityConfig) :
    (new id personaId security).Fenced where
  epochs    := ⟨nofun, nofun⟩
  revisions := ⟨nofun, nofun⟩
  calls     := nofun

-- Everything that a step can do. Only the second half of a provider call admits anything.
inductive Move (s : ActiveSession) : SessionEvent → ActiveSession → List SessionObservation → Prop
  | controlled {e s' o} :
    (s.Controlled s') → (∀ {c now}, .admitted c now ∉ o) → Move s e s' o
  | newTurn {i turnId correlationId persona} : (s.turns i = none) →
    Move s (.newTurn i turnId correlationId persona)
      ((newTurn i turnId correlationId persona).run s).state []
  | handles {e i t} (owners : Nat) : (s.ofTurn i = some t) → Move s e (s.setTurn i { t with owners }) []
  | method {i x now t} : (s.ofTurn i = some t) →
    Move s (.method i x now)
      { s.setTurn i ((x.call s now).run (t, s.mediaTimeline)).state.1 with
        mediaTimeline := ((x.call s now).run (t, s.mediaTimeline)).state.2 } []
  | issue {i scope dataClass now t} : (s.ofTurn i = some t) →
    Move s (.issueProviderPermit i scope dataClass now)
      ((issueProviderPermit i t scope dataClass now).run s).state []
  | egress {n now c t} : (s.calls[n]? = some c) → (s.turns c.cancellation.turn = some t) →
    Move s (.beginProviderEgress n now) ((beginProviderEgress n c t now).run s).state
      (if ((beginProviderEgress n c t now).run s).isOk then [.admitted c now] else [])
  | dropPermit {n} : Move s (.dropPermit n) (s.dropPermit n) []

theorem step_move {e : SessionEvent} {o : List SessionObservation}
    (h : machine.step s e = some (s', o)) : s.Move e s' o := by
  cases e <;> simp only [machine, Option.bind_eq_bind, Option.pure_def, Option.some.injEq,
    Prod.mk.injEq, Option.bind_eq_some_iff] at h
  case newTurn i turnId correlationId persona =>
    cases hi : s.turns i <;> simp [hi] at h
    case none =>
      obtain ⟨rfl, rfl⟩ := h
      exact .newTurn hi
  case cloneHandle | dropHandle =>
    obtain ⟨t, ht, rfl, rfl⟩ := h
    exact .handles _ ht
  case method i x now =>
    obtain ⟨t, ht, rfl, rfl⟩ := h
    exact .method ht
  case issueProviderPermit i scope dataClass now =>
    obtain ⟨t, ht, rfl, rfl⟩ := h
    exact .issue ht
  case beginProviderEgress n now =>
    obtain ⟨c, hc, t, ht, rfl, rfl⟩ := h
    exact .egress hc ht
  case dropPermit n =>
    split at h <;> cases h
    exact .dropPermit
  all_goals
    obtain ⟨rfl, rfl⟩ := h
    refine .controlled ?_ (by simp)
  case activate             => exact .transition .active
  case beginDraining        => exact .transition .draining
  case revoke               => exact .endWith .revoked
  case close                => exact .endWith .closed
  case replaceAuthority     => exact .whileActive _
  case refreshAuthorization => exact .whileActive _
  case rebaseMediaTimeline  => exact .rebaseMediaTimeline _
  case write w              => exact .write w

theorem step_advances {e : SessionEvent} {o : List SessionObservation}
    (h : machine.step s e = some (s', o)) : s.Advances s' := by
  cases step_move h
  case controlled c _    => exact .controlled c
  case newTurn hi        => exact .newTurn hi _ _ _
  case handles t n ht    =>
    have k : t.Keeps { t with owners := n } := ⟨rfl, rfl, id⟩
    exact .setTurn ht k s.mediaTimeline
  case method x now t ht => exact .setTurn ht (ActiveTurn.method_keeps x s now) _
  case issue ht          => exact .issueProviderPermit ht _ _ _
  case egress t hc _     => exact .beginProviderEgress hc t _
  case dropPermit n      => exact .dropPermit n

theorem run_fenced {t : List SessionObservation} : (machine.Run t s) → s.Fenced :=
  Machine.Run.state_invariant (fun ⟨_, _, _, h⟩ => h ▸ new_fenced _ _ _) fun f h =>
    (step_advances h).fenced f

theorem steps_advances {t : List SessionObservation} (e : machine.Steps s t s') : s.Advances s' := by
  induction e
  case refl          => exact .refl _
  case trans hs _ hi => exact (step_advances hs).trans hi

theorem step_admitted {e : SessionEvent} {o : List SessionObservation} {c : ProviderCall}
    {now : Option Nat} (h : machine.step s e = some (s', o)) (ha : .admitted c now ∈ o) :
    ∃ turn, c ∈ s.calls ∧ s.turns c.cancellation.turn = some turn ∧
      c.cancellation.isCancelled turn.cancelled now = false ∧
      s'.authorization = s.authorization ∧ s'.egressPolicy = s.egressPolicy ∧ s'.turns = s.turns := by
  cases step_move h
  case controlled hn => exact absurd ha hn
  case egress n now c' turn hc ht =>
    obtain ⟨_, hr⟩ | ⟨hn, hr⟩ := beginProviderEgress_run s n c' turn now <;> rw [hr] at ha ⊢
    case inl => simp at ha
    case inr =>
      obtain ⟨rfl, rfl⟩ := by simpa using ha
      exact ⟨turn, List.mem_of_getElem? hc, ht, hn, rfl, rfl, rfl⟩
  all_goals simp at ha

theorem admission_current {t o : List SessionObservation} {e : SessionEvent} {c : ProviderCall}
    {now : Option Nat} (r : machine.Run t s) (h : machine.step s e = some (s', o))
    (ha : .admitted c now ∈ o) :
    ∃ turn, s'.turns c.cancellation.turn = some turn ∧ s'.Current turn c now := by
  have ⟨turn, hc, ht, hn, hs, hp, hm⟩ := step_admitted h ha
  have hc := (run_fenced r).admitted hc ht hn
  refine ⟨turn, hm ▸ ht, ?_⟩
  have ⟨_, _, _, _, _, _, _, _⟩ := s'
  cases hs; cases hp; cases hm
  exact ⟨hc.epoch, hc.active, hc.unexpired, hc.revision, hc.scope, hc.egress, hc.unset⟩

-- A turn whose provider call is admitted after another turn came and went between its halves.
theorem admission_current_interleaved : ∃ t s e s' o c now, machine.Run t s ∧
    machine.step s e = some (s', o) ∧ .admitted c now ∈ o ∧
    ∃ turn, s'.turns c.cancellation.turn = some turn ∧ s'.Current turn c now :=
  let id : CanonicalId := ⟨"canonical", by decide, by decide⟩
  let scope : AuthorityScope := ⟨"provider.egress", by decide⟩
  let persona : PersonaIdentity := ⟨id, ⟨1, by decide⟩, .digitalTwin⟩
  have r := Machine.Run.of_replay (m := machine) (new id id ⟨⟨{scope}⟩, some 100, true, .granted, false⟩)
    [.activate, .newTurn 0 id id persona, .method 0 .authorize (some 10),
      .issueProviderPermit 0 scope .biometric (some 20), .newTurn 1 id id persona, .dropHandle 1,
      .method 0 .beginProcessing (some 30)]
    ⟨id, id, _, rfl⟩ rfl
  have ha := List.mem_singleton_self <|
    SessionObservation.admitted ⟨⟨0, some 100⟩, scope, .biometric⟩ (some 40)
  ⟨_, _, .beginProviderEgress 0 (some 40), _, _, _, _, r, rfl, ha,
    admission_current (e := .beginProviderEgress 0 (some 40)) r rfl ha⟩

-- What holds of a session in every state that it reaches.
structure MissesNoTurn (s : ActiveSession) : Prop where
  stale   : ∀ {i turn}, s.turns i = some turn → s.live i = true →
    turn.authorizationSnapshot.epoch ≠ s.authorization.authorization.epoch ∨
      turn.egressPolicySnapshot.revision ≠ s.egressPolicy.revision →
    turn.cancelled = true
  flag    : ∀ {i turn t s'}, s.turns i = some turn → turn.cancelled = true → machine.Steps s t s' →
    ∃ turn', s'.turns i = some turn' ∧ turn'.cancelled = true
  failing : ∀ {w : GateWriter} {e s'}, w.call.run s = .error e s' → s' = s

theorem run_missesNoTurn {t : List SessionObservation} (r : machine.Run t s) : MissesNoTurn s := by
  have f := run_fenced r
  refine ⟨fun ht hl h => ?stale, fun ht hc e => ?flag, fun {w e s'} h => ?failing⟩
  case stale =>
    obtain h | h := h
    · exact f.epochs.flagged ht hl h
    · exact f.revisions.flagged ht hl h
  case flag =>
    have ⟨turn', ht, k⟩ := (steps_advances e).forward ht
    exact ⟨turn', ht, k.cancelled hc⟩
  case failing =>
    obtain ⟨_, hr⟩ | ⟨_, _, hr⟩ := writer_run (s := s) w <;> rw [hr] at h <;> cases h
    rfl

-- A session that is revoked after the policy of one of its turns changed.
theorem run_missesNoTurn_revoked : ∃ t s, machine.Run t s ∧
    s.authorization.authorization.revoked = true ∧ MissesNoTurn s :=
  let id : CanonicalId := ⟨"canonical", by decide, by decide⟩
  let persona : PersonaIdentity := ⟨id, ⟨1, by decide⟩, .digitalTwin⟩
  have r := Machine.Run.of_replay (m := machine) (new id id ⟨⟨∅⟩, none, true, .granted, false⟩)
    [.activate, .newTurn 0 id id persona, .write (.setConsent .missing), .newTurn 1 id id persona,
      .revoke]
    ⟨id, id, _, rfl⟩ rfl
  ⟨_, _, r, rfl, run_missesNoTurn r⟩

end ActiveSession
