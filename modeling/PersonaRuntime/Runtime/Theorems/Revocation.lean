import PersonaRuntime.Runtime.Theorems.Turns

-- Everything but a new authority, a new policy or a new epoch of the media.
def SessionEvent.routine : SessionEvent → Bool
  | replaceAuthority _ _ | refreshAuthorization _ | rebaseMediaTimeline _ => false
  | write .revoke => true
  | write _       => false
  | _             => true

def SessionEvent.issues : SessionEvent → Bool
  | issueProviderPermit .. => true
  | _                      => false

namespace ActiveSession

variable {s s' s₁ s₂ s₃ : ActiveSession} {e : SessionEvent} {o : List SessionObservation} {i : TurnAddress}

-- The authority of the session is the one it was created with, or it is revoked.
structure Unrenewed (s : ActiveSession) : Prop where
  fenced  : s.Fenced
  initial : s.authorization.authorization.revoked = false →
    s.authorization.authorization.epoch = .initial

-- What a routine step keeps.
structure Kept (s s' : ActiveSession) : Prop where
  unrenewed : s.Unrenewed → s'.Unrenewed
  turns     : ∀ {i t}, s.turns i = some t → ∃ t', s'.turns i = some t' ∧ t.Keeps t'
  revoked   : s.authorization.authorization.revoked = true → s'.authorization.authorization.revoked = true

theorem new_unrenewed (id : SessionId) (personaId : PersonaId) (security : SessionSecurityConfig) :
    (new id personaId security).Unrenewed :=
  ⟨new_fenced id personaId security, fun _ => rfl⟩

theorem Kept.refl (s : ActiveSession) : s.Kept s :=
  ⟨id, fun h => ⟨_, h, .refl _⟩, id⟩

theorem Kept.trans (k : s₁.Kept s₂) (k' : s₂.Kept s₃) : s₁.Kept s₃ where
  unrenewed u := k'.unrenewed (k.unrenewed u)
  turns h := by
    have ⟨_, h, k⟩ := k.turns h
    have ⟨t, h, k'⟩ := k'.turns h
    exact ⟨t, h, k.trans k'⟩
  revoked h := k'.revoked (k.revoked h)

theorem write_revoke_authorization :
    ((write .revoke).run s).state.authorization.authorization =
      (AuthorizationState.revoke.run s.authorization.authorization).state := by
  cases hr : s.authorization.authorization.revoked <;> cases hn : s.authorization.authorization.epoch.next
  all_goals
    simp [write, EStateM.run_adaptExcept, GateWriter.call, revokeAuthority, onAuthorization, EStateM.zoom_run,
      AuthorizationState.revoke_run, hr, hn, cancelStaleBoundTurns]

theorem write_revoke_revoked (u : s.Unrenewed) :
    ((write .revoke).run s).state.authorization.authorization.revoked = true := by
  rw [write_revoke_authorization, AuthorizationState.revoke_run]
  cases hr : s.authorization.authorization.revoked
  case true  => simp [hr]
  case false =>
    rw [u.initial hr]
    rfl

theorem transition_authorization (next : RealtimeSessionState) :
    ((transition next).run s).state.authorization = s.authorization := by
  cases h : (RealtimeSession.transition next).run s.session <;> simp [transition, EStateM.zoom_run, h]

theorem endWith_authorization (next : RealtimeSessionState) :
    ((endWith next).run s).state.authorization = s.authorization ∨
    ((endWith next).run s).state.authorization = ((write .revoke).run s).state.authorization := by
  cases h : (RealtimeSession.transition next).run s.session
  case error => exact .inl (by simp [endWith, h])
  case ok _ candidate =>
    apply Or.inr
    cases hw : (write .revoke).run s <;> simp [endWith, h, hw]

theorem write_revoke_cases :
    ((write .revoke).run s).state.authorization.authorization = s.authorization.authorization ∨
    ((write .revoke).run s).state.authorization.authorization.revoked = true := by
  rw [write_revoke_authorization, AuthorizationState.revoke_run]
  cases hr : s.authorization.authorization.revoked
  case true => exact .inl rfl
  case false =>
    cases hn : s.authorization.authorization.epoch.next
    case error => exact .inl rfl
    case ok    => exact .inr rfl

-- A routine step leaves the authority alone or revokes it.
theorem step_authorization (h : machine.step s e = some (s', o)) (he : e.routine = true) :
    s'.authorization.authorization = s.authorization.authorization ∨
    s'.authorization.authorization.revoked = true := by
  cases e <;> simp only [machine, Option.bind_eq_bind, Option.pure_def, Option.some.injEq,
    Prod.mk.injEq, Option.bind_eq_some_iff] at h
  case activate | beginDraining =>
    obtain ⟨rfl, -⟩ := h
    exact .inl (congrArg _ (transition_authorization _))
  case revoke | close =>
    obtain ⟨rfl, -⟩ := h
    obtain ha | ha := endWith_authorization (s := s) _
    · exact .inl (congrArg _ ha)
    · exact (write_revoke_cases (s := s)).imp (congrArg _ ha).trans (ha ▸ ·)
  case write w =>
    cases w <;> cases he
    case revoke => exact h.left ▸ write_revoke_cases
  case newTurn i turnId correlationId persona =>
    cases hi : s.turns i <;> simp [hi] at h
    case none =>
      obtain ⟨rfl, -⟩ := h
      obtain ⟨_, hr⟩ | ⟨t, -, -, -, hr⟩ := newTurn_run s i turnId correlationId persona
      all_goals exact .inl (hr ▸ rfl)
  case cloneHandle | dropHandle | method =>
    obtain ⟨t, -, rfl, -⟩ := h
    exact .inl rfl
  case issueProviderPermit i scope dataClass now =>
    obtain ⟨t, -, rfl, -⟩ := h
    obtain ⟨_, hr⟩ | ⟨-, c, -, -, hr⟩ := issueProviderPermit_run s i t scope dataClass now
    all_goals exact .inl (hr ▸ rfl)
  case beginProviderEgress n now =>
    obtain ⟨c, -, t, -, rfl, -⟩ := h
    obtain ⟨_, hr⟩ | ⟨-, hr⟩ := beginProviderEgress_run s n c t now
    all_goals exact .inl (hr ▸ rfl)
  case dropPermit n =>
    split at h <;> cases h
    exact .inl rfl
  all_goals cases he

theorem step_kept (h : machine.step s e = some (s', o)) (he : e.routine = true) : s.Kept s' := by
  have a := step_advances h
  obtain ha | ha := step_authorization h he
  · exact ⟨fun u => ⟨a.fenced u.fenced, ha ▸ u.initial⟩, a.forward, (ha ▸ ·)⟩
  · exact ⟨fun u => ⟨a.fenced u.fenced, by simp [ha]⟩, a.forward, fun _ => ha⟩

-- A session that is revoked admits nothing, and no session admits a call of a turn whose flag is set.
theorem Unrenewed.admitted (u : s.Unrenewed) {c : ProviderCall} {now : Option Nat}
    (h : machine.step s e = some (s', o)) (ha : .admitted c now ∈ o) :
    s.authorization.authorization.revoked = false ∧ c ∈ s.calls ∧
      ∃ t, s.turns c.cancellation.turn = some t ∧ t.cancelled = false := by
  have ⟨t, hc, ht, hn, _⟩ := step_admitted h ha
  have hcur := u.fenced.admitted hc ht hn
  exact ⟨hcur.active, hc, t, ht, hcur.unset⟩

-- The turn at `i` is the only one that has provider calls, and it is processing until its flag is set.
structure Startup (s : ActiveSession) (i : TurnAddress) : Prop where
  turn  : ∃ t, s.turns i = some t ∧ 0 < t.owners ∧ t.state.WellFormed ∧
    (t.cancelled = true ∨ t.state.state = .processing)
  calls : ∀ {c}, c ∈ s.calls → c.cancellation.turn = i

theorem cancelTurns_turns (f : TurnAddress → Bool) {t : ActiveTurn} (h : s.turns i = some t) :
    (s.cancelTurns f).turns i = some { t with cancelled := t.cancelled || f i } := by
  simp [cancelTurns, h]

namespace Startup

theorem frame (p : s.Startup i)
    (ht : ∀ {t}, s.turns i = some t → ∃ t', s'.turns i = some t' ∧ t'.owners = t.owners ∧ t'.state = t.state ∧
      (t.cancelled = true → t'.cancelled = true))
    (hc : ∀ {c}, c ∈ s'.calls → c ∈ s.calls ∨ c.cancellation.turn = i) : s'.Startup i where
  turn := by
    have ⟨t, h, ho, w, hs⟩ := p.turn
    have ⟨t', h', ho', hs', hn⟩ := ht h
    exact ⟨t', h', ho' ▸ ho, hs' ▸ w, hs.imp hn (hs' ▸ ·)⟩
  calls h := (hc h).elim p.calls id

theorem ofTurn (p : s.Startup i) : ∃ t, s.ofTurn i = some t ∧ t.state.WellFormed ∧
    (t.cancelled = true ∨ t.state.state = .processing) := by
  have ⟨t, h, ho, w, hs⟩ := p.turn
  exact ⟨t, ofTurn_eq_some_iff.mpr ⟨h, ho⟩, w, hs⟩

-- An interrupt either sets the flag or finds it set.
theorem interrupt_cancelled {t : ActiveTurn} {m : MediaTimeline} (w : t.state.WellFormed)
    (h : t.cancelled = true ∨ t.state.state = .processing) :
    (ActiveTurn.interrupt.run (t, m)).state.1.cancelled = true ∧
    (ActiveTurn.interrupt.run (t, m)).state.1.owners = t.owners := by
  rw [ActiveTurn.interrupt_run w]
  cases hi : t.state.state.interruptible
  case true => exact ⟨rfl, rfl⟩
  case false =>
    obtain h | h := h
    · exact ⟨h, rfl⟩
    · simp [h, TurnState.interruptible] at hi

theorem interrupt (p : s.Startup i) (now : Option Nat) :
    ∃ s', machine.step s (.method i .interrupt now) = some (s', []) ∧ s'.Startup i ∧
      ∃ t, s'.turns i = some t ∧ t.cancelled = true := by
  have ⟨t, h, w, hs⟩ := p.ofTurn
  have ho := (ofTurn_eq_some_iff.mp h).right
  have ⟨hc, ho'⟩ := interrupt_cancelled (m := s.mediaTimeline) w hs
  have w' := (ActiveTurn.method_change (m := s.mediaTimeline) w .interrupt s now).preserves_wellFormed w
  have ht : (s.setTurn i (ActiveTurn.interrupt.run (t, s.mediaTimeline)).state.1).turns i =
      some (ActiveTurn.interrupt.run (t, s.mediaTimeline)).state.1 := by
    simp [setTurn]
  have hm : machine.step s (.method i .interrupt now) = some ({
      s.setTurn i (ActiveTurn.interrupt.run (t, s.mediaTimeline)).state.1 with
      mediaTimeline := (ActiveTurn.interrupt.run (t, s.mediaTimeline)).state.2 }, []) := by
    show (s.ofTurn i).bind _ = _
    rw [h]
    rfl
  exact ⟨_, hm, ⟨⟨_, ht, ho'.symm ▸ ho, w', .inl hc⟩, p.calls⟩, _, ht, hc⟩

-- A turn beside it may be interrupted too.
theorem interrupt_any (p : s.Startup i) {j : TurnAddress} {now : Option Nat}
    (h : machine.step s (.method j .interrupt now) = some (s', o)) : s'.Startup i := by
  by_cases hj : j = i
  case pos =>
    subst hj
    have ⟨_, h', p', _⟩ := p.interrupt now
    obtain ⟨rfl, -⟩ := Prod.mk.inj (Option.some.inj (h'.symm.trans h))
    exact p'
  case neg =>
    simp only [machine, Option.bind_eq_bind, Option.pure_def, Option.bind_eq_some_iff, Option.some.injEq,
      Prod.mk.injEq] at h
    obtain ⟨t, -, rfl, -⟩ := h
    exact p.frame (fun {t} h => ⟨t, by simpa [setTurn, Ne.symm hj] using h, rfl, rfl, id⟩) .inl

theorem issue (p : s.Startup i) {scope : AuthorityScope} {dataClass : DataClass} {now : Option Nat}
    (h : machine.step s (.issueProviderPermit i scope dataClass now) = some (s', o)) : s'.Startup i := by
  simp only [machine, Option.bind_eq_bind, Option.pure_def, Option.bind_eq_some_iff, Option.some.injEq,
    Prod.mk.injEq] at h
  obtain ⟨t, -, rfl, -⟩ := h
  obtain ⟨_, hr⟩ | ⟨-, c, hc, -, hr⟩ := issueProviderPermit_run s i t scope dataClass now <;> rw [hr]
  · exact p
  · refine p.frame (fun {t} h => ⟨t, h, rfl, rfl, id⟩) fun hm => ?_
    obtain hm | rfl := by simpa using hm
    · exact .inl hm
    · exact .inr hc

theorem beginProviderEgress (p : s.Startup i) {n : Nat} {now : Option Nat}
    (h : machine.step s (.beginProviderEgress n now) = some (s', o)) : s'.Startup i := by
  simp only [machine, Option.bind_eq_bind, Option.pure_def, Option.bind_eq_some_iff, Option.some.injEq,
    Prod.mk.injEq] at h
  obtain ⟨c, -, t, -, rfl, -⟩ := h
  obtain ⟨_, hr⟩ | ⟨-, hr⟩ := beginProviderEgress_run s n c t now <;> rw [hr]
  all_goals
    exact p.frame (fun {t} h => ⟨t, h, rfl, rfl, id⟩) fun hm => .inl (List.mem_of_mem_eraseIdx hm)

theorem dropPermit (p : s.Startup i) {n : Nat} (h : machine.step s (.dropPermit n) = some (s', o)) :
    s'.Startup i := by
  simp only [machine] at h
  split at h <;> cases h
  exact p.frame (fun {t} h => ⟨t, h, rfl, rfl, id⟩) .inl

theorem revoke (p : s.Startup i) (h : machine.step s (.write .revoke) = some (s', o)) : s'.Startup i := by
  simp only [machine, Option.some.injEq, Prod.mk.injEq] at h
  obtain ⟨rfl, -⟩ := h
  obtain ⟨_, hr⟩ | ⟨s', w, hr⟩ := writer_run (s := s) .revoke <;>
    simp only [write, EStateM.run_adaptExcept, hr]
  case inl => exact p
  case inr =>
    cases w
    case unchanged => exact p
    all_goals
      exact p.frame (fun ht => ⟨_, cancelTurns_turns _ ht, rfl, rfl, by simp +contextual⟩) .inl

end Startup

theorem method_owners {t : ActiveTurn} (x : TurnMethod) (s : ActiveSession) (now : Option Nat)
    (m : MediaTimeline) : ((x.call s now).run (t, m)).state.1.owners = t.owners := by
  have hg {g c} : ((ActiveTurn.guarded g c).run (t, m)).state.1.owners = t.owners := by
    obtain h | ⟨-, h⟩ := ActiveTurn.guarded_state (t := t) (m := m) (g := g) (c := c) <;> rw [h]
  cases x <;> simp only [TurnMethod.call, ActiveTurn.authorize, ActiveTurn.beginProcessing,
    ActiveTurn.beginOutput, ActiveTurn.complete, ActiveTurn.deny, ActiveTurn.fail,
    ActiveTurn.beginOutputSegment, ActiveTurn.deliver, hg]
  case interrupt =>
    have hg := @hg (fun _ => .ok ()) .interrupt
    cases hr : (ActiveTurn.guarded (fun _ => .ok ()) .interrupt).run (t, m) <;> rw [hr] at hg
    all_goals simpa [ActiveTurn.interrupt, hr] using hg

-- A turn that a method was called on has an owner.
theorem step_method_owned {x : TurnMethod} {now : Option Nat}
    (h : machine.step s (.method i x now) = some (s', o)) : ∃ t, s'.turns i = some t ∧ 0 < t.owners := by
  simp only [machine, Option.bind_eq_bind, Option.pure_def, Option.bind_eq_some_iff, Option.some.injEq,
    Prod.mk.injEq] at h
  obtain ⟨t, ht, rfl, -⟩ := h
  have ho := (ofTurn_eq_some_iff.mp ht).right
  refine ⟨((x.call s now).run (t, s.mediaTimeline)).state.1, by simp [setTurn], ?_⟩
  rwa [method_owners]

-- A session whose first turn is being made.
structure Preparing (s : ActiveSession) : Prop where
  unrenewed : s.Unrenewed
  turns     : ∀ {i t}, s.turns i = some t → t.state.WellFormed
  calls     : s.calls = []

theorem Move.calls_nil (m : s.Move e s' o) (he : e.issues = false) (h : s.calls = []) : s'.calls = [] := by
  cases m
  case controlled c _ =>
    cases c
    case rebased   => exact h
    case written w => cases w <;> exact h
  case newTurn j turnId correlationId persona _ =>
    obtain ⟨_, hr⟩ | ⟨_, -, -, -, hr⟩ := newTurn_run s j turnId correlationId persona <;> rw [hr] <;> exact h
  case issue => cases he
  case egress n now c t hc _ => simp [h] at hc
  all_goals exact h

theorem Preparing.step (p : s.Preparing) (h : machine.step s e = some (s', o)) (hr : e.routine = true)
    (he : e.issues = false) : s'.Preparing where
  unrenewed := (step_kept h hr).unrenewed p.unrenewed
  turns ht  := step_turns_wellFormed p.turns h ht
  calls     := (step_move h).calls_nil he p.calls

-- The events that bring a new session to its first turn.
theorem Preparing.startup {i : TurnAddress} {turnId : TurnId} {correlationId : CorrelationId}
    {persona : PersonaIdentity} {now now' : Option Nat} (p : s.Preparing)
    (h : machine.replay s [.activate, .newTurn i turnId correlationId persona, .method i .authorize now,
      .method i .beginProcessing now'] = some (s', o))
    (hs : (s'.turns i).any (·.state.state = .processing) = true) : s'.Unrenewed ∧ s'.Startup i := by
  obtain ⟨s₁, _, _, _, h₁, h, he₁⟩ := Machine.replay_cons.mp h
  obtain ⟨s₂, _, _, _, h₂, h, he₂⟩ := Machine.replay_cons.mp h
  obtain ⟨s₃, _, _, _, h₃, h, he₃⟩ := Machine.replay_cons.mp h
  obtain ⟨s₄, _, _, _, h₄, h, he₄⟩ := Machine.replay_cons.mp h
  simp only [Machine.replay, Option.some.injEq, Prod.mk.injEq] at h he₁ he₂ he₃ he₄
  obtain rfl : s' = s₄ := by simp [he₁, he₂, he₃, he₄, h]
  have p := (((p.step h₁ rfl rfl).step h₂ rfl rfl).step h₃ rfl rfl).step h₄ rfl rfl
  obtain ⟨t, ht, ho⟩ := step_method_owned h₄
  have hs : t.state.state = .processing := by simpa [ht] using hs
  exact ⟨p.unrenewed, ⟨t, ht, ho, p.turns ht, .inr hs⟩, by simp [p.calls]⟩

end ActiveSession
