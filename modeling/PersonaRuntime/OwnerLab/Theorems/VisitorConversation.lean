import PersonaRuntime.OwnerLab.VisitorConversation
import PersonaRuntime.Runtime.Theorems.Revocation

namespace StartPoint

-- The startup turn, once its callback has run.
def working : StartPoint → Option TurnAddress
  | beginAvatarPreparation i | issueProviderPermit i _ | beginProviderEgress i _ | provider i _
  | isCancelled i | dropPermit i _ _ => some i
  | _ => none

-- The flag was found unset for the last time.
def trusting : StartPoint → Bool
  | reauthorizePersona | returning | returned true => true
  | _                                              => false

end StartPoint

namespace VisitorConversation

open ActiveSession (Kept Unrenewed Startup)

variable {persona : PersonaIdentity} {sessionId : SessionId}
variable {s s' s₁ s₂ s₃ : VisitorConversation} {t o : List ConversationObservation}

def authorityRevoked (s : VisitorConversation) : Bool :=
  s.session.any (·.authorization.authorization.revoked)

-- The session starts with the turn at `i`.
def Starts (s : VisitorConversation) (i : TurnAddress) : Prop :=
  ∃ session, s.session = some session ∧ session.Startup i

-- A session that is there stays there and keeps what a routine step keeps.
structure Carries (s s' : VisitorConversation) : Prop where
  session : ∀ {session}, s.session = some session →
    ∃ session', s'.session = some session' ∧ session.Kept session'

theorem Carries.of_eq (h : s'.session = s.session) : s.Carries s' :=
  ⟨fun hs => ⟨_, h.trans hs, .refl _⟩⟩

theorem Carries.trans (k : s₁.Carries s₂) (k' : s₂.Carries s₃) : s₁.Carries s₃ where
  session h := by
    have ⟨_, h, k⟩ := k.session h
    have ⟨session, h, k'⟩ := k'.session h
    exact ⟨session, h, k.trans k'⟩

theorem turnCancelled_iff {i : TurnAddress} : s.turnCancelled i = true ↔
    ∃ session turn, s.session = some session ∧ session.turns i = some turn ∧ turn.cancelled = true := by
  cases hs : s.session
  case none => simp [turnCancelled, hs]
  case some session => cases ht : session.turns i <;> simp [turnCancelled, hs, ht]

theorem authorityRevoked_iff : s.authorityRevoked = true ↔
    ∃ session, s.session = some session ∧ session.authorization.authorization.revoked = true := by
  cases hs : s.session <;> simp [authorityRevoked, hs]

theorem Carries.turnCancelled {i : TurnAddress} (k : s.Carries s') (h : s.turnCancelled i = true) :
    s'.turnCancelled i = true := by
  have ⟨session, turn, hs, ht, hc⟩ := turnCancelled_iff.mp h
  have ⟨session', hs', k⟩ := k.session hs
  have ⟨turn', ht', k⟩ := k.turns ht
  exact turnCancelled_iff.mpr ⟨session', turn', hs', ht', k.cancelled hc⟩

theorem Carries.authorityRevoked (k : s.Carries s') (h : s.authorityRevoked = true) :
    s'.authorityRevoked = true := by
  have ⟨session, hs, hr⟩ := authorityRevoked_iff.mp h
  have ⟨session', hs', k⟩ := k.session hs
  exact authorityRevoked_iff.mpr ⟨session', hs', k.revoked hr⟩

-- The session takes the step, or nothing happens.
theorem onSession_cases (s : VisitorConversation) (e : SessionEvent) :
    ((∀ {session}, s.session = some session → ActiveSession.machine.step session e = none) ∧
      s.onSession e = (s, [])) ∨
    ∃ session session' o, s.session = some session ∧
      ActiveSession.machine.step session e = some (session', o) ∧
      s.onSession e = ({ s with session := some session' }, o.map .session) := by
  cases hs : s.session
  case none => exact .inl ⟨by simp, by simp [onSession, hs]⟩
  case some session =>
    cases hm : ActiveSession.machine.step session e
    case none => exact .inl ⟨by simp [hm], by simp [onSession, hs, hm]⟩
    case some r => exact .inr ⟨session, r.1, r.2, rfl, hm, by simp [onSession, hs, hm]⟩

-- What a step of the session does not touch.
structure Beside (s s' : VisitorConversation) : Prop where
  interrupt : s'.interrupt = s.interrupt
  start     : s'.start = s.start
  revokes   : s'.revokes = s.revokes
  calls     : s'.calls = s.calls

theorem onSession_beside (s : VisitorConversation) (e : SessionEvent) : s.Beside (s.onSession e).1 := by
  obtain ⟨-, h⟩ | ⟨_, _, _, -, -, h⟩ := s.onSession_cases e <;> rw [h] <;> exact ⟨rfl, rfl, rfl, rfl⟩

theorem onSession_carries {e : SessionEvent} (he : e.routine = true) : s.Carries (s.onSession e).1 := by
  obtain ⟨-, h⟩ | ⟨session, session', _, hs, hm, h⟩ := s.onSession_cases e <;> rw [h]
  case inl => exact .of_eq rfl
  case inr =>
    refine ⟨fun {session₁} h₁ => ?_⟩
    obtain rfl := Option.some.inj (hs.symm.trans h₁)
    exact ⟨session', rfl, ActiveSession.step_kept hm he⟩

-- What no step lets through: a permit of a revoked session, or of a turn whose flag is set.
theorem onSession_admitted {e : SessionEvent} {c : ProviderCall} {now : Option Nat}
    (u : ∀ {session}, s.session = some session → session.Unrenewed)
    (h : .session (.admitted c now) ∈ (s.onSession e).2) :
    s.authorityRevoked = false ∧ ∃ session, s.session = some session ∧ c ∈ session.calls ∧
      s.turnCancelled c.cancellation.turn = false := by
  obtain ⟨-, hr⟩ | ⟨session, session', o, hs, hm, hr⟩ := s.onSession_cases e <;> rw [hr] at h
  case inl => simp at h
  case inr =>
    have h : .admitted c now ∈ o := by simpa using h
    have ⟨ha, hc, turn, ht, hn⟩ := (u hs).admitted hm h
    exact ⟨by simp [authorityRevoked, hs, ha], session, hs, hc, by simp [turnCancelled, hs, ht, hn]⟩

-- What `start` has come to.
def Holds (s : VisitorConversation) : StartPoint → Prop
  | .authorizePersona | .startScoped => s.session = none
  | .storeTurn i => s.Starts i
  | .loadCancelled i | .interruptTurn i | .beginAvatarPreparation i | .issueProviderPermit i _
  | .beginProviderEgress i _ | .provider i _ | .isCancelled i | .dropPermit i _ _ =>
    s.Starts i ∧ s.interrupt.turn = some i
  | .clearTurn true | .storeSession => s.session.isSome = true
  | .storeBackendStop | .reloadCancelled | .reauthorizePersona | .returning | .returned true =>
    s.session.isSome = true ∧ s.interrupt.session = true
  | _ => True

structure Consistent (s : VisitorConversation) : Prop where
  unrenewed : ∀ {session}, s.session = some session → session.Unrenewed
  start     : s.Holds s.start
  calls     : s.calls ≠ [] → s.start = .returned true

-- What a call of `revoke_authority_only` has achieved when it is at `p`. Before it is done with the slot of
-- the turn, it will still interrupt the startup turn if that was there, and so on.
structure Reached (s : VisitorConversation) (p : RevokePoint) : Prop where
  cancelled : s.interrupt.cancelled = true
  turn      : ∀ {i}, s.start.working = some i →
    p = .turn ∨ p = .interruptTurn i ∨ s.turnCancelled i = true
  session   : s.start.trusting = true → p ≠ .returned ∨ s.authorityRevoked = true

variable {p : RevokePoint}

theorem Reached.keep (r : s.Reached p) (hc : s'.interrupt.cancelled = true) (k : s.Carries s')
    (hw : ∀ {i}, s'.start.working = some i → s.start.working = some i ∨ s'.turnCancelled i = true)
    (ht : s'.start.trusting = true → s.start.trusting = true) : s'.Reached p where
  cancelled := hc
  turn h := by
    obtain h | h := hw h
    · exact (r.turn h).imp_right (Or.imp_right k.turnCancelled)
    · exact .inr (.inr h)
  session h := (r.session (ht h)).imp_right k.authorityRevoked

-- Steps that leave `start` where it is.
theorem Reached.beside (r : s.Reached p) (k : s.Carries s') (hs : s'.start = s.start)
    (hi : s'.interrupt.cancelled = s.interrupt.cancelled) : s'.Reached p :=
  r.keep (hi ▸ r.cancelled) k (fun h => .inl (hs ▸ h)) (hs ▸ ·)

theorem Starts.interrupt {i : TurnAddress} (h : s.Starts i) (now : Option Nat) :
    (s.onSession (.method i .interrupt now)).1.Starts i ∧
    (s.onSession (.method i .interrupt now)).1.turnCancelled i = true := by
  have ⟨session, hs, p⟩ := h
  have ⟨session', hm, p', turn, ht, hc⟩ := p.interrupt now
  have hr : s.onSession (.method i .interrupt now) = ({ s with session := some session' }, []) := by
    simp [onSession, hs, hm]
  rw [hr]
  exact ⟨⟨session', rfl, p'⟩, turnCancelled_iff.mpr ⟨session', turn, rfl, ht, hc⟩⟩

theorem Starts.onSession {i : TurnAddress} {e : SessionEvent} (h : s.Starts i)
    (hp : ∀ {session session' o}, session.Startup i → ActiveSession.machine.step session e = some (session', o) →
      session'.Startup i) : (s.onSession e).1.Starts i := by
  have ⟨session, hs, p⟩ := h
  obtain ⟨-, hr⟩ | ⟨session₁, session', _, hs', hm, hr⟩ := s.onSession_cases e <;> rw [hr]
  · exact h
  · obtain rfl := Option.some.inj (hs.symm.trans hs')
    exact ⟨session', rfl, hp p hm⟩

theorem Carries.isSome (k : s.Carries s') (h : s.session.isSome = true) : s'.session.isSome = true := by
  have ⟨_, hs⟩ := Option.isSome_iff_exists.mp h
  have ⟨_, hs', _⟩ := k.session hs
  exact Option.isSome_iff_exists.mpr ⟨_, hs'⟩

theorem onSession_none {e : SessionEvent} (h : s.session = none) : (s.onSession e).1.session = none := by
  simp [VisitorConversation.onSession, h]

-- What a revocation does to the session leaves `start` with what it has.
theorem Holds.onSession {point : StartPoint} {e : SessionEvent} (h : s.Holds point)
    (he : e.routine = true)
    (hp : ∀ {i session session' o}, session.Startup i →
      ActiveSession.machine.step session e = some (session', o) → session'.Startup i) :
    (s.onSession e).1.Holds point := by
  have hi := (s.onSession_beside e).interrupt
  have k : s.Carries (s.onSession e).1 := onSession_carries he
  unfold Holds at h ⊢
  split at h
  case h_1 | h_2 => exact onSession_none h
  case h_3 => exact h.onSession hp
  case h_12 | h_13 => exact k.isSome h
  case h_14 | h_15 | h_16 | h_17 | h_18 => exact ⟨k.isSome h.left, hi ▸ h.right⟩
  case h_19 => trivial
  all_goals exact ⟨h.left.onSession hp, hi ▸ h.right⟩

theorem Holds.working {point : StartPoint} {i : TurnAddress} (h : s.Holds point)
    (hw : point.working = some i) : s.Starts i ∧ s.interrupt.turn = some i := by
  cases point <;> cases hw
  all_goals exact h

theorem Holds.trusting {point : StartPoint} (h : s.Holds point) (ht : point.trusting = true) :
    s.session.isSome = true ∧ s.interrupt.session = true := by
  cases point <;> try cases ht
  case reauthorizePersona | returning => exact h
  case returned ok =>
    cases ok
    case false => cases ht
    case true  => exact h

theorem onSession_revoke (hs : s.session.isSome = true)
    (u : ∀ {session}, s.session = some session → session.Unrenewed) :
    (s.onSession (.write .revoke)).1.authorityRevoked = true := by
  have ⟨session, hs⟩ := Option.isSome_iff_exists.mp hs
  refine authorityRevoked_iff.mpr ⟨((ActiveSession.write .revoke).run session).state, ?_,
    ActiveSession.write_revoke_revoked (u hs)⟩
  simp [VisitorConversation.onSession, hs, ActiveSession.machine]

-- The steps of a revocation.
inductive Revokes (s : VisitorConversation) : Step → Prop
  | look : Revokes s (s, [])
  | onSession {e} : (e.routine = true) → (∀ {c now}, .session (.admitted c now) ∉ (s.onSession e).2) →
    (∀ {i session session' o}, session.Startup i →
      ActiveSession.machine.step session e = some (session', o) → session'.Startup i) →
    Revokes s (s.onSession e)

theorem onSession_interrupt_observes {i : TurnAddress} {now : Option Nat} :
    (s.onSession (.method i .interrupt now)).2 = [] := by
  obtain ⟨-, hr⟩ | ⟨session, session', o, hs, hm, hr⟩ := s.onSession_cases (.method i .interrupt now) <;> rw [hr]
  simp only [ActiveSession.machine, Option.bind_eq_bind, Option.pure_def, Option.bind_eq_some_iff,
    Option.some.injEq, Prod.mk.injEq] at hm
  obtain ⟨_, -, -, rfl⟩ := hm
  rfl

theorem revokeAuthorityOnly_revokes : s.Revokes (s.revokeAuthorityOnly p).1 := by
  cases p <;> simp only [revokeAuthorityOnly]
  case turn => split <;> exact .look
  case interruptTurn i =>
    exact .onSession rfl (by simp [onSession_interrupt_observes]) fun p h => p.interrupt_any h
  case revokeAuthority =>
    refine .onSession rfl (fun {c now} h => ?_) Startup.revoke
    obtain ⟨-, hr⟩ | ⟨session, session', o, hs, hm, hr⟩ := s.onSession_cases (.write .revoke) <;> rw [hr] at h
    · simp at h
    · simp only [ActiveSession.machine, Option.some.injEq, Prod.mk.injEq] at hm
      simp [← hm.right] at h
  all_goals exact .look

theorem Reached.advance (r : s.Reached p) (c : s.Consistent) :
    (s.revokeAuthorityOnly p).1.1.Reached (s.revokeAuthorityOnly p).2 := by
  cases p <;> simp only [revokeAuthorityOnly]
  case turn =>
    split
    case h_1 i hi =>
      refine ⟨r.cancelled, fun hw => .inr (.inl ?_), fun _ => .inl (by simp)⟩
      have hs := (c.start.working hw).right
      obtain rfl := Option.some.inj (hi.symm.trans hs)
      rfl
    case h_2 hi =>
      refine ⟨r.cancelled, fun hw => ?_, fun _ => .inl (by simp)⟩
      have hs := (c.start.working hw).right
      simp [hi] at hs
  case interruptTurn i =>
    have b := s.onSession_beside (.method i .interrupt none)
    have k : s.Carries (s.onSession (.method i .interrupt none)).1 := onSession_carries rfl
    refine ⟨b.interrupt ▸ r.cancelled, fun {j} hw => .inr (.inr ?_), fun _ => .inl (by simp)⟩
    rw [b.start] at hw
    obtain h | h | h := r.turn hw
    · cases h
    · obtain rfl := RevokePoint.interruptTurn.inj h
      exact ((c.start.working hw).left.interrupt none).right
    · exact k.turnCancelled h
  case session =>
    have hw {i} (hw : s.start.working = some i) : s.turnCancelled i = true := by simpa using r.turn hw
    cases hs : s.interrupt.session
    case true  => exact ⟨r.cancelled, fun h => .inr (.inr (hw h)), fun _ => .inl (by simp)⟩
    case false =>
      refine ⟨r.cancelled, fun h => .inr (.inr (hw h)), fun ht => ?_⟩
      simp [(c.start.trusting ht).right] at hs
  case revokeAuthority =>
    have b := s.onSession_beside (.write .revoke)
    have k : s.Carries (s.onSession (.write .revoke)).1 := onSession_carries rfl
    refine ⟨b.interrupt ▸ r.cancelled, fun {i} hw => .inr (.inr ?_), fun ht => .inr ?_⟩
    · exact k.turnCancelled (by simpa using r.turn (b.start ▸ hw))
    · exact onSession_revoke (c.start.trusting (b.start ▸ ht)).left c.unrenewed
  case returned => exact r

theorem startScoped_startup {env : ConversationEnvironment} {session : ActiveSession}
    (h : startScoped persona sessionId env = some session) :
    session.Unrenewed ∧ session.Startup env.turn := by
  simp only [startScoped, Option.bind_eq_some_iff] at h
  obtain ⟨⟨session', o⟩, hr, h⟩ := h
  split at h
  case isFalse => cases h
  case isTrue hs =>
    obtain rfl := Option.some.inj h
    have p : (ActiveSession.new sessionId persona.id startSecurity).Preparing :=
      ⟨ActiveSession.new_unrenewed _ _ _, by simp [ActiveSession.new], rfl⟩
    exact p.startup hr hs

-- A step of which the revocations and the calls take no notice.
structure Aside (s s' : VisitorConversation) : Prop where
  carries   : s.Carries s'
  unrenewed : (∀ {session}, s.session = some session → session.Unrenewed) →
    ∀ {session}, s'.session = some session → session.Unrenewed
  revokes   : s'.revokes = s.revokes
  calls     : s'.calls = s.calls
  cancelled : s.interrupt.cancelled = true → s'.interrupt.cancelled = true

namespace Aside

theorem refl (s : VisitorConversation) : s.Aside s :=
  ⟨.of_eq rfl, id, rfl, rfl, id⟩

theorem trans (k : s₁.Aside s₂) (k' : s₂.Aside s₃) : s₁.Aside s₃ where
  carries     := k.carries.trans k'.carries
  unrenewed u := k'.unrenewed (k.unrenewed u)
  revokes     := k'.revokes.trans k.revokes
  calls       := k'.calls.trans k.calls
  cancelled h := k'.cancelled (k.cancelled h)

theorem onSession {e : SessionEvent} (he : e.routine = true) : s.Aside (s.onSession e).1 where
  carries := onSession_carries he
  unrenewed u session h := by
    obtain ⟨-, hr⟩ | ⟨_, _, _, hs, hm, hr⟩ := s.onSession_cases e <;> rw [hr] at h
    · exact u h
    · obtain rfl := Option.some.inj h
      exact (ActiveSession.step_kept hm he).unrenewed (u hs)
  revokes := (s.onSession_beside e).revokes
  calls   := (s.onSession_beside e).calls
  cancelled h := (s.onSession_beside e).interrupt ▸ h

theorem goto (k : s.Aside s') (point : StartPoint) : s.Aside { s' with start := point } :=
  ⟨⟨k.carries.session⟩, k.unrenewed, k.revokes, k.calls, k.cancelled⟩

-- The slots may change, and nothing but the flag of the owner counts.
theorem fill (k : s.Aside s') {interrupt : LiveVisitorInterrupt}
    (h : s'.interrupt.cancelled = true → interrupt.cancelled = true) : s.Aside { s' with interrupt } :=
  ⟨⟨k.carries.session⟩, k.unrenewed, k.revokes, k.calls, fun hc => h (k.cancelled hc)⟩

end Aside

-- What a step that is not one of a revocation does.
structure Moved (s s' : VisitorConversation) (o : List ConversationObservation) : Prop where
  consistent : s'.Consistent
  revokes    : s'.revokes = s.revokes
  reached    : ∀ {p}, s.Reached p → s'.Reached p
  silent     : ∀ {c now}, .session (.admitted c now) ∈ o → ¬s.Reached .returned
  unreturned : .revoked ∉ o
  started    : s.start = .returned true ∨ .started true ∈ o → s'.start = .returned true
  untrusted  : s.interrupt.cancelled = true → s.start.trusting = false →
    s'.interrupt.cancelled = true ∧ s'.start.trusting = false

-- A step of `start` leaves what `start` has come to.
structure Comes (s s' : VisitorConversation) : Prop where
  aside    : s.Aside s'
  holds    : s'.Holds s'.start
  working  : s.interrupt.cancelled = true → ∀ {i}, s'.start.working = some i →
    s.start.working = some i ∨ s'.turnCancelled i = true
  trusting : s.interrupt.cancelled = true → s'.start.trusting = true → s.start.trusting = true

theorem Comes.of_goto {point : StartPoint} (k : s.Aside s₁) (hh : s₁.Holds point)
    (hw : point.working = none ∨ point.working = s.start.working) (ht : point.trusting = false) :
    s.Comes { s₁ with start := point } where
  aside         := k.goto point
  holds         := hh
  working _ i h := .inl <| by
    have h : point.working = some i := h
    obtain hw | hw := hw
    · simp [h] at hw
    · exact hw ▸ h
  trusting _ h  := by
    have h : point.trusting = true := h
    simp [h] at ht

-- The same with a change of the slots.
theorem Comes.of_fill {point : StartPoint} {interrupt : LiveVisitorInterrupt} (k : s.Aside s')
    (hi : s'.interrupt.cancelled = true → interrupt.cancelled = true)
    (hh : Holds { s' with interrupt } point) (hw : point.working = none) (ht : point.trusting = false) :
    s.Comes { s' with interrupt, start := point } :=
  .of_goto (k.fill hi) hh (.inl hw) ht

theorem Consistent.moved (c : s.Consistent) (hs : ∀ {ok}, s.start ≠ .returned ok) (k : s.Comes s')
    (ho : ∀ {c now}, .session (.admitted c now) ∈ o → ¬s.Reached .returned)
    (hr : .revoked ∉ o) (hst : .started true ∈ o → s'.start = .returned true) : s.Moved s' o where
  consistent := ⟨k.aside.unrenewed c.unrenewed, k.holds, fun hn => absurd (c.calls (k.aside.calls ▸ hn)) hs⟩
  revokes    := k.aside.revokes
  reached r  := r.keep (k.aside.cancelled r.cancelled) k.aside.carries (k.working r.cancelled)
    (k.trusting r.cancelled)
  silent     := ho
  unreturned := hr
  started    := fun h => h.elim (absurd · hs) hst
  untrusted hc ht := by
    refine ⟨k.aside.cancelled hc, ?_⟩
    cases hn : s'.start.trusting
    case true  => simp [k.trusting hc hn] at ht
    case false => rfl

theorem Consistent.quiet (c : s.Consistent) (hs : ∀ {ok}, s.start ≠ .returned ok) (k : s.Comes s') :
    s.Moved s' [] :=
  c.moved hs k (by simp) (by simp) (by simp)

theorem onSession_observes {e : SessionEvent} {x : ConversationObservation} (h : x ∈ (s.onSession e).2) :
    ∃ y, x = .session y := by
  obtain ⟨-, hr⟩ | ⟨_, _, _, -, -, hr⟩ := s.onSession_cases e <;> rw [hr] at h
  · simp at h
  · have ⟨y, _, h⟩ := List.mem_map.mp h
    exact ⟨y, h.symm⟩

-- Once a revocation is through, neither the startup turn nor a later one gets a permit.
theorem Reached.silent {e : SessionEvent} {call : ProviderCall} {now : Option Nat} (r : s.Reached .returned)
    (c : s.Consistent) (h : (∃ i, s.start.working = some i) ∨ s.start.trusting = true) :
    .session (.admitted call now) ∉ (s.onSession e).2 := by
  intro ha
  have ⟨hr, session, hs, hc, ht⟩ := onSession_admitted c.unrenewed ha
  obtain ⟨i, hw⟩ | h := h
  case inl =>
    have hi : s.turnCancelled i = true := by simpa using r.turn hw
    have ⟨session', hs', p⟩ := (c.start.working hw).left
    obtain rfl := Option.some.inj (hs.symm.trans hs')
    rw [p.calls hc, hi] at ht
    cases ht
  case inr =>
    have hi : s.authorityRevoked = true := by simpa using r.session h
    rw [hi] at hr
    cases hr

-- A step that goes on with the turn of the session.
theorem Consistent.worked {e : SessionEvent} (c : s.Consistent) (hs : ∀ {ok}, s.start ≠ .returned ok)
    (k : s.Comes s') (ho : ∀ {c now}, .session (.admitted c now) ∈ (s.onSession e).2 → ¬s.Reached .returned) :
    s.Moved s' (s.onSession e).2 := by
  refine c.moved hs k ho (fun h => ?_) (fun h => ?_)
  all_goals
    obtain ⟨_, h⟩ := onSession_observes h
    cases h

section StartStep

variable {env : ConversationEnvironment} {i : TurnAddress} {operation : AvatarOperation}

theorem Consistent.holds {point : StartPoint} (c : s.Consistent) (hs : s.start = point) : s.Holds point :=
  hs ▸ c.start

theorem Consistent.authorizePersona (c : s.Consistent) (hs : s.start = .authorizePersona)
    (h : s.startStep persona sessionId env = some (s', o)) : s.Moved s' o := by
  have hn {ok} : s.start ≠ .returned ok := by simp [hs]
  have hh := c.holds hs
  have k := Aside.refl s
  simp only [startStep, hs, Option.some.injEq, Prod.mk.injEq] at h
  obtain ⟨rfl, rfl⟩ := h
  cases env.accepts
  case true  => exact c.quiet hn (.of_goto k hh (.inl rfl) rfl)
  case false => exact c.moved hn (.of_goto k trivial (.inl rfl) rfl) (by simp) (by simp) (by simp)

theorem Consistent.startScoped (c : s.Consistent) (hs : s.start = .startScoped)
    (h : s.startStep persona sessionId env = some (s', o)) : s.Moved s' o := by
  have hn {ok} : s.start ≠ .returned ok := by simp [hs]
  have hh : s.session = none := c.holds hs
  simp only [startStep, hs] at h
  split at h <;> obtain ⟨rfl, rfl⟩ := Prod.mk.inj (Option.some.inj h)
  case h_1 session hc =>
    have ⟨u, p⟩ := startScoped_startup hc
    have k : s.Aside { s with session := some session } :=
      ⟨⟨by simp [hh]⟩, fun _ _ h => Option.some.inj h ▸ u, rfl, rfl, id⟩
    exact c.quiet hn (.of_goto k ⟨session, rfl, p⟩ (.inl rfl) rfl)
  case h_2 => exact c.quiet hn (.of_goto (.refl s) trivial (.inl rfl) rfl)

theorem Consistent.storeTurn (c : s.Consistent) (hs : s.start = .storeTurn i)
    (h : s.startStep persona sessionId env = some (s', o)) : s.Moved s' o := by
  have hn {ok} : s.start ≠ .returned ok := by simp [hs]
  have hh := c.holds hs
  have k := Aside.refl s
  simp only [startStep, hs, Option.some.injEq, Prod.mk.injEq] at h
  obtain ⟨rfl, rfl⟩ := h
  exact c.quiet hn (.of_fill k id ⟨hh, rfl⟩ rfl rfl)

theorem Consistent.loadCancelled (c : s.Consistent) (hs : s.start = .loadCancelled i)
    (h : s.startStep persona sessionId env = some (s', o)) : s.Moved s' o := by
  have hn {ok} : s.start ≠ .returned ok := by simp [hs]
  have hh := c.holds hs
  have k := Aside.refl s
  simp only [startStep, hs, Option.some.injEq, Prod.mk.injEq] at h
  obtain ⟨rfl, rfl⟩ := h
  cases hc : s.interrupt.cancelled
  case true  => exact c.quiet hn (.of_goto k hh (.inl rfl) rfl)
  case false => exact c.quiet hn ⟨k.goto _, hh, by simp [hc], by simp [hc]⟩

theorem Consistent.interruptTurn (c : s.Consistent) (hs : s.start = .interruptTurn i)
    (h : s.startStep persona sessionId env = some (s', o)) : s.Moved s' o := by
  have hn {ok} : s.start ≠ .returned ok := by simp [hs]
  simp only [startStep, hs, Option.some.injEq, Prod.mk.injEq] at h
  obtain ⟨rfl, rfl⟩ := h
  have ⟨hh, ht⟩ := c.holds hs
  have ⟨p, hc⟩ := hh.interrupt none
  refine c.worked hn ⟨(Aside.onSession rfl).goto _, ⟨p, ?_⟩, fun _ j hj => ?_, ?_⟩ ?_
  · exact (s.onSession_beside _).interrupt ▸ ht
  · obtain rfl := Option.some.inj hj
    exact .inr hc
  · exact fun _ h => by cases h
  · simp [onSession_interrupt_observes]

theorem Consistent.beginAvatarPreparation (c : s.Consistent) (hs : s.start = .beginAvatarPreparation i)
    (h : s.startStep persona sessionId env = some (s', o)) : s.Moved s' o := by
  have hn {ok} : s.start ≠ .returned ok := by simp [hs]
  have hh := c.holds hs
  have k := Aside.refl s
  simp only [startStep, hs, Option.some.injEq, Prod.mk.injEq] at h
  obtain ⟨rfl, rfl⟩ := h
  cases env.accepts
  case true  => exact c.quiet hn (.of_goto k hh (.inr (hs ▸ rfl)) rfl)
  case false => exact c.quiet hn (.of_goto k trivial (.inl rfl) rfl)

theorem Consistent.issueProviderPermit (c : s.Consistent) (hs : s.start = .issueProviderPermit i operation)
    (h : s.startStep persona sessionId env = some (s', o)) : s.Moved s' o := by
  have hn {ok} : s.start ≠ .returned ok := by simp [hs]
  simp only [startStep, hs, Option.some.injEq, Prod.mk.injEq] at h
  obtain ⟨rfl, rfl⟩ := h
  have ⟨hh, ht⟩ := c.holds hs
  have p := hh.onSession (e := .issueProviderPermit i providerScope .biometric env.now) fun p h => p.issue h
  have k : s.Aside (s.onSession (.issueProviderPermit i providerScope .biometric env.now)).1 := .onSession rfl
  refine c.worked hn ?_ fun ha r => r.silent c (.inl ⟨i, hs ▸ rfl⟩) ha
  split
  case isTrue  => exact .of_goto k ⟨p, (s.onSession_beside _).interrupt ▸ ht⟩ (.inr (hs ▸ rfl)) rfl
  case isFalse => exact .of_goto k trivial (.inl rfl) rfl

theorem Consistent.beginProviderEgress (c : s.Consistent) (hs : s.start = .beginProviderEgress i operation)
    (h : s.startStep persona sessionId env = some (s', o)) : s.Moved s' o := by
  have hn {ok} : s.start ≠ .returned ok := by simp [hs]
  simp only [startStep, hs, Option.some.injEq, Prod.mk.injEq] at h
  obtain ⟨rfl, rfl⟩ := h
  have ⟨hh, ht⟩ := c.holds hs
  have p := hh.onSession (e := .beginProviderEgress 0 env.now) fun p h => p.beginProviderEgress h
  have k : s.Aside (s.onSession (.beginProviderEgress 0 env.now)).1 := .onSession rfl
  refine c.worked hn ?_ fun ha r => r.silent c (.inl ⟨i, hs ▸ rfl⟩) ha
  split
  case isTrue  => exact .of_goto k trivial (.inl rfl) rfl
  case isFalse => exact .of_goto k ⟨p, (s.onSession_beside _).interrupt ▸ ht⟩ (.inr (hs ▸ rfl)) rfl

theorem Consistent.provider (c : s.Consistent) (hs : s.start = .provider i operation)
    (h : s.startStep persona sessionId env = some (s', o)) : s.Moved s' o := by
  have hn {ok} : s.start ≠ .returned ok := by simp [hs]
  have hh := c.holds hs
  have k := Aside.refl s
  simp only [startStep, hs, Option.some.injEq, Prod.mk.injEq] at h
  obtain ⟨rfl, rfl⟩ := h
  refine c.quiet hn ?_
  split
  case isTrue => exact .of_goto k hh (.inr (hs ▸ rfl)) rfl
  case isFalse =>
    split
    all_goals exact .of_goto k hh (.inr (hs ▸ rfl)) rfl

theorem Consistent.isCancelled (c : s.Consistent) (hs : s.start = .isCancelled i)
    (h : s.startStep persona sessionId env = some (s', o)) : s.Moved s' o := by
  have hn {ok} : s.start ≠ .returned ok := by simp [hs]
  have hh := c.holds hs
  have k := Aside.refl s
  simp only [startStep, hs, Option.some.injEq, Prod.mk.injEq] at h
  obtain ⟨rfl, rfl⟩ := h
  exact c.quiet hn (.of_goto k hh (.inr (hs ▸ rfl)) rfl)

theorem Consistent.dropPermit {done : Bool} (c : s.Consistent) (hs : s.start = .dropPermit i operation done)
    (h : s.startStep persona sessionId env = some (s', o)) : s.Moved s' o := by
  have hn {ok} : s.start ≠ .returned ok := by simp [hs]
  simp only [startStep, hs, Option.some.injEq, Prod.mk.injEq] at h
  obtain ⟨rfl, rfl⟩ := h
  have ⟨hh, ht⟩ := c.holds hs
  have p := hh.onSession fun p h => p.dropPermit (n := 0) h
  have k : s.Aside (s.onSession (.dropPermit 0)).1 := .onSession rfl
  refine c.worked hn ?_ fun ha r => r.silent c (.inl ⟨i, hs ▸ rfl⟩) ha
  split
  case isTrue => exact .of_goto k ⟨p, (s.onSession_beside _).interrupt ▸ ht⟩ (.inr (hs ▸ rfl)) rfl
  case isFalse =>
    have ⟨_, hp, _⟩ := p
    cases done
    case true  => exact .of_goto k (Option.isSome_iff_exists.mpr ⟨_, hp⟩) (.inl rfl) rfl
    case false => exact .of_goto k trivial (.inl rfl) rfl

theorem Consistent.clearTurn {started : Bool} (c : s.Consistent) (hs : s.start = .clearTurn started)
    (h : s.startStep persona sessionId env = some (s', o)) : s.Moved s' o := by
  have hn {ok} : s.start ≠ .returned ok := by simp [hs]
  have hh := c.holds hs
  have k := Aside.refl s
  simp only [startStep, hs, Option.some.injEq, Prod.mk.injEq] at h
  obtain ⟨rfl, rfl⟩ := h
  cases started
  case true  => exact c.quiet hn (.of_fill k id hh rfl rfl)
  case false => exact c.moved hn (.of_fill k id trivial rfl rfl) (by simp) (by simp) (by simp)

theorem Consistent.storeSession (c : s.Consistent) (hs : s.start = .storeSession)
    (h : s.startStep persona sessionId env = some (s', o)) : s.Moved s' o := by
  have hn {ok} : s.start ≠ .returned ok := by simp [hs]
  have hh := c.holds hs
  have k := Aside.refl s
  simp only [startStep, hs, Option.some.injEq, Prod.mk.injEq] at h
  obtain ⟨rfl, rfl⟩ := h
  exact c.quiet hn (.of_fill k id ⟨hh, rfl⟩ rfl rfl)

theorem Consistent.storeBackendStop (c : s.Consistent) (hs : s.start = .storeBackendStop)
    (h : s.startStep persona sessionId env = some (s', o)) : s.Moved s' o := by
  have hn {ok} : s.start ≠ .returned ok := by simp [hs]
  have hh := c.holds hs
  have k := Aside.refl s
  simp only [startStep, hs, Option.some.injEq, Prod.mk.injEq] at h
  obtain ⟨rfl, rfl⟩ := h
  exact c.quiet hn (.of_fill k id hh rfl rfl)

theorem Consistent.reloadCancelled (c : s.Consistent) (hs : s.start = .reloadCancelled)
    (h : s.startStep persona sessionId env = some (s', o)) : s.Moved s' o := by
  have hn {ok} : s.start ≠ .returned ok := by simp [hs]
  have hh := c.holds hs
  have k := Aside.refl s
  simp only [startStep, hs, Option.some.injEq, Prod.mk.injEq] at h
  obtain ⟨rfl, rfl⟩ := h
  cases hc : s.interrupt.cancelled
  case true  => exact c.quiet hn (.of_goto k trivial (.inl rfl) rfl)
  case false => exact c.quiet hn ⟨k.goto _, hh, by simp [hc], by simp [hc]⟩

theorem Consistent.reauthorizePersona (c : s.Consistent) (hs : s.start = .reauthorizePersona)
    (h : s.startStep persona sessionId env = some (s', o)) : s.Moved s' o := by
  have hn {ok} : s.start ≠ .returned ok := by simp [hs]
  have hh := c.holds hs
  have k := Aside.refl s
  simp only [startStep, hs] at h
  split at h <;> obtain ⟨rfl, rfl⟩ := Prod.mk.inj (Option.some.inj h)
  case isTrue =>
    refine c.quiet hn ⟨k.goto _, hh, fun _ _ hw => ?_, fun _ _ => hs ▸ rfl⟩
    cases hw
  case isFalse => exact c.quiet hn (.of_fill k (fun _ => rfl) trivial rfl rfl)

theorem Consistent.returning (c : s.Consistent) (hs : s.start = .returning)
    (h : s.startStep persona sessionId env = some (s', o)) : s.Moved s' o := by
  have hn {ok} : s.start ≠ .returned ok := by simp [hs]
  have hh := c.holds hs
  have k := Aside.refl s
  simp only [startStep, hs, Option.some.injEq, Prod.mk.injEq] at h
  obtain ⟨rfl, rfl⟩ := h
  refine c.moved hn ⟨k.goto _, hh, fun _ _ hw => ?_, fun _ _ => hs ▸ rfl⟩ (by simp) (by simp) (fun _ => rfl)
  cases hw

theorem Consistent.stop {point : RevokePoint} (c : s.Consistent) (hs : s.start = .stop point)
    (h : s.startStep persona sessionId env = some (s', o)) : s.Moved s' o := by
  have hn {ok} : s.start ≠ .returned ok := by simp [hs]
  have k := Aside.refl s
  by_cases hp : point = .returned
  case pos =>
    simp only [startStep, hs, hp, Option.some.injEq, Prod.mk.injEq] at h
    obtain ⟨rfl, rfl⟩ := h
    exact c.quiet hn (.of_fill k id trivial rfl rfl)
  case neg =>
    have hr := s.revokeAuthorityOnly_revokes (p := point)
    simp only [startStep, hs, Option.some.injEq, Prod.mk.injEq] at h
    obtain ⟨rfl, rfl⟩ := h
    generalize s.revokeAuthorityOnly point = r at hr
    obtain ⟨x, next⟩ := r
    cases hr
    case look => exact c.quiet hn (.of_goto k trivial (.inl rfl) rfl)
    case onSession he hp hq =>
      exact c.worked hn (.of_goto (.onSession he) trivial (.inl rfl) rfl) fun ha => absurd ha hp

theorem Consistent.stopProvider (c : s.Consistent) (hs : s.start = .stopProvider)
    (h : s.startStep persona sessionId env = some (s', o)) : s.Moved s' o := by
  have hn {ok} : s.start ≠ .returned ok := by simp [hs]
  have k := Aside.refl s
  simp only [startStep, hs, Option.some.injEq, Prod.mk.injEq] at h
  obtain ⟨rfl, rfl⟩ := h
  refine c.moved hn (.of_goto ?_ trivial (.inl rfl) rfl) (by simp) (by simp) (by simp)
  split
  case isTrue  => exact (Aside.onSession rfl).trans (.onSession rfl)
  case isFalse => exact k

theorem startStep_moved (c : s.Consistent) (h : s.startStep persona sessionId env = some (s', o)) : s.Moved s' o := by
  have hn {ok} : s.start ≠ .returned ok := fun hs => by simp [startStep, hs] at h
  cases hs : s.start
  case authorizePersona       => exact c.authorizePersona hs h
  case startScoped            => exact c.startScoped hs h
  case storeTurn              => exact c.storeTurn hs h
  case loadCancelled          => exact c.loadCancelled hs h
  case interruptTurn          => exact c.interruptTurn hs h
  case beginAvatarPreparation => exact c.beginAvatarPreparation hs h
  case issueProviderPermit    => exact c.issueProviderPermit hs h
  case beginProviderEgress    => exact c.beginProviderEgress hs h
  case provider               => exact c.provider hs h
  case isCancelled            => exact c.isCancelled hs h
  case dropPermit             => exact c.dropPermit hs h
  case clearTurn              => exact c.clearTurn hs h
  case storeSession           => exact c.storeSession hs h
  case storeBackendStop       => exact c.storeBackendStop hs h
  case reloadCancelled        => exact c.reloadCancelled hs h
  case reauthorizePersona     => exact c.reauthorizePersona hs h
  case returning              => exact c.returning hs h
  case stop                   => exact c.stop hs h
  case stopProvider           => exact c.stopProvider hs h
  case returned               => exact absurd hs hn

end StartStep

theorem concerns_routine {i : TurnAddress} {e : SessionEvent} (h : e.concerns i = true) : e.routine = true := by
  cases e <;> simp only [SessionEvent.concerns] at h <;> first | rfl | cases h

-- A step of a call of the visitor, seen by `start`.
structure Calls (s s' : VisitorConversation) (o : List ConversationObservation) : Prop where
  aside   : s.Aside s'
  start   : s'.start = s.start
  session : s'.interrupt.session = s.interrupt.session
  cancelled : s'.interrupt.cancelled = s.interrupt.cancelled
  observes  : o = [] ∨ ∃ e, o = (s.onSession e).2

theorem Calls.onSession {e : SessionEvent} (he : e.routine = true) (h : s.onSession e = (s', o)) :
    s.Calls s' o := by
  obtain ⟨rfl, rfl⟩ := Prod.mk.inj h.symm
  have b := s.onSession_beside e
  exact ⟨.onSession he, b.start, congrArg (·.session) b.interrupt, congrArg (·.cancelled) b.interrupt,
    .inr ⟨e, rfl⟩⟩

theorem callStep_calls {env : ConversationEnvironment} {point next : CallPoint}
    (h : s.callStep persona env point = some ((s', o), next)) : s.Calls s' o := by
  have look : s.Calls s [] := ⟨.refl s, rfl, rfl, rfl, .inl rfl⟩
  cases point <;> simp only [callStep, Option.some.injEq, Prod.mk.injEq, reduceCtorEq] at h
  case beginProviderEgress =>
    split at h <;> simp only [Option.some.injEq, Prod.mk.injEq] at h <;> obtain ⟨⟨rfl, rfl⟩, -⟩ := h
    · exact ⟨⟨.of_eq rfl, id, rfl, rfl, id⟩, rfl, rfl, rfl, .inl rfl⟩
    · exact look
  case lockEngine =>
    split at h <;> simp only [Option.some.injEq, Prod.mk.injEq, reduceCtorEq] at h
    obtain ⟨⟨rfl, rfl⟩, -⟩ := h
    exact ⟨⟨.of_eq rfl, id, rfl, rfl, id⟩, rfl, rfl, rfl, .inl rfl⟩
  case newTurn =>
    split at h <;> simp only [Option.some.injEq, Prod.mk.injEq] at h <;> obtain ⟨⟨rfl, rfl⟩, -⟩ := h
    · exact .onSession rfl rfl
    · exact look
  case authorize | beginProcessing =>
    obtain ⟨⟨rfl, rfl⟩, -⟩ := h
    exact .onSession rfl rfl
  case interruptTurn => exact .onSession rfl h.left
  case storeTurn | unlockEngine | clearTurn | dropPermit =>
    obtain ⟨⟨rfl, rfl⟩, -⟩ := h
    exact ⟨⟨.of_eq rfl, id, rfl, rfl, id⟩, rfl, rfl, rfl, .inl rfl⟩
  case work i =>
    cases hw : env.work <;> simp only [hw, Option.some.injEq, Prod.mk.injEq] at h
    case none =>
      obtain ⟨⟨rfl, rfl⟩, -⟩ := h
      exact look
    case some e =>
      split at h <;> simp only [Option.some.injEq, Prod.mk.injEq, reduceCtorEq] at h
      case isTrue he => exact .onSession (concerns_routine he) h.left
  all_goals
    obtain ⟨⟨rfl, rfl⟩, -⟩ := h
    exact look

theorem Calls.moved (k : s.Calls s' o) (c : s.Consistent) (hs : s.start = .returned true) : s.Moved s' o where
  consistent := by
    have ⟨hi, ht⟩ := c.start.trusting (hs ▸ rfl)
    refine ⟨k.aside.unrenewed c.unrenewed, ?_, fun _ => k.start.trans hs⟩
    rw [k.start, hs]
    exact ⟨k.aside.carries.isSome hi, k.session.trans ht⟩
  revokes    := k.aside.revokes
  reached r  := r.beside k.aside.carries k.start k.cancelled
  silent ha r := by
    obtain rfl | ⟨e, rfl⟩ := k.observes
    · simp at ha
    · exact r.silent c (.inr (hs ▸ rfl)) ha
  unreturned h := by
    obtain rfl | ⟨e, rfl⟩ := k.observes
    · simp at h
    · obtain ⟨_, h⟩ := onSession_observes h
      cases h
  started _  := k.start.trans hs
  untrusted hc ht := ⟨k.cancelled.trans hc, k.start ▸ ht⟩

theorem Revokes.calls {x : Step} (v : s.Revokes x) : s.Calls x.1 x.2 := by
  cases v
  case look            => exact ⟨.refl s, rfl, rfl, rfl, .inl rfl⟩
  case onSession he _ _ => exact .onSession he rfl

theorem Revokes.consistent {x : Step} (v : s.Revokes x) (c : s.Consistent) : x.1.Consistent := by
  obtain ⟨a, hs, -, -, -⟩ := v.calls
  refine ⟨a.unrenewed c.unrenewed, ?_, fun h => hs.trans (c.calls (a.calls ▸ h))⟩
  rw [hs]
  cases v
  case look              => exact c.start
  case onSession he _ hp => exact c.start.onSession he hp

theorem Revokes.silent {x : Step} {call : ProviderCall} {now : Option Nat} (v : s.Revokes x) :
    .session (.admitted call now) ∉ x.2 := by
  cases v
  case look             => simp
  case onSession _ hn _ => exact hn

-- What has come of the revocations and of `start`.
structure Covered (t : List ConversationObservation) (s : VisitorConversation) : Prop where
  consistent : s.Consistent
  reached    : ∀ {p}, p ∈ s.revokes → s.Reached p
  returned   : .revoked ∈ t → s.Reached .returned
  started    : .started true ∈ t → s.start = .returned true
  silent     : ∀ {c now}, ¬[.revoked, .session (.admitted c now)].Sublist t

theorem silent_append {c : ProviderCall} {now : Option Nat} (h : .session (.admitted c now) ∉ o)
    (hs : [.revoked, .session (.admitted c now)].Sublist (t ++ o)) :
    [.revoked, .session (.admitted c now)].Sublist t :=
  Machine.sublist_of_notMem (l := [ConversationObservation.revoked]) hs h

namespace Covered

theorem new : Covered [] new where
  consistent := ⟨by simp [VisitorConversation.new], rfl, by simp [VisitorConversation.new]⟩
  reached    := by simp [VisitorConversation.new]
  returned   := by simp
  started    := by simp
  silent     := by simp

theorem moved (h : Covered t s) (m : s.Moved s' o) : Covered (t ++ o) s' where
  consistent := m.consistent
  reached hp := m.reached (h.reached (m.revokes ▸ hp))
  returned hr := by
    obtain hr | hr := List.mem_append.mp hr
    · exact m.reached (h.returned hr)
    · exact absurd hr m.unreturned
  started hs := m.started ((List.mem_append.mp hs).imp_left h.started)
  silent {c now} hs := by
    by_cases ha : .session (.admitted c now) ∈ o
    case neg => exact h.silent (silent_append ha hs)
    case pos =>
      have hr : .revoked ∈ t ++ o := hs.subset (by simp)
      obtain hr | hr := List.mem_append.mp hr
      · exact m.silent ha (h.returned hr)
      · exact m.unreturned hr

theorem revoke (h : Covered t s) :
    Covered t { s with interrupt.cancelled := true, revokes := s.revokes ++ [.turn] } := by
  have keep {p} (r : s.Reached p) :
      Reached { s with interrupt.cancelled := true, revokes := s.revokes ++ [.turn] } p :=
    r.keep rfl (.of_eq rfl) .inl id
  refine ⟨⟨h.consistent.unrenewed, h.consistent.start, h.consistent.calls⟩, fun {p} hp => ?_,
    fun hr => keep (h.returned hr), h.started, h.silent⟩
  obtain hp | rfl := by simpa using hp
  · exact keep (h.reached hp)
  · exact ⟨rfl, fun _ => .inl rfl, fun _ => .inl (by simp)⟩

theorem resumeRevoke {k : Nat} {x : Step} {next : RevokePoint} (h : Covered t s)
    (hk : s.revokes[k]? = some p) (hx : s.revokeAuthorityOnly p = (x, next)) :
    Covered (t ++ (x.2 ++ if next = .returned then [.revoked] else []))
      { x.1 with revokes := x.1.revokes.set k next } := by
  have v := s.revokeAuthorityOnly_revokes (p := p)
  have r := (h.reached (List.mem_of_getElem? hk)).advance h.consistent
  simp only [hx] at v r
  have c := v.consistent h.consistent
  have ⟨a, hs, _, hc, _⟩ := v.calls
  have keep {q} (r : x.1.Reached q) : Reached { x.1 with revokes := x.1.revokes.set k next } q :=
    r.beside (.of_eq rfl) rfl rfl
  have kept {q} (r : s.Reached q) := keep (r.beside a.carries hs hc)
  have ho {y} (hy : y ∈ x.2) : ∃ z, y = .session z := by
    obtain hn | ⟨e, hn⟩ := v.calls.observes <;> rw [hn] at hy
    · simp at hy
    · exact onSession_observes hy
  constructor
  case consistent => exact ⟨c.unrenewed, c.start, c.calls⟩
  case reached =>
    intro q hq
    obtain hq | rfl := List.mem_or_eq_of_mem_set hq
    · exact kept (h.reached (a.revokes ▸ hq))
    · exact keep r
  case returned =>
    intro hr
    obtain hr | hr | hr := by simpa using hr
    · exact kept (h.returned hr)
    · obtain ⟨_, hr⟩ := ho hr
      cases hr
    · exact hr ▸ keep r
  case started =>
    intro hr
    obtain hr | hr := by simpa using hr
    · exact hs.trans (h.started hr)
    · obtain ⟨_, hr⟩ := ho hr
      cases hr
  case silent =>
    intro c now ha
    exact h.silent (silent_append (by simp [v.silent]) ha)

theorem step {e : ConversationEvent} (h : Covered t s)
    (hm : (machine persona sessionId).step s e = some (s', o)) : Covered (t ++ o) s' := by
  cases e <;> simp only [machine] at hm
  case revoke =>
    simp only [Option.some.injEq, Prod.mk.injEq] at hm
    obtain ⟨rfl, rfl⟩ := hm
    simpa using h.revoke
  case resumeRevoke k =>
    split at hm
    case h_1 => cases hm
    case h_2 => cases hm
    case h_3 point _ hk =>
      obtain ⟨rfl, rfl⟩ := Prod.mk.inj (Option.some.inj hm)
      exact h.resumeRevoke hk rfl
  case start env => exact h.moved (startStep_moved h.consistent hm)
  case call operation =>
    split at hm <;> simp only [Option.some.injEq, Prod.mk.injEq, reduceCtorEq] at hm
    case isTrue hs =>
      obtain ⟨rfl, rfl⟩ := hm
      have k {p} (r : s.Reached p) : Reached { s with calls := s.calls ++ [operation.first] } p :=
        r.beside (.of_eq rfl) rfl rfl
      simpa using ⟨⟨h.consistent.unrenewed, h.consistent.start, fun _ => hs⟩, fun hp => k (h.reached hp),
        fun hr => k (h.returned hr), h.started, h.silent⟩
  case resumeCall k env =>
    simp only [Option.map_eq_some_iff, Option.bind_eq_some_iff, Prod.mk.injEq] at hm
    obtain ⟨⟨⟨s₁, o⟩, point⟩, ⟨p, hk, hc⟩, rfl, rfl⟩ := hm
    have hs : s.start = .returned true := h.consistent.calls (List.ne_nil_of_mem (List.mem_of_getElem? hk))
    have m' := (callStep_calls hc).moved h.consistent hs
    have m := h.moved m'
    have k {p} (r : s₁.Reached p) : Reached { s₁ with calls := s₁.calls.set k point } p :=
      r.beside (.of_eq rfl) rfl rfl
    exact ⟨⟨m.consistent.unrenewed, m.consistent.start, fun _ => m'.started (.inl hs)⟩, fun hp => k (m.reached hp),
      fun hr => k (m.returned hr), m.started, m.silent⟩

end Covered

-- A start whose last look at the flag is still ahead of it when the owner revokes.
def Stopped (t : List ConversationObservation) (s : VisitorConversation) : Prop :=
  s.interrupt.cancelled = true ∧ s.start.trusting = false ∧ .started true ∉ t

theorem Moved.stopped (m : s.Moved s' o) (h : Stopped t s) : Stopped (t ++ o) s' := by
  have ⟨hc, ht, hn⟩ := h
  have ⟨hc', ht'⟩ := m.untrusted hc ht
  refine ⟨hc', ht', fun hs => ?_⟩
  obtain hs | hs := List.mem_append.mp hs
  · exact hn hs
  · simp [m.started (.inr hs), StartPoint.trusting] at ht'

theorem Covered.step_stopped {t₀ : List ConversationObservation} {e : ConversationEvent} (h : Covered t₀ s)
    (hm : (machine persona sessionId).step s e = some (s', o)) (hp : Stopped t s) : Stopped (t ++ o) s' := by
  cases e <;> simp only [machine] at hm
  case revoke =>
    simp only [Option.some.injEq, Prod.mk.injEq] at hm
    obtain ⟨rfl, rfl⟩ := hm
    exact ⟨rfl, hp.right.left, by simpa using hp.right.right⟩
  case resumeRevoke k =>
    split at hm
    case h_1 => cases hm
    case h_2 => cases hm
    case h_3 point _ hk =>
      obtain ⟨rfl, rfl⟩ := Prod.mk.inj (Option.some.inj hm)
      have ⟨_, hs, _, hc, ho⟩ := (s.revokeAuthorityOnly_revokes (p := point)).calls
      refine ⟨hc.trans hp.left, ?_, fun ha => ?_⟩
      · exact (congrArg StartPoint.trusting hs).trans hp.right.left
      · obtain ha | ha := by simpa using ha
        · exact hp.right.right ha
        · obtain ho | ⟨e, ho⟩ := ho <;> rw [ho] at ha
          · simp at ha
          · obtain ⟨_, ha⟩ := onSession_observes ha
            cases ha
  case start env => exact (startStep_moved h.consistent hm).stopped hp
  case call operation =>
    split at hm <;> simp only [Option.some.injEq, Prod.mk.injEq, reduceCtorEq] at hm
    obtain ⟨rfl, rfl⟩ := hm
    exact ⟨hp.left, hp.right.left, by simpa using hp.right.right⟩
  case resumeCall k env =>
    simp only [Option.map_eq_some_iff, Option.bind_eq_some_iff, Prod.mk.injEq] at hm
    obtain ⟨⟨⟨s₁, o⟩, point⟩, ⟨p, hk, hc⟩, rfl, rfl⟩ := hm
    have hs : s.start = .returned true := h.consistent.calls (List.ne_nil_of_mem (List.mem_of_getElem? hk))
    exact ((callStep_calls hc).moved h.consistent hs).stopped hp

theorem run_covered (r : (machine persona sessionId).Run t s) : Covered t s := by
  refine r.invariant (fun {s} h => ?_) Covered.step
  obtain rfl : s = VisitorConversation.new := h
  exact .new

-- What a revocation comes to. A start that the owner overtakes only after its last look at the flag
-- still returns, and it is the revocation that sees to its session.
structure Reaches (persona : PersonaIdentity) (sessionId : SessionId) (t : List ConversationObservation)
    (s : VisitorConversation) : Prop where
  silent  : ∀ {c now}, ¬[.revoked, .session (.admitted c now)].Sublist t
  revoked : .revoked ∈ t → .started true ∈ t → s.authorityRevoked = true
  stopped : ∀ {t' s'}, s.interrupt.cancelled = true → s.start.trusting = false →
    (machine persona sessionId).Steps s t' s' → .started true ∉ t'

theorem run_reaches (r : (machine persona sessionId).Run t s) : Reaches persona sessionId t s := by
  have h := run_covered r
  constructor
  case silent => exact h.silent
  case revoked =>
    intro hr hs
    have hs := (h.returned hr).session (h.started hs ▸ rfl)
    simpa using hs
  case stopped =>
    intro t' s' hc ht e
    have hp : (∃ t₀, Covered t₀ s') ∧ Stopped ([] ++ t') s' := by
      refine e.preserves (P := fun t' s' => (∃ t₀, Covered t₀ s') ∧ Stopped t' s') ?_ ⟨⟨t, h⟩, hc, ht, by simp⟩
      intro t' s₁ e s₂ o ⟨⟨t₀, h⟩, hp⟩ hm
      exact ⟨⟨_, h.step hm⟩, h.step_stopped hm hp⟩
    simpa using hp.right.right.right

theorem canonical_nonblank : isBlank "canonical" = false := by
  decide

theorem canonical_bounded : "canonical".length ≤ maxCanonicalIdChars := by
  decide

def canonical : CanonicalId :=
  ⟨"canonical", canonical_nonblank, canonical_bounded⟩

def twin : PersonaIdentity :=
  ⟨canonical, ⟨1, Nat.one_pos⟩, .digitalTwin⟩

def accepting (turn : TurnAddress) (work : Option SessionEvent) : ConversationEnvironment :=
  ⟨true, some 10, turn, canonical, canonical, work⟩

-- A text turn has its permit when the owner revokes.
theorem run_reaches_text_turn : ∃ t s, (machine twin canonical).Run t s ∧ .revoked ∈ t ∧ .started true ∈ t ∧
    s.authorityRevoked = true ∧ Reaches twin canonical t s := by
  have ⟨t, s, r, ht⟩ := Machine.Run.exists_of_replay (m := machine twin canonical)
    (p := fun t => decide (.revoked ∈ t ∧ .started true ∈ t)) new
    (List.replicate 20 (.start (accepting 0 none)) ++ [.call .textTurn] ++
      List.replicate 10 (.resumeCall 0 (accepting 1 none)) ++
      [.resumeCall 0 (accepting 1 (some (.issueProviderPermit 1 providerScope .biometric (some 10)))),
        .resumeCall 0 (accepting 1 (some (.beginProviderEgress 0 (some 10)))), .revoke] ++
      List.replicate 4 (.resumeRevoke 0))
    rfl (by decide +kernel)
  have ⟨hr, hs⟩ := of_decide_eq_true ht
  have h := run_reaches r
  exact ⟨t, s, r, hr, hs, h.revoked hr hs, h⟩

-- What the owner could expect if a start only returned once the revocation was through.
def StartsRevoked (persona : PersonaIdentity) (sessionId : SessionId) (s : VisitorConversation) : Prop :=
  ∀ {env s' o}, (machine persona sessionId).step s (.start env) = some (s', o) → .started true ∈ o →
    s.revokes ≠ [] → s'.authorityRevoked = true

-- The owner revokes when all that is left of the start is to return.
theorem not_startsRevoked_last_look :
    ¬∀ t s, (machine twin canonical).Run t s → StartsRevoked twin canonical s := by
  intro h
  have ⟨t, s, (e : (machine twin canonical).Steps new t s), hs⟩ := Machine.Steps.exists_of_replay_any
    (p := fun s _ => decide (s.revokes ≠ []) &&
      ((machine twin canonical).step s (.start (accepting 0 none))).any fun r =>
        decide (.started true ∈ r.2) && !r.1.authorityRevoked)
    (List.replicate 19 (.start (accepting 0 none)) ++ [.revoke]) (by decide +kernel)
  simp only [Bool.and_eq_true, decide_eq_true_eq, Option.any_eq_true, Bool.not_eq_true'] at hs
  obtain ⟨hr, ⟨s', o⟩, hm, ho, hn⟩ := hs
  have hv := h t s ⟨rfl, e⟩ hm ho hr
  simp [hn] at hv

end VisitorConversation
