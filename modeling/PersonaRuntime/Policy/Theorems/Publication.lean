import PersonaRuntime.Policy.Publication

namespace CanonicalPublication

-- The status and the revocation of the authority agree. A private publication may have either.
structure WellFormed (p : CanonicalPublication) : Prop where
  ownerId       : isBlank p.ownerId = false
  personaId     : isBlank p.personaId = false
  publicationId : isBlank p.publicationId = false
  version       : p.personaVersion ≠ 0
  published     : p.status = .published → p.authority.revoked = false
  withdrawn     : p.status = .paused ∨ p.status = .unpublished → p.authority.revoked = true
  epoch         : p.authority.epoch.get ≠ 0
  expires       : p.authority.expiresAtMillis = none

-- Everything that a successful call can do.
inductive Change (p : CanonicalPublication) : CanonicalPublication → Prop
  | replace {authority} :
    (authority.epoch.get = p.authority.epoch.get + 1) → (authority.revoked = false) →
    (authority.expiresAtMillis = none) → Change p { p with status := .published, authority }
  | revoke {authority} {status : PublicationStatus} {personaVersion} :
    (AuthorizationState.revoke.run p.authority = .ok () authority) →
    (p.personaVersion ≤ personaVersion) →
    (status = .paused ∨ status = .unpublished ∨ status = p.status ∧ p.status ≠ .published) →
    Change p { p with status, authority, personaVersion }

-- A call either fails and leaves the publication as it is or makes one of the changes.
def Settles (x : Update Unit) (p : CanonicalPublication) : Prop :=
  (∃ e, x.run p = .error e p) ∨ ∃ p', x.run p = .ok () p' ∧ p.Change p'

end CanonicalPublication

namespace AuthorizationState

variable {a a' : AuthorizationState}

theorem revoke_cases (h : revoke.run a = .ok () a') :
    (a.revoked = true ∧ a' = a) ∨
    (a.revoked = false ∧ a'.epoch.get = a.epoch.get + 1 ∧ a'.revoked = true ∧
      a'.expiresAtMillis = a.expiresAtMillis) := by
  rw [revoke_run] at h
  cases hr : a.revoked
  case true => simp_all
  case false =>
    cases hn : a.epoch.next <;> simp [hr, hn] at h
    case ok e =>
      subst h
      simp [AuthorizationEpoch.get_next hn]

end AuthorizationState

namespace CanonicalPublication

variable {p p' : CanonicalPublication}

theorem checkOwner_run {owner : String} :
    (checkOwner owner).run p = if owner = p.ownerId then .ok () p else .error .ownerDenied p := by
  by_cases h : owner = p.ownerId <;> simp [checkOwner, h]

theorem onAuthority_revoke_settles {f : CanonicalPublication → CanonicalPublication}
    (h : ∀ {authority}, AuthorizationState.revoke.run p.authority = .ok () authority →
      p.Change (f { p with authority })) :
    Settles (do onAuthority AuthorizationState.revoke; modify f) p := by
  cases hr : AuthorizationState.revoke.run p.authority
  case ok a =>
    refine .inr ⟨_, ?_, h hr⟩
    simp [onAuthority, EStateM.zoom_run, hr]
  case error e a =>
    obtain rfl : p.authority = a := by
      cases h₁ : p.authority.revoked <;> cases h₂ : p.authority.epoch.next <;>
        simp_all [AuthorizationState.revoke_run]
    exact .inl ⟨.authEpochExhausted, by simp [onAuthority, EStateM.zoom_run, hr]⟩

theorem onAuthority_replace_settles {f : CanonicalPublication → CanonicalPublication}
    (h : ∀ {authority}, f { p with authority } = { p with status := .published, authority }) :
    Settles (do onAuthority (AuthorizationState.replace none); modify f) p := by
  cases hn : p.authority.epoch.next
  case error =>
    refine .inl ⟨.authEpochExhausted, ?_⟩
    simp [onAuthority, EStateM.zoom_run, AuthorizationState.replace_run, hn]
  case ok e =>
    have c : p.Change { p with status := .published, authority := ⟨e, false, none⟩ } :=
      .replace (AuthorizationEpoch.get_next hn) rfl rfl
    refine .inr ⟨_, ?_, c⟩
    simp [onAuthority, EStateM.zoom_run, AuthorizationState.replace_run, hn, h]

theorem publish_settles {owner : String} {version : Nat} {ready : Bool} :
    Settles (publish owner version ready) p := by
  by_cases ho : owner = p.ownerId
  case neg => exact .inl (by simp [publish, checkOwner_run, ho])
  cases ready
  case false => exact .inl (by simp [publish, checkOwner_run, ho])
  by_cases hv : version = p.personaVersion
  case neg => exact .inl (by simp [publish, checkOwner_run, ho, hv])
  by_cases hs : p.status = .published
  case pos => exact .inl (by simp [publish, checkOwner_run, ho, hv, hs])
  have h := onAuthority_replace_settles (p := p) (f := ({ · with status := .published })) rfl
  simpa [Settles, publish, checkOwner_run, ho, hv, hs] using h

theorem pause_settles {owner : String} : Settles (pause owner) p := by
  by_cases ho : owner = p.ownerId
  case neg => exact .inl (by simp [pause, checkOwner_run, ho])
  by_cases hs : p.status = .published
  case neg => exact .inl (by simp [pause, checkOwner_run, ho, hs])
  have h := onAuthority_revoke_settles (p := p) (f := ({ · with status := .paused }))
    fun h => .revoke h (le_refl _) (.inl rfl)
  simpa [Settles, pause, checkOwner_run, revokeAuthority, ho, hs] using h

theorem unpublish_settles {owner : String} : Settles (unpublish owner) p := by
  by_cases ho : owner = p.ownerId
  case neg => exact .inl (by simp [unpublish, checkOwner_run, ho])
  by_cases hs : p.status = .unpublished ∨ p.status = .privateStatus
  case pos => exact .inl (by simp [unpublish, checkOwner_run, ho, hs])
  have h := onAuthority_revoke_settles (p := p) (f := ({ · with status := .unpublished }))
    fun h => .revoke h (le_refl _) (.inr <| .inl rfl)
  simpa [Settles, unpublish, checkOwner_run, revokeAuthority, ho, hs] using h

theorem correctPersona_settles {owner : String} {version : Nat} :
    Settles (correctPersona owner version) p := by
  by_cases ho : owner = p.ownerId
  case neg => exact .inl (by simp [correctPersona, checkOwner_run, ho])
  by_cases hv : version ≤ p.personaVersion
  case pos => exact .inl (by simp [correctPersona, checkOwner_run, ho, hv])
  have h := onAuthority_revoke_settles (p := p)
    (f := ({ · with personaVersion := version, status := .unpublished }))
    fun h => .revoke h (le_of_not_ge hv) (.inr <| .inl rfl)
  simpa [Settles, correctPersona, checkOwner_run, revokeAuthority, ho, hv] using h

theorem invalidateRestartLeases_settles : Settles invalidateRestartLeases p := by
  by_cases hs : p.status = .published
  case pos =>
    have h := onAuthority_replace_settles (p := p) (f := id) (by simp [← hs])
    simpa [Settles, invalidateRestartLeases, hs] using h
  case neg =>
    have h := onAuthority_revoke_settles (p := p) (f := id)
      fun h => .revoke h (le_refl _) (.inr <| .inr ⟨rfl, hs⟩)
    simpa [Settles, invalidateRestartLeases, hs] using h

theorem call_settles (c : PublicationCall) : Settles c.call p := by
  cases c
  case publish                 => exact publish_settles
  case pause                   => exact pause_settles
  case unpublish               => exact unpublish_settles
  case correctPersona          => exact correctPersona_settles
  case invalidateRestartLeases => exact invalidateRestartLeases_settles

namespace Change

theorem preserves_wellFormed (w : p.WellFormed) (c : p.Change p') : p'.WellFormed := by
  cases c
  case replace he hr hx =>
    exact { w with published := fun _ => hr, withdrawn := by simp, epoch := by simp [he], expires := hx }
  case revoke authority status version hr hv hs =>
    have hn : status ≠ .published := by
      obtain rfl | rfl | ⟨rfl, hs⟩ := hs
      case inr.inr => exact hs
      all_goals decide
    have h : authority.revoked = true ∧ authority.epoch.get ≠ 0 ∧ authority.expiresAtMillis = none := by
      obtain ⟨h, rfl⟩ | ⟨_, he, h, hx⟩ := AuthorizationState.revoke_cases hr
      · exact ⟨h, w.epoch, w.expires⟩
      · exact ⟨h, by simp [he], hx.trans w.expires⟩
    exact { w with
      version := Nat.ne_of_gt <| Nat.lt_of_lt_of_le (Nat.pos_of_ne_zero w.version) hv
      published := fun hp => absurd hp hn
      withdrawn := fun _ => h.left
      epoch := h.right.left
      expires := h.right.right }

-- A change may keep the epoch only if it finds the authority revoked.
theorem epoch_cases (c : p.Change p') :
    p.authority.epoch.get < p'.authority.epoch.get ∨
    p.authority.revoked = true ∧ p'.authority = p.authority := by
  cases c
  case replace he _ _ => exact .inl (by simp [he])
  case revoke hr _ _ =>
    obtain ⟨h, rfl⟩ | ⟨_, he, _⟩ := AuthorizationState.revoke_cases hr
    · exact .inr ⟨h, rfl⟩
    · exact .inl (by simp [he])

end Change

theorem new_wellFormed {ownerId personaId publicationId : String} {version : Nat}
    (h : new ownerId personaId publicationId version = .ok p) : p.WellFormed := by
  simp only [new] at h
  split at h
  case isTrue => cases h
  case isFalse hg =>
    simp only [not_or, Bool.not_eq_true] at hg
    cases h
    constructor <;> simp_all [AuthorizationState.new, AuthorizationEpoch.initial]

-- Restarting from the durable snapshot is the identity.
theorem WellFormed.restart (w : p.WellFormed) : fromDurableSnapshot p.durableSnapshot = .ok p := by
  have hp := w.published
  have hw := w.withdrawn
  have hx := w.expires.symm
  have ⟨_, _, _, _, status, ⟨⟨epoch⟩, revoked, _⟩⟩ := p
  cases status <;> cases revoked
  all_goals simp_all [fromDurableSnapshot, durableSnapshot, AuthorizationState.fromPersisted,
    AuthorizationEpoch.fromPersisted, w.ownerId, w.personaId, w.publicationId, w.version, w.epoch]

theorem authorizePublicVisitor_iff {access : PublicationAccess} {authority : AuthorizationState} :
    authorizePublicVisitor access authority = .ok () ↔
      access.visitorAuthorized = true ∧
      (access.publicationOwner ≠ "" ∧ access.publicationOwner = access.personaOwner) ∧
      (access.publishedPersona ≠ "" ∧ access.publishedPersona = access.currentPersona) ∧
      access.published = true ∧
      (access.publishedPersonaVersion ≠ 0 ∧
        access.publishedPersonaVersion = access.currentPersonaVersion) ∧
      authority.validate access.lease access.nowMillis = .ok () := by
  simp only [authorizePublicVisitor]
  split_ifs
  case neg => rcases authority.validate access.lease access.nowMillis with (_ | _ | _) | _ <;> grind
  all_goals grind

-- What a permit needs beside the matching arguments of the call.
structure Honours (p : CanonicalPublication) (permit : VisitorPermit) : Prop where
  publicationId : permit.publicationId = p.publicationId
  ownerId       : permit.ownerId = p.ownerId
  personaId     : permit.personaId = p.personaId
  version       : permit.personaVersion = p.personaVersion
  published     : p.status = .published
  epoch         : permit.snapshot.epoch = p.authority.epoch

theorem WellFormed.authorizeVisitor_iff (w : p.WellFormed) {authenticated : Bool}
    {owner persona : String} {version now : Nat} {permit : VisitorPermit} :
    p.authorizeVisitor authenticated owner persona version permit now = .ok () ↔
      authenticated = true ∧ owner = p.ownerId ∧ persona = p.personaId ∧
        version = p.personaVersion ∧ p.Honours permit := by
  have ho : p.ownerId ≠ "" := fun h => absurd w.ownerId (h ▸ by decide)
  have hp : p.personaId ≠ "" := fun h => absurd w.personaId (h ▸ by decide)
  simp only [authorizeVisitor]
  split
  case isTrue h =>
    simp only [reduceCtorEq, false_iff]
    rintro ⟨_, _, _, _, hh⟩
    simp [hh.publicationId, hh.ownerId, hh.personaId, hh.version] at h
  case isFalse h =>
    simp only [not_or, not_not] at h
    have hm : ∀ {x : Except PublicationAccessDenial Unit},
        x.mapError PublicationError.visitorDenied = .ok () ↔ x = .ok () := by
      rintro (_ | _) <;> simp [Except.mapError]
    rw [hm, authorizePublicVisitor_iff, AuthorizationState.validate_iff]
    constructor
    case mp =>
      rintro ⟨ha, ⟨_, hc⟩, ⟨_, hc'⟩, hs, ⟨_, hv⟩, he, _⟩
      exact ⟨ha, hc.symm, hc'.symm, hv.symm, h.1, h.2.1, h.2.2.1, h.2.2.2, by simpa using hs, he⟩
    case mpr =>
      rintro ⟨ha, rfl, rfl, rfl, hh⟩
      have hr := w.published hh.published
      refine ⟨ha, ⟨ho, rfl⟩, ⟨hp, rfl⟩, by simpa using hh.published, ⟨w.version, rfl⟩, hh.epoch, hr, ?_⟩
      simp [w.expires, AuthorizationState.expired]

theorem visitorLease_honours {permit : VisitorPermit} {authenticated : Bool}
    (h : p.visitorLease authenticated = .ok permit) : p.Honours permit := by
  simp only [visitorLease] at h
  split at h
  case isTrue => cases h
  case isFalse hg =>
    simp only [not_or, not_not] at hg
    cases h
    exact ⟨rfl, rfl, rfl, rfl, hg.right, rfl⟩

theorem step_cases {e : PublicationEvent} {o : List PublicationCallResult} (w : p.WellFormed)
    (h : machine.step p e = some (p', o)) :
    (p' = p ∧ ∀ c ∈ o, c.result ≠ .ok ()) ∨ (p.Change p' ∧ ∃ c ∈ o, c.result = .ok ()) := by
  cases e
  case restart =>
    obtain ⟨rfl, rfl⟩ := by simpa [machine, w.restart] using h
    simp
  case call c =>
    obtain ⟨rfl, rfl⟩ := by simpa [machine] using h
    obtain ⟨_, hr⟩ | ⟨_, hr, hc⟩ := call_settles (p := p) c
    · simp [hr, EStateM.Result.toExcept]
    · simp [hr, hc, EStateM.Result.toExcept]

theorem step_wellFormed {e : PublicationEvent} {o : List PublicationCallResult} (w : p.WellFormed)
    (h : machine.step p e = some (p', o)) : p'.WellFormed := by
  obtain ⟨rfl, _⟩ | ⟨c, _⟩ := step_cases w h
  · exact w
  · exact c.preserves_wellFormed w

theorem run_wellFormed {t : List PublicationCallResult} : (machine.Run t p) → p.WellFormed :=
  Machine.Run.state_invariant (fun ⟨_, _, _, _, h⟩ => new_wellFormed h) step_wellFormed

-- The epoch of an authority that is not revoked.
def activeEpoch (p : CanonicalPublication) : Option AuthorizationEpoch :=
  if p.authority.revoked then none else some p.authority.epoch

-- The epoch grows, and an active epoch stays active for as long as it is the current one.
structure EpochOrder (p p' : CanonicalPublication) : Prop where
  le     : p.authority.epoch.get ≤ p'.authority.epoch.get
  active : p.authority.revoked = false → p'.authority.epoch = p.authority.epoch →
    p'.authority.revoked = false

theorem EpochOrder.refl (p : CanonicalPublication) : p.EpochOrder p :=
  ⟨le_refl _, fun h _ => h⟩

theorem EpochOrder.trans {p₁ p₂ p₃ : CanonicalPublication} (h : p₁.EpochOrder p₂)
    (h' : p₂.EpochOrder p₃) : p₁.EpochOrder p₃ := by
  refine ⟨le_trans h.le h'.le, fun ha he => ?_⟩
  have he' : p₂.authority.epoch = p₁.authority.epoch :=
    AuthorizationEpoch.ext <| le_antisymm (he ▸ h'.le) h.le
  exact h'.active (h.active ha he') (he.trans he'.symm)

theorem Change.epochOrder (c : p.Change p') : p.EpochOrder p' := by
  obtain h | ⟨hr, he⟩ := c.epoch_cases
  · exact ⟨le_of_lt h, fun _ he => absurd h (by simp [he])⟩
  · exact ⟨le_of_eq (by rw [he]), fun ha => by simp [hr] at ha⟩

theorem WellFormed.steps_epochOrder {t : List PublicationCallResult} (w : p.WellFormed)
    (e : machine.Steps p t p') : p.EpochOrder p' := by
  refine e.rel (P := WellFormed) EpochOrder.refl EpochOrder.trans (fun w h => ?_) w
  refine ⟨step_wellFormed w h, ?_⟩
  obtain ⟨rfl, _⟩ | ⟨c, _⟩ := step_cases w h
  · exact .refl _
  · exact c.epochOrder

-- A permit that is honoured stays so until the first successful call. From then on the epoch is
-- ahead of it.
theorem WellFormed.steps_honours {t : List PublicationCallResult} {permit : VisitorPermit}
    (w : p.WellFormed) (h : p.Honours permit) (e : machine.Steps p t p') :
    (p'.Honours permit ∧ ∀ c ∈ t, c.result ≠ .ok ()) ∨
    (permit.snapshot.epoch.get < p'.authority.epoch.get ∧ ∃ c ∈ t, c.result = .ok ()) := by
  induction e
  case refl => exact .inl ⟨h, by simp⟩
  case trans hs e hi =>
    obtain ⟨rfl, ho⟩ | ⟨c, ho⟩ := step_cases w hs
    case inl =>
      obtain ⟨h, ht⟩ | ⟨h, c, ht, hc⟩ := hi w h
      · exact .inl ⟨h, by simpa [or_imp, forall_and] using ⟨ho, ht⟩⟩
      · exact .inr ⟨h, c, by simp [ht], hc⟩
    case inr =>
      obtain hlt | ⟨hr, _⟩ := c.epoch_cases
      case inr => simp [w.published h.published] at hr
      have ⟨c', hm, hc'⟩ := ho
      refine .inr ⟨?_, c', by simp [hm], hc'⟩
      rw [h.epoch]
      exact lt_of_lt_of_le hlt (WellFormed.steps_epochOrder (c.preserves_wellFormed w) e).le

-- What holds of a publication at every point of every run.
structure PermitLifetime (p : CanonicalPublication) : Prop where
  restart : fromDurableSnapshot p.durableSnapshot = .ok p
  permit  : ∀ {permit t p'}, p.visitorLease true = .ok permit → machine.Steps p t p' →
    ∀ authenticated owner persona version now,
      p'.authorizeVisitor authenticated owner persona version permit now = .ok () ↔
        authenticated = true ∧ owner = p'.ownerId ∧ persona = p'.personaId ∧
          version = p'.personaVersion ∧ ∀ c ∈ t, c.result ≠ .ok ()
  epoch   : ∀ {t p'}, machine.Steps p t p' → p.authority.epoch.get ≤ p'.authority.epoch.get
  active  : ∀ {epoch t p' t' p''}, p.activeEpoch = some epoch → machine.Steps p t p' →
    p'.activeEpoch ≠ some epoch → machine.Steps p' t' p'' → p''.authority.epoch ≠ epoch

theorem run_permitLifetime {t : List PublicationCallResult} (r : machine.Run t p) :
    PermitLifetime p := by
  have w := run_wellFormed r
  refine ⟨w.restart, ?permit, fun e => (w.steps_epochOrder e).le, ?active⟩
  case permit =>
    intro permit t p' hl e authenticated owner persona version now
    have w' : p'.WellFormed := e.stable step_wellFormed w
    rw [w'.authorizeVisitor_iff]
    obtain ⟨h, ht⟩ | ⟨h, c, hc, hr⟩ := w.steps_honours (visitorLease_honours hl) e
    · rw [iff_of_true h ht]
    · have hn : ¬p'.Honours permit := fun h' => absurd h (by simp [h'.epoch])
      have hs : ¬∀ c ∈ t, c.result ≠ .ok () := fun ht => ht c hc hr
      rw [iff_of_false hn hs]
  case active =>
    intro epoch t p' t' p'' ha e hn e' he
    have w' : p'.WellFormed := e.stable step_wellFormed w
    have o := w.steps_epochOrder e
    have o' := w'.steps_epochOrder e'
    cases hr : p.authority.revoked <;> simp [activeEpoch, hr] at ha
    have he' : p'.authority.epoch = p.authority.epoch :=
      AuthorizationEpoch.ext <| le_antisymm (ha ▸ he ▸ o'.le) o.le
    exact hn (by simp [activeEpoch, o.active hr he', he', ha])

-- A permit that is minted after the owner paused and published again.
theorem run_permitLifetime_republished : ∃ t p permit,
    machine.Run t p ∧ p.visitorLease true = .ok permit ∧ PermitLifetime p :=
  have r := Machine.Run.of_replay (m := machine)
    ⟨"publication", "owner", "persona", 3, .privateStatus, .new none⟩
    [.call (.publish "owner" 3 true), .call (.pause "owner"), .call (.publish "visitor" 3 true),
      .restart, .call (.publish "owner" 3 true)]
    ⟨"owner", "persona", "publication", 3, by decide⟩ rfl
  ⟨_, _, _, r, rfl, run_permitLifetime r⟩

end CanonicalPublication
