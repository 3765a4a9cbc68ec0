import PersonaRuntime.OwnerLab.Theorems.SecureStore
import PersonaRuntime.OwnerLab.Theorems.Workspace
import PersonaRuntime.OwnerLab.WorkspaceCalls

namespace CanonicalPublication

variable {p p' : CanonicalPublication} {owner : String} {version : Nat} {ready : Bool}

-- A call that succeeds has changed the authority and what it assigns afterwards.
theorem onAuthority_on {x : AuthorizationState.Update Unit}
    {f : CanonicalPublication → CanonicalPublication}
    (h : (do onAuthority x; modify f : Update Unit).on p = .ok p') :
    ∃ authority, p' = f { p with authority } := by
  cases hx : x.run p.authority
  case error => simp [Update.on, onAuthority, EStateM.zoom_run, hx] at h
  case ok _ authority =>
    refine ⟨authority, ?_⟩
    simpa [Update.on, onAuthority, EStateM.zoom_run, hx] using h.symm

theorem publish_on (h : (publish owner version ready).on p = .ok p') :
    p.status ≠ .published ∧ p'.personaVersion = p.personaVersion ∧ p'.status = .published := by
  by_cases ho : owner = p.ownerId
  case neg => simp [Update.on, publish, checkOwner_run, ho] at h
  cases ready
  case false => simp [Update.on, publish, checkOwner_run, ho] at h
  by_cases hv : version = p.personaVersion
  case neg => simp [Update.on, publish, checkOwner_run, ho, hv] at h
  by_cases hs : p.status = .published
  case pos => simp [Update.on, publish, checkOwner_run, ho, hv, hs] at h
  have h : (do
      onAuthority (AuthorizationState.replace none)
      modify ({ · with status := .published }) : Update Unit).on p = .ok p' := by
    simpa [Update.on, publish, checkOwner_run, ho, hv, hs] using h
  obtain ⟨_, rfl⟩ := onAuthority_on h
  exact ⟨hs, rfl, rfl⟩

theorem pause_on (h : (pause owner).on p = .ok p') :
    p'.personaVersion = p.personaVersion ∧ p'.status = .paused := by
  by_cases ho : owner = p.ownerId
  case neg => simp [Update.on, pause, checkOwner_run, ho] at h
  by_cases hs : p.status = .published
  case neg => simp [Update.on, pause, checkOwner_run, ho, hs] at h
  have h : (do
      onAuthority AuthorizationState.revoke
      modify ({ · with status := .paused }) : Update Unit).on p = .ok p' := by
    simpa [Update.on, pause, checkOwner_run, revokeAuthority, ho, hs] using h
  obtain ⟨_, rfl⟩ := onAuthority_on h
  exact ⟨rfl, rfl⟩

theorem unpublish_on (h : (unpublish owner).on p = .ok p') :
    p'.personaVersion = p.personaVersion ∧ p'.status = .unpublished := by
  by_cases ho : owner = p.ownerId
  case neg => simp [Update.on, unpublish, checkOwner_run, ho] at h
  by_cases hs : p.status = .unpublished ∨ p.status = .privateStatus
  case pos => simp [Update.on, unpublish, checkOwner_run, ho, hs] at h
  have h : (do
      onAuthority AuthorizationState.revoke
      modify ({ · with status := .unpublished }) : Update Unit).on p = .ok p' := by
    simpa [Update.on, unpublish, checkOwner_run, revokeAuthority, ho, hs] using h
  obtain ⟨_, rfl⟩ := onAuthority_on h
  exact ⟨rfl, rfl⟩

theorem correctPersona_on (h : (correctPersona owner version).on p = .ok p') :
    p'.personaVersion = version ∧ p'.status = .unpublished := by
  by_cases ho : owner = p.ownerId
  case neg => simp [Update.on, correctPersona, checkOwner_run, ho] at h
  by_cases hv : version ≤ p.personaVersion
  case pos => simp [Update.on, correctPersona, checkOwner_run, ho, hv] at h
  have h : (do
      onAuthority AuthorizationState.revoke
      modify ({ · with personaVersion := version, status := .unpublished }) : Update Unit).on p = .ok p' := by
    simpa [Update.on, correctPersona, checkOwner_run, revokeAuthority, ho, hv] using h
  obtain ⟨_, rfl⟩ := onAuthority_on h
  exact ⟨rfl, rfl⟩

theorem invalidateRestartLeases_on (h : invalidateRestartLeases.on p = .ok p') :
    p'.personaVersion = p.personaVersion ∧ p'.status = p.status := by
  by_cases hs : p.status = .published
  case pos =>
    have h : (do
        onAuthority (AuthorizationState.replace none)
        modify id : Update Unit).on p = .ok p' := by
      simpa [Update.on, invalidateRestartLeases, hs] using h
    obtain ⟨_, rfl⟩ := onAuthority_on h
    exact ⟨rfl, rfl⟩
  case neg =>
    have h : (do
        onAuthority AuthorizationState.revoke
        modify id : Update Unit).on p = .ok p' := by
      simpa [Update.on, invalidateRestartLeases, hs] using h
    obtain ⟨_, rfl⟩ := onAuthority_on h
    exact ⟨rfl, rfl⟩

theorem Change.ids (c : p.Change p') : p'.ownerId = p.ownerId ∧ p'.personaId = p.personaId := by
  cases c <;> exact ⟨rfl, rfl⟩

end CanonicalPublication

namespace OwnerWorkspaceRecord

variable {sha256 : Digest} {w w' : OwnerWorkspaceRecord} {ownerToken personaId : String}
  {personaVersion : Nat} {ready : Bool} {random : RandomSource}

theorem publish_eq_restoreOrNew :
    w.publish sha256 ownerToken personaId personaVersion ready random =
      if !w.authenticateOwner sha256 ownerToken then .error "owner authorization denied"
      else do
        let publication ← w.restoreOrNew personaId personaVersion random
        if w.publication.any (·.personaId ≠ personaId) then .error "publication Persona mismatch"
        else do
          let publication ← ((CanonicalPublication.publish w.ownerId personaVersion ready).on
            publication).orMessage "publication denied"
          let visitorToken ← generateToken random 32
          return ({ w with
            visitorTokenSha256 := hashSecret sha256 visitorToken
            publication        := publication.durableSnapshot }, visitorToken) := by
  simp only [publish, restoreOrNew]
  cases w.publication
  case none =>
    cases generateToken random 16
    all_goals rfl
  case some => rfl

namespace Update

theorem checkOwner_run :
    (checkOwner sha256 ownerToken).run w =
      if w.authenticateOwner sha256 ownerToken then .ok () w
      else .error "owner authorization denied" w := by
  cases h : w.authenticateOwner sha256 ownerToken <;> simp [checkOwner, h]

@[simp]
theorem ofExcept_run {α : Type} (x : Except String α) :
    (ofExcept x).run w =
      match x with
      | .ok a          => .ok a w
      | .error message => .error message w := by
  cases x <;> rfl

theorem publish_eq :
    publish sha256 ownerToken personaId personaVersion ready random =
      .atomically (·.publish sha256 ownerToken personaId personaVersion ready random) := by
  refine EStateM.eq_atomically fun w => ?_
  rw [publish, EStateM.run_bind, checkOwner_run, EStateM.atomically_run, publish_eq_restoreOrNew]
  cases ho : w.authenticateOwner sha256 ownerToken
  case false => rfl
  case true =>
    simp only [EStateM.run_bind, EStateM.run_get, ofExcept_run, Bool.not_true, Bool.false_eq_true,
      if_true, if_false]
    cases w.restoreOrNew personaId personaVersion random
    case error => rfl
    case ok p =>
      simp only [Except.ok_bind]
      by_cases hm : w.publication.any (·.personaId ≠ personaId)
      case pos =>
        simp only [hm, if_true]
        rfl
      case neg =>
        simp only [hm]
        cases ((CanonicalPublication.publish w.ownerId personaVersion ready).on p).orMessage
          "publication denied"
        case error => rfl
        case ok p' => cases generateToken random 32 <;> rfl

theorem publish_eq_ok {token : String}
    (h : (publish sha256 ownerToken personaId personaVersion ready random).run w = .ok token w') :
    w.publish sha256 ownerToken personaId personaVersion ready random = .ok (w', token) := by
  rw [publish_eq, EStateM.atomically_run] at h
  split at h
  case h_1 hp =>
    cases h
    exact hp
  case h_2 => cases h

theorem changePublication_eq {operation : String → CanonicalPublication.Update Unit} :
    changePublication sha256 ownerToken operation =
      .atomic (·.changePublication sha256 ownerToken operation) := by
  refine EStateM.eq_atomic fun w => ?_
  rw [changePublication, EStateM.run_bind, checkOwner_run, EStateM.atomic_run]
  cases ho : w.authenticateOwner sha256 ownerToken
  case false => simp [OwnerWorkspaceRecord.changePublication, ho]; rfl
  case true =>
    simp only [OwnerWorkspaceRecord.changePublication, ho, EStateM.run_bind, EStateM.run_get,
      ofExcept_run, Bool.not_true, Bool.false_eq_true, if_true, if_false]
    cases w.publication.okOr "publication missing"
    case error => rfl
    case ok state =>
      simp only [Except.ok_bind]
      cases restore state
      case error => rfl
      case ok p =>
        simp only [Except.ok_bind]
        cases ((operation w.ownerId).on p).orMessage "publication mutation denied" <;> rfl

theorem onPersonaCorrection_eq :
    onPersonaCorrection personaVersion = .atomic (·.onPersonaCorrection personaVersion) := by
  refine EStateM.eq_atomic fun w => ?_
  rw [onPersonaCorrection, EStateM.run_bind, EStateM.run_get, EStateM.atomic_run]
  cases hp : w.publication
  case none => simp [OwnerWorkspaceRecord.onPersonaCorrection, hp]
  case some snapshot =>
    simp only [OwnerWorkspaceRecord.onPersonaCorrection, hp, EStateM.run_bind, ofExcept_run]
    cases restore snapshot
    case error => rfl
    case ok p =>
      simp only [Except.ok_bind, EStateM.run_get]
      cases ((CanonicalPublication.correctPersona w.ownerId personaVersion).on p).orMessage
        "publication correction failed" <;> rfl

theorem invalidateRestartLeases_eq :
    invalidateRestartLeases = .atomic OwnerWorkspaceRecord.invalidateRestartLeases := by
  refine EStateM.eq_atomic fun w => ?_
  rw [invalidateRestartLeases, EStateM.run_bind, EStateM.run_get, EStateM.atomic_run]
  cases hp : w.publication
  case none => simp [OwnerWorkspaceRecord.invalidateRestartLeases, hp]
  case some snapshot =>
    simp only [OwnerWorkspaceRecord.invalidateRestartLeases, hp, EStateM.run_bind, ofExcept_run]
    cases restore snapshot
    case error => rfl
    case ok p =>
      simp only [Except.ok_bind]
      cases (CanonicalPublication.invalidateRestartLeases.on p).orMessage
        "publication epoch exhausted" <;> rfl

end Update

end OwnerWorkspaceRecord

namespace OwnerWorkspace

open OwnerWorkspaceRecord

variable {sha256 : Digest} {personaId : String} {s s' : OwnerWorkspace} {c : OwnerWorkspaceCall}
  {reply : OwnerWorkspaceReply} {record : OwnerWorkspaceRecord} {t : List OwnerWorkspaceReply}

-- A publication of this owner for this Persona at a version of it.
structure Holds (personaId ownerId : String) (version : Nat) (p : CanonicalPublication) : Prop where
  wellFormed : p.WellFormed
  ownerId    : p.ownerId = ownerId
  personaId  : p.personaId = personaId
  version    : p.personaVersion = version

structure Orderly (personaId : String) (s : OwnerWorkspace) : Prop where
  ownerId     : s.record.ownerId.utf8ByteSize = 32
  ownerToken  : validSha256 s.record.ownerTokenSha256 = true
  publication : ∀ {state}, s.record.publication = some state →
    ∃ p, Holds personaId s.record.ownerId s.personaVersion p ∧ p.durableSnapshot = state
  token       : s.record.visitorTokenSha256.isSome = true ↔
    ∃ state, s.record.publication = some state ∧ state.status = .published
  hash        : ∀ {h}, s.record.visitorTokenSha256 = some h → validSha256 h = true

-- Everything that a successful call can do to the record.
inductive Change (sha256 : Digest) (personaId : String) (s : OwnerWorkspace) :
    Nat → OwnerWorkspaceReply → OwnerWorkspaceRecord → Prop
  | published {p token} : (∀ {state}, s.record.publication = some state → state.status ≠ .published) →
    (Holds personaId s.record.ownerId s.personaVersion p) → (p.status = .published) →
    (token.utf8ByteSize = 64) → Change sha256 personaId s s.personaVersion (.published token)
      { s.record with
        publication        := p.durableSnapshot
        visitorTokenSha256 := hashSecret sha256 token }
  | withdrawn {version p} : (Holds personaId s.record.ownerId version p) → (p.status ≠ .published) →
    Change sha256 personaId s version .withdrawn
      { s.record with publication := p.durableSnapshot, visitorTokenSha256 := none }
  | refreshed {p p' : CanonicalPublication} : (s.record.publication = some p.durableSnapshot) →
    (Holds personaId s.record.ownerId s.personaVersion p') → (p'.status = p.status) →
    Change sha256 personaId s s.personaVersion .refreshed
      { s.record with publication := p'.durableSnapshot }
  | unpublished {version reply} : (s.record.publication = none) → (∀ token, reply ≠ .published token) →
    Change sha256 personaId s version reply s.record

theorem Holds.change {ownerId : String} {version version' : Nat} {p p' : CanonicalPublication}
    (h : Holds personaId ownerId version p) (c : p.Change p') (hv : p'.personaVersion = version') :
    Holds personaId ownerId version' p' where
  wellFormed := c.preserves_wellFormed h.wellFormed
  ownerId    := c.ids.left.trans h.ownerId
  personaId  := c.ids.right.trans h.personaId
  version    := hv

theorem Orderly.restore (o : s.Orderly personaId) {state : CanonicalPublicationSnapshot}
    (hs : s.record.publication = some state) {p : CanonicalPublication} (h : restore state = .ok p) :
    Holds personaId s.record.ownerId s.personaVersion p := by
  obtain ⟨q, hq, rfl⟩ := o.publication hs
  have hr : q = p := by
    simpa [OwnerWorkspaceRecord.restore, hq.wellFormed.restart, Except.orMessage, Except.mapError_ok, Except.mapError_error] using h
  exact hr ▸ hq

theorem Orderly.restoreOrNew (o : s.Orderly personaId) {random : RandomSource}
    {p : CanonicalPublication}
    (h : s.record.restoreOrNew personaId s.personaVersion random = .ok p) :
    Holds personaId s.record.ownerId s.personaVersion p ∧
      ∀ {state}, s.record.publication = some state → state = p.durableSnapshot := by
  simp only [OwnerWorkspaceRecord.restoreOrNew] at h
  cases hs : s.record.publication <;> simp only [hs] at h
  case some => exact ⟨o.restore hs h, by simp [(restore_eq_ok h).right]⟩
  case none =>
    obtain ⟨publicationId, _, h⟩ := Except.bind_eq_ok h
    have hn := Except.orMessage_eq_ok h
    have w := CanonicalPublication.new_wellFormed hn
    simp only [CanonicalPublication.new] at hn
    split at hn <;> cases hn
    exact ⟨⟨w, rfl, rfl, rfl⟩, by simp⟩

theorem generateToken_utf8ByteSize {random : RandomSource} {n : Nat} {token : String}
    (h : generateToken random n = .ok token) : token.utf8ByteSize = 2 * n := by
  simp only [generateToken] at h
  split at h <;> cases h
  simp [(hex_isAsciiHexdigit _).left]

theorem Orderly.publish (o : s.Orderly personaId) {ownerToken token : String} {ready : Bool}
    {random : RandomSource}
    (h : s.record.publish sha256 ownerToken personaId s.personaVersion ready random = .ok (record, token)) :
    Change sha256 personaId s s.personaVersion (.published token) record := by
  rw [publish_eq_restoreOrNew, Except.ite_error_eq_ok_iff] at h
  obtain ⟨p, hp, h⟩ := Except.bind_eq_ok h.right
  obtain ⟨p', hc, h⟩ := Except.bind_eq_ok (Except.ite_error_eq_ok_iff.mp h).right
  obtain ⟨visitorToken, ht, h⟩ := Except.bind_eq_ok h
  cases h
  have hc := Except.orMessage_eq_ok hc
  have ⟨hn, hv, hs⟩ := CanonicalPublication.publish_on hc
  have ⟨hp, hq⟩ := o.restoreOrNew hp
  exact .published (fun h => hq h ▸ hn) (hp.change (CanonicalPublication.publish_settles.change hc) (hv.trans hp.version)) hs
    (generateToken_utf8ByteSize ht)

theorem Orderly.changePublication (o : s.Orderly personaId) {ownerToken : String}
    {operation : String → CanonicalPublication.Update Unit}
    (hs : ∀ {owner p}, CanonicalPublication.Settles (operation owner) p)
    (ho : ∀ {owner p p'}, (operation owner).on p = .ok p' →
      p'.personaVersion = p.personaVersion ∧ p'.status ≠ .published)
    (h : s.record.changePublication sha256 ownerToken operation = .ok record) :
    Change sha256 personaId s s.personaVersion .withdrawn record := by
  obtain ⟨state, hp, h⟩ := Except.bind_eq_ok (Except.guard_eq_ok h)
  obtain ⟨p, hr, h⟩ := Except.bind_eq_ok h
  obtain ⟨p', hc, h⟩ := Except.bind_eq_ok h
  cases h
  have hc := Except.orMessage_eq_ok hc
  have hr := o.restore (Option.okOr_eq_ok hp) hr
  have ⟨hv, hn⟩ := ho hc
  exact .withdrawn (hr.change (hs.change hc) (hv.trans hr.version)) hn

theorem Orderly.onPersonaCorrection (o : s.Orderly personaId) {version : Nat}
    (h : s.record.onPersonaCorrection version = .ok record) :
    Change sha256 personaId s version .withdrawn record := by
  cases hs : s.record.publication <;> simp only [OwnerWorkspaceRecord.onPersonaCorrection, hs] at h
  case none =>
    cases h
    exact .unpublished hs (by simp)
  case some state =>
    obtain ⟨p, hr, h⟩ := Except.bind_eq_ok h
    obtain ⟨p', hc, h⟩ := Except.bind_eq_ok h
    cases h
    have hc := Except.orMessage_eq_ok hc
    have ⟨hv, hn⟩ := CanonicalPublication.correctPersona_on hc
    have c := CanonicalPublication.correctPersona_settles.change hc
    exact .withdrawn ((o.restore hs hr).change c hv) (by simp [hn])

theorem Orderly.invalidateRestartLeases (o : s.Orderly personaId)
    (h : s.record.invalidateRestartLeases = .ok record) :
    Change sha256 personaId s s.personaVersion .refreshed record := by
  cases hs : s.record.publication <;>
    simp only [OwnerWorkspaceRecord.invalidateRestartLeases, hs] at h
  case none =>
    cases h
    exact .unpublished hs (by simp)
  case some state =>
    obtain ⟨p, hr, h⟩ := Except.bind_eq_ok h
    obtain ⟨p', hc, h⟩ := Except.bind_eq_ok h
    cases h
    have hc := Except.orMessage_eq_ok hc
    have ⟨hv, hn⟩ := CanonicalPublication.invalidateRestartLeases_on hc
    have c := CanonicalPublication.invalidateRestartLeases_settles.change hc
    have hp := o.restore hs hr
    obtain ⟨_, rfl⟩ := restore_eq_ok hr
    exact .refreshed hs (hp.change c (hv.trans hp.version)) hn

theorem map_atomic_run {ε σ α : Type} {f : σ → Except ε σ} {g : Unit → α} {s : σ} :
    (g <$> EStateM.atomic f).run s =
      match f s with
      | .ok s'   => .ok (g ()) s'
      | .error e => .error e s := by
  rw [EStateM.run_map_any, EStateM.atomic_run]
  cases f s <;> rfl

-- A call either fails and leaves the record as it is or makes one of the changes.
variable (sha256) in
theorem Orderly.call (o : s.Orderly personaId) (c : OwnerWorkspaceCall) :
    (∃ e, (c.call sha256 personaId s.personaVersion).run s.record = .error e s.record) ∨
    ∃ reply record, (c.call sha256 personaId s.personaVersion).run s.record = .ok reply record ∧
      Change sha256 personaId s (c.version s.personaVersion) reply record := by
  cases c <;> simp only [OwnerWorkspaceCall.call, OwnerWorkspaceCall.version, Update.pause,
    Update.unpublish, Update.publish_eq, Update.changePublication_eq, Update.onPersonaCorrection_eq,
    Update.invalidateRestartLeases_eq, map_atomic_run]
  case publish ownerToken ready random =>
    rw [EStateM.run_map_any, EStateM.atomically_run]
    cases h : s.record.publish sha256 ownerToken personaId s.personaVersion ready random
    case error e => exact .inl ⟨e, rfl⟩
    case ok r    => exact .inr ⟨_, _, rfl, o.publish h⟩
  case pause ownerToken =>
    cases h : s.record.changePublication sha256 ownerToken CanonicalPublication.pause
    case error e => exact .inl ⟨e, rfl⟩
    case ok r    =>
      refine .inr ⟨_, _, rfl, o.changePublication CanonicalPublication.pause_settles (fun h => ?_) h⟩
      have ⟨hv, hs⟩ := CanonicalPublication.pause_on h
      exact ⟨hv, by simp [hs]⟩
  case unpublish ownerToken =>
    cases h : s.record.changePublication sha256 ownerToken CanonicalPublication.unpublish
    case error e => exact .inl ⟨e, rfl⟩
    case ok r    =>
      refine .inr ⟨_, _, rfl, o.changePublication CanonicalPublication.unpublish_settles (fun h => ?_) h⟩
      have ⟨hv, hs⟩ := CanonicalPublication.unpublish_on h
      exact ⟨hv, by simp [hs]⟩
  case invalidateRestartLeases =>
    cases h : s.record.invalidateRestartLeases
    case error e => exact .inl ⟨e, rfl⟩
    case ok r    => exact .inr ⟨_, _, rfl, o.invalidateRestartLeases h⟩
  case correctPersona version =>
    cases h : s.record.onPersonaCorrection version
    case error e => exact .inl ⟨e, rfl⟩
    case ok r    => exact .inr ⟨_, _, rfl, o.onPersonaCorrection h⟩

theorem Change.orderly {version : Nat} (c : Change sha256 personaId s version reply record)
    (o : s.Orderly personaId) : Orderly personaId ⟨record, version⟩ := by
  cases c
  case published p token _ hp hs _ =>
    refine ⟨o.ownerId, o.ownerToken, ?_, ?_, ?_⟩
    · rintro _ ⟨⟩
      exact ⟨p, hp, rfl⟩
    · simpa [CanonicalPublication.durableSnapshot] using hs
    · rintro _ ⟨⟩
      exact validSha256_hashSecret sha256 token
  case withdrawn p hs hp =>
    refine ⟨o.ownerId, o.ownerToken, ?_, ?_, by simp⟩
    · rintro _ ⟨⟩
      exact ⟨p, hp, rfl⟩
    · simpa [CanonicalPublication.durableSnapshot] using hs
  case refreshed p p' hr hp hs =>
    refine ⟨o.ownerId, o.ownerToken, ?_, ?_, o.hash⟩
    · rintro _ ⟨⟩
      exact ⟨p', hp, rfl⟩
    · rw [o.token]
      simp [hr, CanonicalPublication.durableSnapshot, hs]
  case unpublished hn _ => exact ⟨o.ownerId, o.ownerToken, by simp [hn], by simpa [hn] using o.token, o.hash⟩

theorem Change.token {version : Nat} {token : String}
    (c : Change sha256 personaId s version (.published token) record) :
    record.visitorTokenSha256 = some (hashSecret sha256 token) ∧ token.utf8ByteSize = 64 := by
  cases c
  case published ht     => exact ⟨rfl, ht⟩
  case unpublished _ h => exact absurd rfl (h token)

theorem Orderly.step (o : s.Orderly personaId) {r : List OwnerWorkspaceReply}
    (h : (machine sha256 personaId).step s c = some (s', r)) :
    (s' = s ∧ r = []) ∨
    ∃ reply, r = [reply] ∧ Change sha256 personaId s s'.personaVersion reply s'.record := by
  simp only [machine, apply] at h
  split at h
  case isFalse => cases h
  case isTrue =>
    obtain ⟨_, hc⟩ | ⟨reply, record, hc, hm⟩ := o.call sha256 c <;> rw [hc] at h <;> cases h
    · exact .inl ⟨rfl, rfl⟩
    · exact .inr ⟨reply, rfl, hm⟩

theorem init_orderly (h : (machine sha256 personaId).init s) : s.Orderly personaId := by
  obtain ⟨random, token, h⟩ := h
  obtain ⟨ownerId, hi, h⟩ := Except.bind_eq_ok h
  obtain ⟨token, ht, h⟩ := Except.bind_eq_ok h
  obtain ⟨record, version⟩ := s
  cases h
  exact ⟨generateToken_utf8ByteSize hi, validSha256_hashSecret sha256 token, by simp, by simp, by simp⟩

theorem run_orderly : ((machine sha256 personaId).Run t s) → s.Orderly personaId := by
  refine Machine.Run.state_invariant init_orderly fun {s c s' r} o h => ?_
  obtain ⟨rfl, _⟩ | ⟨_, _, hc⟩ := o.step h
  · exact o
  · exact hc.orderly o

theorem Orderly.validatePublication (o : s.Orderly personaId) {state : CanonicalPublicationSnapshot}
    (hs : s.record.publication = some state) :
    s.record.validatePublication personaId s.personaVersion state = .ok () := by
  obtain ⟨p, hp, rfl⟩ := o.publication hs
  have hm : ¬(p.durableSnapshot.ownerId ≠ s.record.ownerId ∨ p.durableSnapshot.personaId ≠ personaId ∨
      p.durableSnapshot.personaVersion > s.personaVersion) := by
    simp [CanonicalPublication.durableSnapshot, hp.ownerId, hp.personaId, hp.version]
  have hv : ¬(p.durableSnapshot.status = .published ∧
      p.durableSnapshot.personaVersion ≠ s.personaVersion) := by
    simp [CanonicalPublication.durableSnapshot, hp.version]
  have hn : ¬(p.durableSnapshot.status = .published ∧ s.record.visitorTokenSha256.isNone = true) := by
    rintro ⟨h, hn⟩
    have := o.token.mpr ⟨_, hs, h⟩
    simp_all
  simp only [OwnerWorkspaceRecord.validatePublication, hm, hv, hn, hp.wellFormed.restart,
    Except.orMessage, Except.mapError_ok, Except.ok_bind, if_false]
  rfl

theorem Orderly.validate (o : s.Orderly personaId) :
    s.record.validate personaId s.personaVersion = .ok () := by
  have hi : ¬(s.record.ownerId.utf8ByteSize ≠ 32 ∨ (!validSha256 s.record.ownerTokenSha256) = true) := by
    simp [o.ownerId, o.ownerToken]
  have hv : ∀ {state}, s.record.publication = some state →
      s.record.validatePublication personaId s.personaVersion state = .ok () := o.validatePublication
  have ht : ∀ {h}, s.record.visitorTokenSha256 = some h →
      ¬((!validSha256 h) = true ∨ s.record.publication.all (·.status ≠ .published) = true) := by
    intro h hh
    obtain ⟨state, hp, hs⟩ := o.token.mp (by simp [hh])
    simp [o.hash hh, hp, hs]
  simp only [OwnerWorkspaceRecord.validate, hi, if_false]
  cases hp : s.record.publication <;> cases hh : s.record.visitorTokenSha256
  case none.none => rfl
  case none.some => simpa [hp] using ht hh
  case some.none => simp only [hv hp]; rfl
  case some.some =>
    have ht := ht hh
    rw [hp] at ht
    simp only [hv hp, ht, if_false]
    rfl

theorem hexDigit_injective : ∀ n < 16, ∀ m < 16, hexDigit n = hexDigit m → n = m := by
  decide

theorem hex_injective {bytes bytes' : List UInt8} (h : hex bytes = hex bytes') : bytes = bytes' := by
  replace h := congrArg String.toList h
  simp only [hex, String.toList_ofList] at h
  induction bytes generalizing bytes'
  case nil => cases bytes' <;> simp_all
  case cons byte bytes hi =>
    cases bytes'
    case nil => simp at h
    case cons byte' bytes' =>
      simp only [List.flatMap_cons, List.cons_append, List.nil_append, List.cons.injEq] at h
      obtain ⟨h₁, h₂, h⟩ := h
      have := byte.toNat_lt
      have := byte'.toNat_lt
      have h₁ := hexDigit_injective _ (by omega) _ (by omega) h₁
      have h₂ := hexDigit_injective _ (by omega) _ (by omega) h₂
      have hb : byte = byte' := UInt8.toNat_inj.mp (by omega)
      rw [hb, hi h]

theorem all_zip_eq_iff {α : Type} [DecidableEq α] {l l' : List α} (hl : l.length = l'.length) :
    (l.zip l').all (fun (a, b) => a = b) = true ↔ l = l' := by
  induction l generalizing l' <;> cases l'
  case cons.cons a l hi a' l' =>
    have hl : l.length = l'.length := by simpa using hl
    simp only [List.zip_cons_cons, List.all_cons, Bool.and_eq_true, hi hl, decide_eq_true_eq,
      List.cons.injEq]
  all_goals simp at hl ⊢

theorem length_toList_hex (bytes : List UInt8) : (hex bytes).toList.length = 2 * bytes.length := by
  simp only [hex, String.toList_ofList]
  induction bytes
  case nil       => rfl
  case cons _ hi => simp only [List.flatMap_cons, List.length_append, List.length_cons, hi]; simp; omega

theorem tokenMatches_hashSecret_iff {token token' : String} (hl : token.utf8ByteSize = 64) :
    tokenMatches sha256 (hashSecret sha256 token') token = true ↔ sha256 token' = sha256 token := by
  have hn : (hashSecret sha256 token').toList.length = (hashSecret sha256 token).toList.length := by
    simp [hashSecret, length_toList_hex]
  simp only [tokenMatches, validSha256_hashSecret, hl, decide_true, Bool.and_true, Bool.true_and,
    all_zip_eq_iff hn]
  constructor
  case mp =>
    intro h
    exact List.Vector.toList_injective (hex_injective (String.toList_injective h))
  case mpr =>
    intro h
    rw [hashSecret, hashSecret, h]

theorem Orderly.visitorPermit_iff (o : s.Orderly personaId) {token : String} :
    (∃ permit, s.record.visitorPermit sha256 token = .ok permit) ↔
      ∃ h, s.record.visitorTokenSha256 = some h ∧ tokenMatches sha256 h token = true := by
  constructor
  case mp =>
    rintro ⟨permit, h⟩
    obtain ⟨stored, hs, h⟩ := Except.bind_eq_ok h
    refine ⟨stored, Option.okOr_eq_ok hs, ?_⟩
    by_contra hm
    rw [if_pos (by simpa using hm)] at h
    cases h
  case mpr =>
    rintro ⟨stored, hs, hm⟩
    obtain ⟨state, hp, hst⟩ := o.token.mp (by simp [hs])
    obtain ⟨p, hh, rfl⟩ := o.publication hp
    have hst : p.status = .published := hst
    simp [visitorPermit, hs, hm, hp, Option.okOr, OwnerWorkspaceRecord.restore, hh.wellFormed.restart, Except.orMessage,
      Except.mapError_ok, Except.ok_bind, CanonicalPublication.visitorLease, hst]

-- The visitor tokens that were handed out.
def tokens (t : List OwnerWorkspaceReply) : List String :=
  t.filterMap fun
    | .published token => some token
    | _                => none

-- The tokens are distinct and the digest tells them apart.
structure Distinct (sha256 : Digest) (tokens : List String) : Prop where
  nodup     : tokens.Nodup
  injective : ∀ {a b}, a ∈ tokens → b ∈ tokens → sha256 a = sha256 b → a = b

-- What became of a token since it was handed out: it is still the one that authenticates, or it was
-- withdrawn and any other came later.
def Lifetime (sha256 : Digest) (personaId token : String) (t : List OwnerWorkspaceReply)
    (s : OwnerWorkspace) : Prop :=
  s.Orderly personaId ∧
  ((.withdrawn ∉ t ∧ s.record.visitorTokenSha256 = some (hashSecret sha256 token)) ∨
    (.withdrawn ∈ t ∧ ∀ {h}, s.record.visitorTokenSha256 = some h →
      ∃ token' ∈ tokens t, h = hashSecret sha256 token'))

theorem Lifetime.step {token : String} {r : List OwnerWorkspaceReply}
    (l : Lifetime sha256 personaId token t s) (h : (machine sha256 personaId).step s c = some (s', r)) :
    Lifetime sha256 personaId token (t ++ r) s' := by
  obtain ⟨o, l⟩ := l
  obtain ⟨rfl, rfl⟩ | ⟨reply, rfl, hc⟩ := o.step h
  case inl => simpa [Lifetime] using ⟨o, l⟩
  case inr =>
    refine ⟨hc.orderly o, ?_⟩
    generalize hr : s'.record = record at hc
    generalize s'.personaVersion = version at hc
    cases hc
    case published token' hn _ _ _ =>
      refine .inr ?_
      obtain ⟨_, hs⟩ | ⟨hw, _⟩ := l
      · obtain ⟨state, hp, hst⟩ := o.token.mp (by simp [hs])
        exact absurd hst (hn hp)
      · refine ⟨by simp [hw], fun hh => ⟨token', by simp [tokens], ?_⟩⟩
        simpa using hh.symm
    case withdrawn => exact .inr ⟨by simp, by simp⟩
    case refreshed => simpa [tokens] using l
    case unpublished hp hn =>
      have ht : s.record.visitorTokenSha256 = none := by
        by_contra ht
        obtain ⟨state, hs, _⟩ := o.token.mp (Option.isSome_iff_ne_none.mpr ht)
        simp [hp] at hs
      obtain ⟨_, hs⟩ | ⟨hw, _⟩ := l
      · simp [ht] at hs
      · exact .inr ⟨by simp [hw], by simp [ht]⟩

theorem Lifetime.visitorPermit_iff {token : String} (l : Lifetime sha256 personaId token t s)
    (hl : token.utf8ByteSize = 64) (hd : Distinct sha256 (token :: tokens t)) :
    (∃ permit, s.record.visitorPermit sha256 token = .ok permit) ↔ .withdrawn ∉ t := by
  rw [l.left.visitorPermit_iff]
  obtain ⟨hw, hs⟩ | ⟨hw, hs⟩ := l.right
  case inl =>
    refine ⟨fun _ => hw, fun _ => ⟨_, hs, ?_⟩⟩
    exact (tokenMatches_hashSecret_iff hl).mpr rfl
  case inr =>
    refine ⟨?_, fun h => absurd hw h⟩
    rintro ⟨h, hh, hm⟩
    obtain ⟨token', ht, rfl⟩ := hs hh
    have he := hd.injective (by simp [ht]) (by simp) ((tokenMatches_hashSecret_iff hl).mp hm)
    have hn := (List.nodup_cons.mp hd.nodup).left
    exact absurd (he ▸ ht) hn

-- What holds of a record in every state that it reaches.
structure Invariant (sha256 : Digest) (personaId : String) (s : OwnerWorkspace) : Prop where
  valid    : s.record.validate personaId s.personaVersion = .ok ()
  token    : s.record.visitorTokenSha256.isSome = true ↔
    ∃ state, s.record.publication = some state ∧ state.status = .published
  failing  : ∀ {c : OwnerWorkspaceCall} {e record},
    (c.call sha256 personaId s.personaVersion).run s.record = .error e record → record = s.record
  lifetime : ∀ {ownerToken ready random token record t s'},
    (Update.publish sha256 ownerToken personaId s.personaVersion ready random).run s.record =
      .ok token record →
    (machine sha256 personaId).Steps ⟨record, s.personaVersion⟩ t s' →
    Distinct sha256 (token :: tokens t) →
    ((∃ permit, s'.record.visitorPermit sha256 token = .ok permit) ↔ .withdrawn ∉ t)

theorem run_invariant (r : (machine sha256 personaId).Run t s) : s.Invariant sha256 personaId := by
  have o := run_orderly r
  refine ⟨o.validate, o.token, ?failing, ?lifetime⟩
  case failing =>
    intro c e record h
    obtain ⟨_, hc⟩ | ⟨_, _, hc, _⟩ := o.call sha256 c <;> rw [hc] at h <;> cases h
    rfl
  case lifetime =>
    intro ownerToken ready random token record t' s' h e hd
    have hc := o.publish (Update.publish_eq_ok h)
    have ⟨ht, hl⟩ := hc.token
    have l : Lifetime sha256 personaId token [] ⟨record, s.personaVersion⟩ :=
      ⟨hc.orderly o, .inl ⟨by simp, ht⟩⟩
    have l := e.preserves (P := Lifetime sha256 personaId token) Lifetime.step l
    exact Lifetime.visitorPermit_iff (by simpa using l) hl hd

-- A Persona that is published, served by the next process as well and then corrected.
theorem run_invariant_corrected : ∃ s token record t s' t' s'',
    (machine zeroDigest "persona").Run [] s ∧
    (Update.publish zeroDigest (hex (List.replicate 32 0)) "persona" s.personaVersion true zeros).run
      s.record = .ok token record ∧
    (machine zeroDigest "persona").Steps ⟨record, s.personaVersion⟩ t s' ∧
    (∃ permit, s'.record.visitorPermit zeroDigest token = .ok permit) ∧
    (machine zeroDigest "persona").Steps ⟨record, s.personaVersion⟩ t' s'' ∧
    ¬∃ permit, s''.record.visitorPermit zeroDigest token = .ok permit := by
  let token := hex (List.replicate 32 0)
  let owner := hex (List.replicate 16 0)
  let w : OwnerWorkspaceRecord := ⟨owner, hashSecret zeroDigest token, none, none⟩
  let record : OwnerWorkspaceRecord := ⟨owner, hashSecret zeroDigest token,
    some ⟨owner, owner, "persona", 3, .published, 2, false⟩, some (hashSecret zeroDigest token)⟩
  have r : (machine zeroDigest "persona").Run [] ⟨w, 3⟩ := ⟨⟨zeros, token, by decide +kernel⟩, .refl⟩
  have hp : w.publish zeroDigest token "persona" 3 true zeros = .ok (record, token) := by decide +kernel
  have h : (Update.publish zeroDigest token "persona" 3 true zeros).run w = .ok token record := by
    rw [Update.publish_eq, EStateM.atomically_run, hp]
  let published : OwnerWorkspace := ⟨record, 3⟩
  let restarted : List OwnerWorkspaceReply → Bool := (· = [.refreshed])
  let corrected : List OwnerWorkspaceReply → Bool := (· = [.refreshed, .withdrawn])
  have hr : ((machine zeroDigest "persona").replay published [.invalidateRestartLeases]).any
      (fun r => restarted r.2) = true := by
    decide +kernel
  have hr' : ((machine zeroDigest "persona").replay published
      [.invalidateRestartLeases, .correctPersona 4]).any (fun r => corrected r.2) = true := by
    decide +kernel
  obtain ⟨t, s', e, ht⟩ := Machine.Steps.exists_of_replay (p := restarted) _ hr
  obtain ⟨t', s'', e', ht'⟩ := Machine.Steps.exists_of_replay (p := corrected) _ hr'
  obtain rfl := of_decide_eq_true ht
  obtain rfl := of_decide_eq_true ht'
  have hd : Distinct zeroDigest [token] := ⟨by simp, by simp⟩
  have i := run_invariant r
  exact ⟨_, token, record, _, s', _, s'', r, h, e, (i.lifetime h e hd).mpr (by simp), e',
    fun hv => (i.lifetime h e' hd).mp hv (by simp)⟩

end OwnerWorkspace
