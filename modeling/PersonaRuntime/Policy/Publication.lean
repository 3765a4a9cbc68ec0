import PersonaRuntime.Machine.Basic
import PersonaRuntime.Policy.Authorization

structure PublicationAccess where
  publicationOwner        : String
  personaOwner            : String
  publishedPersona        : String
  currentPersona          : String
  publishedPersonaVersion : Nat
  currentPersonaVersion   : Nat
  published               : Bool
  visitorAuthorized       : Bool
  lease                   : AuthorizationSnapshot
  nowMillis               : Nat
deriving DecidableEq

inductive PublicationAccessDenial
  | unauthenticated
  | ownerMismatch
  | personaMismatch
  | notPublished
  | stalePersonaVersion
  | staleAuthorization
  | revoked
  | expired
deriving DecidableEq, Repr

def authorizePublicVisitor (access : PublicationAccess) (authority : AuthorizationState) :
    Except PublicationAccessDenial Unit :=
  if !access.visitorAuthorized then
    .error .unauthenticated
  else if access.publicationOwner = "" ∨ access.personaOwner = "" ∨
      access.publicationOwner ≠ access.personaOwner then
    .error .ownerMismatch
  else if access.publishedPersona = "" ∨ access.currentPersona = "" ∨
      access.publishedPersona ≠ access.currentPersona then
    .error .personaMismatch
  else if !access.published then
    .error .notPublished
  else if access.publishedPersonaVersion = 0 ∨
      access.publishedPersonaVersion ≠ access.currentPersonaVersion then
    .error .stalePersonaVersion
  else
    match authority.validate access.lease access.nowMillis with
    | .ok ()             => .ok ()
    | .error .staleEpoch => .error .staleAuthorization
    | .error .revoked    => .error .revoked
    | .error .expired    => .error .expired

inductive PublicationStatus
  | privateStatus
  | published
  | paused
  | unpublished
deriving DecidableEq, Repr

inductive PublicationError
  | ownerDenied
  | wrongPersona
  | wrongPublication
  | invalidVersion
  | invalidTransition
  | authEpochExhausted
  | visitorDenied (denial : PublicationAccessDenial)
deriving DecidableEq, Repr

structure CanonicalPublicationSnapshot where
  publicationId        : String
  ownerId              : String
  personaId            : String
  personaVersion       : Nat
  status               : PublicationStatus
  authorizationEpoch   : Nat
  authorizationRevoked : Bool
deriving DecidableEq, Repr

structure VisitorPermit where
  publicationId  : String
  ownerId        : String
  personaId      : String
  personaVersion : Nat
  snapshot       : AuthorizationSnapshot
deriving DecidableEq, Repr

def VisitorPermit.matchesPersona (p : VisitorPermit) (personaId : String) (personaVersion : Nat) :
    Bool :=
  p.personaId = personaId && p.personaVersion = personaVersion

structure CanonicalPublication where
  publicationId  : String
  ownerId        : String
  personaId      : String
  personaVersion : Nat
  status         : PublicationStatus
  authority      : AuthorizationState
deriving DecidableEq, Repr

namespace CanonicalPublication

def new (ownerId personaId publicationId : String) (version : Nat) :
    Except PublicationError CanonicalPublication :=
  if isBlank ownerId ∨ isBlank personaId ∨ isBlank publicationId ∨ version = 0 then
    .error .invalidVersion
  else
    .ok {
      publicationId, ownerId, personaId
      personaVersion := version
      status         := .privateStatus
      authority      := .new none }

def durableSnapshot (p : CanonicalPublication) : CanonicalPublicationSnapshot where
  publicationId        := p.publicationId
  ownerId              := p.ownerId
  personaId            := p.personaId
  personaVersion       := p.personaVersion
  status               := p.status
  authorizationEpoch   := p.authority.epoch.get
  authorizationRevoked := p.authority.revoked

def fromDurableSnapshot (state : CanonicalPublicationSnapshot) :
    Except PublicationError CanonicalPublication :=
  if isBlank state.ownerId ∨ isBlank state.personaId ∨ isBlank state.publicationId ∨
      state.personaVersion = 0 ∨ (state.status = .published ∧ state.authorizationRevoked) ∨
      ((state.status = .paused ∨ state.status = .unpublished) ∧ !state.authorizationRevoked) then
    .error .invalidVersion
  else
    match AuthorizationState.fromPersisted state.authorizationEpoch state.authorizationRevoked none with
    | none           => .error .invalidVersion
    | some authority => .ok {
        publicationId  := state.publicationId
        ownerId        := state.ownerId
        personaId      := state.personaId
        personaVersion := state.personaVersion
        status         := state.status
        authority }

abbrev Update := EStateM PublicationError CanonicalPublication

def onAuthority (x : AuthorizationState.Update Unit) : Update Unit :=
  .zoom authority (fun p authority => { p with authority }) (fun _ => .authEpochExhausted) x

def revokeAuthority : Update Unit :=
  onAuthority AuthorizationState.revoke

def checkOwner (owner : String) : Update Unit := do
  if owner ≠ (← get).ownerId then
    throw .ownerDenied

def invalidateRestartLeases : Update Unit := do
  if (← get).status = .published then
    onAuthority (AuthorizationState.replace none)
  else
    onAuthority AuthorizationState.revoke

def publish (authenticatedOwner : String) (currentPersonaVersion : Nat) (readinessAuthorized : Bool) :
    Update Unit := do
  checkOwner authenticatedOwner
  if !readinessAuthorized then
    throw .ownerDenied
  if currentPersonaVersion ≠ (← get).personaVersion then
    throw .invalidVersion
  if (← get).status = .published then
    throw .invalidTransition
  onAuthority (AuthorizationState.replace none)
  modify ({ · with status := .published })

def pause (authenticatedOwner : String) : Update Unit := do
  checkOwner authenticatedOwner
  if (← get).status ≠ .published then
    throw .invalidTransition
  revokeAuthority
  modify ({ · with status := .paused })

def unpublish (authenticatedOwner : String) : Update Unit := do
  checkOwner authenticatedOwner
  if (← get).status = .unpublished ∨ (← get).status = .privateStatus then
    throw .invalidTransition
  revokeAuthority
  modify ({ · with status := .unpublished })

def correctPersona (authenticatedOwner : String) (newVersion : Nat) : Update Unit := do
  checkOwner authenticatedOwner
  if newVersion ≤ (← get).personaVersion then
    throw .invalidVersion
  revokeAuthority
  modify ({ · with personaVersion := newVersion })
  modify ({ · with status := .unpublished })

def visitorLease (p : CanonicalPublication) (visitorAuthenticated : Bool) :
    Except PublicationError VisitorPermit :=
  if !visitorAuthenticated ∨ p.status ≠ .published then
    .error (.visitorDenied .unauthenticated)
  else
    .ok {
      publicationId  := p.publicationId
      ownerId        := p.ownerId
      personaId      := p.personaId
      personaVersion := p.personaVersion
      snapshot       := p.authority.snapshot }

def authorizeVisitor (p : CanonicalPublication) (visitorAuthenticated : Bool)
    (currentOwner currentPersona : String) (currentVersion : Nat) (permit : VisitorPermit)
    (nowMillis : Nat) : Except PublicationError Unit :=
  if permit.publicationId ≠ p.publicationId ∨ permit.ownerId ≠ p.ownerId ∨
      permit.personaId ≠ p.personaId ∨ permit.personaVersion ≠ p.personaVersion then
    .error .wrongPublication
  else
    (authorizePublicVisitor {
      publicationOwner        := p.ownerId
      personaOwner            := currentOwner
      publishedPersona        := p.personaId
      currentPersona          := currentPersona
      publishedPersonaVersion := p.personaVersion
      currentPersonaVersion   := currentVersion
      published               := p.status = .published
      visitorAuthorized       := visitorAuthenticated
      lease                   := permit.snapshot
      nowMillis               := nowMillis } p.authority).mapError .visitorDenied

end CanonicalPublication

-- The calls that may change the authority of a publication.
inductive PublicationCall
  | publish (authenticatedOwner : String) (currentPersonaVersion : Nat) (readinessAuthorized : Bool)
  | pause (authenticatedOwner : String)
  | unpublish (authenticatedOwner : String)
  | correctPersona (authenticatedOwner : String) (newVersion : Nat)
  | invalidateRestartLeases
deriving DecidableEq, Repr

def PublicationCall.call : PublicationCall → CanonicalPublication.Update Unit
  | publish owner version ready  => CanonicalPublication.publish owner version ready
  | pause owner                  => CanonicalPublication.pause owner
  | unpublish owner              => CanonicalPublication.unpublish owner
  | correctPersona owner version => CanonicalPublication.correctPersona owner version
  | invalidateRestartLeases      => CanonicalPublication.invalidateRestartLeases

inductive PublicationEvent
  | call (c : PublicationCall)
  -- The process ends and the next one restores the durable snapshot.
  | restart
deriving DecidableEq, Repr

structure PublicationCallResult where
  call   : PublicationCall
  result : Except PublicationError Unit

def CanonicalPublication.machine :
    Machine CanonicalPublication PublicationEvent PublicationCallResult where
  init p := ∃ ownerId personaId publicationId version,
    CanonicalPublication.new ownerId personaId publicationId version = .ok p
  step p
    | .call c  => let result := c.call.run p; some (result.state, [⟨c, result.toExcept⟩])
    | .restart =>
      match fromDurableSnapshot p.durableSnapshot with
      | .ok p'    => some (p', [])
      | .error _ => none
