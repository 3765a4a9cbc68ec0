import PersonaRuntime.Machine.Basic
import PersonaRuntime.OwnerLab.Workspace

namespace OwnerWorkspaceRecord

def invalidateRestartLeases (w : OwnerWorkspaceRecord) : Except String OwnerWorkspaceRecord :=
  match w.publication with
  | none          => .ok w
  | some snapshot => do
    let publication ← restore snapshot
    let publication ← (CanonicalPublication.invalidateRestartLeases.on publication).orMessage
      "publication epoch exhausted"
    return { w with publication := publication.durableSnapshot }

-- The publication that `publish` works on.
def restoreOrNew (w : OwnerWorkspaceRecord) (personaId : String) (personaVersion : Nat)
    (random : RandomSource) : Except String CanonicalPublication :=
  match w.publication with
  | some state => restore state
  | none       => do
    let publicationId ← generateToken random 16
    (CanonicalPublication.new w.ownerId personaId publicationId personaVersion).orMessage
      "invalid canonical publication"

-- The methods that take `&mut self`, assignment by assignment.
abbrev Update := EStateM String OwnerWorkspaceRecord

namespace Update

variable (sha256 : Digest)

def ofExcept {α : Type} (x : Except String α) : Update α :=
  .check (fun message => message) x

def setPublication (publication : CanonicalPublication) : Update Unit :=
  modify fun w => { w with publication := publication.durableSnapshot }

def setVisitorToken (visitorTokenSha256 : Option String) : Update Unit :=
  modify fun w => { w with visitorTokenSha256 }

def checkOwner (ownerToken : String) : Update Unit := do
  if !(← get).authenticateOwner sha256 ownerToken then
    throw "owner authorization denied"

def publish (ownerToken personaId : String) (personaVersion : Nat) (readinessAuthorized : Bool)
    (random : RandomSource) : Update String := do
  checkOwner sha256 ownerToken
  let w ← get
  let publication ← ofExcept (w.restoreOrNew personaId personaVersion random)
  if w.publication.any (·.personaId ≠ personaId) then
    throw "publication Persona mismatch"
  else
    let publication ← ofExcept <|
      ((CanonicalPublication.publish w.ownerId personaVersion readinessAuthorized).on
        publication).orMessage "publication denied"
    let visitorToken ← ofExcept (generateToken random 32)
    setVisitorToken (hashSecret sha256 visitorToken)
    setPublication publication
    return visitorToken

def changePublication (ownerToken : String) (operation : String → CanonicalPublication.Update Unit) :
    Update Unit := do
  checkOwner sha256 ownerToken
  let state ← ofExcept ((← get).publication.okOr "publication missing")
  let publication ← ofExcept (restore state)
  let publication ← ofExcept <|
    ((operation (← get).ownerId).on publication).orMessage "publication mutation denied"
  setPublication publication
  setVisitorToken none

def pause (ownerToken : String) : Update Unit :=
  changePublication sha256 ownerToken CanonicalPublication.pause

def unpublish (ownerToken : String) : Update Unit :=
  changePublication sha256 ownerToken CanonicalPublication.unpublish

def onPersonaCorrection (newPersonaVersion : Nat) : Update Unit := do
  match (← get).publication with
  | none          => return
  | some snapshot =>
    let publication ← ofExcept (restore snapshot)
    let publication ← ofExcept <|
      ((CanonicalPublication.correctPersona (← get).ownerId newPersonaVersion).on
        publication).orMessage "publication correction failed"
    setPublication publication
    setVisitorToken none

def invalidateRestartLeases : Update Unit := do
  match (← get).publication with
  | none          => return
  | some snapshot =>
    let publication ← ofExcept (restore snapshot)
    let publication ← ofExcept <|
      (CanonicalPublication.invalidateRestartLeases.on publication).orMessage
        "publication epoch exhausted"
    setPublication publication

end Update

end OwnerWorkspaceRecord

-- The record in the envelope of its Persona, of which only the version changes.
structure OwnerWorkspace where
  record         : OwnerWorkspaceRecord
  personaVersion : Nat
deriving DecidableEq

inductive OwnerWorkspaceCall
  | publish (ownerToken : String) (readinessAuthorized : Bool) (random : RandomSource)
  | pause (ownerToken : String)
  | unpublish (ownerToken : String)
  | invalidateRestartLeases
  -- A reviewed correction raises the version and tells the record in the same commit.
  | correctPersona (newPersonaVersion : Nat)

inductive OwnerWorkspaceReply
  | published (visitorToken : String)
  | withdrawn
  | refreshed
deriving DecidableEq

namespace OwnerWorkspaceCall

open OwnerWorkspaceRecord

variable (sha256 : Digest) (personaId : String)

-- A call on the record of a Persona at its current version.
def call (personaVersion : Nat) : OwnerWorkspaceCall → Update OwnerWorkspaceReply
  | publish ownerToken ready random =>
    .published <$> Update.publish sha256 ownerToken personaId personaVersion ready random
  | pause ownerToken                => (fun _ => .withdrawn) <$> Update.pause sha256 ownerToken
  | unpublish ownerToken            => (fun _ => .withdrawn) <$> Update.unpublish sha256 ownerToken
  | invalidateRestartLeases         => (fun _ => .refreshed) <$> Update.invalidateRestartLeases
  | correctPersona version          => (fun _ => .withdrawn) <$> Update.onPersonaCorrection version

-- The version after a call that succeeded.
def version (personaVersion : Nat) : OwnerWorkspaceCall → Nat
  | correctPersona newPersonaVersion => newPersonaVersion
  | _                                => personaVersion

end OwnerWorkspaceCall

namespace OwnerWorkspace

variable (sha256 : Digest) (personaId : String)

-- An error of the record aborts the commit, so that the version of the Persona stays as well.
def apply (s : OwnerWorkspace) (c : OwnerWorkspaceCall) : OwnerWorkspace × List OwnerWorkspaceReply :=
  match (c.call sha256 personaId s.personaVersion).run s.record with
  | .ok reply record => (⟨record, c.version s.personaVersion⟩, [reply])
  | .error _ record  => (⟨record, s.personaVersion⟩, [])

-- A record from its provisioning. A bump of the version goes up.
def machine : Machine OwnerWorkspace OwnerWorkspaceCall OwnerWorkspaceReply where
  init s   := ∃ random token, OwnerWorkspaceRecord.provision sha256 random = .ok (s.record, token)
  step s c := if s.personaVersion ≤ c.version s.personaVersion then some (s.apply sha256 personaId c) else none

end OwnerWorkspace
