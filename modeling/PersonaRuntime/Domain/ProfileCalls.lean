import PersonaRuntime.Domain.ProfileReview
import PersonaRuntime.Machine.Basic
import PersonaRuntime.Machine.Mutation

-- The methods of a record and of a profile that take `&mut self`, assignment by assignment.
namespace OwnerClaimRecord

abbrev Update := EStateM ProfileError OwnerClaimRecord

namespace Update

def replaceCurrent (claim : OwnerClaim) : Update Unit := do
  let nextRevision ← .check (fun e => e) (← get).current.revision.next
  let previous := (← get).current
  modify ({ · with current := ⟨nextRevision, claim⟩ })
  modify fun r => { r with previousRevisions := r.previousRevisions ++ [previous] }

def approve : Update Unit := do
  let claim := (← get).current.claim
  if claim.source ≠ .owner ∨ claim.derivation ≠ .direct then
    throw .invalidClaimProvenance
  else if claim.verification = .ownerVerified then
    return
  else
    replaceCurrent { claim with verification := .ownerVerified }

def correct (statement : String) (kind : ClaimKind) : Update Unit := do
  if isBlank statement then
    throw .blankClaimStatement
  else if statement.length > maxOwnerClaimChars then
    throw .claimStatementTooLong
  else
    replaceCurrent (corrected statement kind)

end Update

-- The fields of a record are private, so that every record comes out of these.
inductive Built : OwnerClaimRecord → Prop
  | capture {id claim r} : (capture id claim = .ok r) → Built r
  | restoreRetainedHistory {id revisions r} : (restoreRetainedHistory id revisions = .ok r) → Built r
  | approve {r} : (Built r) → Built (Update.approve.run r).state
  | correct {r} (statement kind) : (Built r) → Built ((Update.correct statement kind).run r).state

end OwnerClaimRecord

inductive TransactionalCorrectionError (ε : Type)
  | correction (e : ProfileError)
  | commit (e : ε)
deriving DecidableEq

namespace PersonaProfile

abbrev Update := EStateM ProfileError PersonaProfile

namespace Update

def requireState (expected : PersonaCaptureState) : Update Unit := do
  if (← get).captureState ≠ expected then
    throw .invalidCaptureState

def addCapturedClaim (record : OwnerClaimRecord) : Update Unit := do
  requireState .draft
  if (← get).claims.any (·.id = record.id) then
    throw .duplicateClaimId
  modify fun p => { p with claims := p.claims ++ [record] }

def markCaptureComplete : Update Unit := do
  requireState .draft
  if (← get).claims.isEmpty then
    throw .emptyCapture
  modify ({ · with captureState := .captured })

-- `self.claim_mut(id).ok_or(ClaimNotFound)?` followed by a call on the record.
def claimMut (id : ClaimId) (x : OwnerClaimRecord.Update Unit) : Update Unit :=
  .zoom claims (fun p claims => { p with claims }) (fun e => e) (.onFirst (·.id = id) .claimNotFound x)

def approveClaim (id : ClaimId) : Update Unit := do
  requireState .captured
  claimMut id .approve

def applyVersion (version : PersonaVersion) : Update Unit :=
  modify fun p => { p with identity := { p.identity with version } }

def nextVersion : Update PersonaVersion := do
  .check (fun _ => .personaVersionExhausted) (← get).identity.version.next

def correctClaim (id : ClaimId) (statement : String) (kind : ClaimKind) : Update Unit := do
  match (← get).captureState with
  | .draft    => throw .invalidCaptureState
  | .captured => claimMut id (.correct statement kind)
  | .reviewed =>
    let version ← nextVersion
    claimMut id (.correct statement kind)
    applyVersion version

def approveInitialReview : Update Unit := do
  requireState .captured
  if !(← get).claims.all (·.isOwnerReviewed) then
    throw .claimsNotReviewed
  applyVersion (← nextVersion)
  modify ({ · with captureState := .reviewed })

def correctClaimTransactional {ε : Type} (id : ClaimId) (statement : String) (kind : ClaimKind)
    (commit : PersonaProfile → Except ε Unit) :
    EStateM (TransactionalCorrectionError ε) PersonaProfile Unit := do
  match (← get).undo id with
  | none   => throw (.correction .claimNotFound)
  | some u =>
    .adaptExcept .correction (correctClaim id statement kind)
    match commit (← get) with
    | .ok _    => return
    | .error e =>
      modify (·.rollback u)
      throw (.commit e)

end Update

end PersonaProfile

inductive ProfileCall (ε : Type)
  | addCapturedClaim (record : { r : OwnerClaimRecord // r.Built })
  | markCaptureComplete
  | approveClaim (id : ClaimId)
  | correctClaim (id : ClaimId) (statement : String) (kind : ClaimKind)
  | correctClaimTransactional (id : ClaimId) (statement : String) (kind : ClaimKind)
    (commit : PersonaProfile → Except ε Unit)
  | approveInitialReview

open PersonaProfile in
def ProfileCall.call {ε : Type} :
    ProfileCall ε → EStateM (TransactionalCorrectionError ε) PersonaProfile Unit
  | addCapturedClaim record        => .adaptExcept .correction (Update.addCapturedClaim record.val)
  | markCaptureComplete            => .adaptExcept .correction Update.markCaptureComplete
  | approveClaim id                => .adaptExcept .correction (Update.approveClaim id)
  | correctClaim id statement kind => .adaptExcept .correction (Update.correctClaim id statement kind)
  | correctClaimTransactional id statement kind commit =>
    Update.correctClaimTransactional id statement kind commit
  | approveInitialReview           => .adaptExcept .correction Update.approveInitialReview

-- One profile from its creation or its restoration, with every call on it and what it returned.
def PersonaProfile.calls (ε : Type) : Machine PersonaProfile (ProfileCall ε)
    (Except (TransactionalCorrectionError ε) Unit) where
  init p := (∃ identity, p = .new identity) ∨
    ∃ identity claims, (∀ r ∈ claims, r.Built) ∧ restoreReviewed identity claims = .ok p
  step p c := let result := c.call.run p; some (result.state, [result.toExcept])
