import PersonaRuntime.Domain.Profile

def ClaimRevision.new (value : Nat) : Option ClaimRevision :=
  if h : 0 < value then some ⟨value, h⟩ else none

def validateCapturedClaim (claim : OwnerClaim) : Except ProfileError Unit :=
  if isBlank claim.statement then
    .error .blankClaimStatement
  else if claim.statement.length > maxOwnerClaimChars then
    .error .claimStatementTooLong
  else if claim.source ≠ .owner ∨ claim.verification ≠ .unverified ∨ claim.derivation ≠ .direct then
    .error .invalidClaimProvenance
  else
    .ok ()

def validateRestoredClaim (claim : OwnerClaim) (index : Nat) (startsAtInitial : Bool) :
    Except ProfileError Unit :=
  if isBlank claim.statement ∨ claim.statement.length > maxOwnerClaimChars ∨ claim.source ≠ .owner ∨
      claim.derivation ≠ .direct then
    .error .invalidClaimHistory
  else if claim.verification ≠ if startsAtInitial ∧ index = 0 then .unverified else .ownerVerified then
    .error .invalidClaimHistory
  else
    .ok ()

namespace OwnerClaimRecord

def capture (id : ClaimId) (claim : OwnerClaim) : Except ProfileError OwnerClaimRecord := do
  validateCapturedClaim claim
  return { id, previousRevisions := [], current := ⟨.initial, claim⟩ }

def approve (r : OwnerClaimRecord) : Except ProfileError OwnerClaimRecord :=
  if r.current.claim.source ≠ .owner ∨ r.current.claim.derivation ≠ .direct then
    .error .invalidClaimProvenance
  else if r.current.claim.verification = .ownerVerified then
    .ok r
  else
    r.replaceCurrent { r.current.claim with verification := .ownerVerified }

-- The check that a revision follows the one before it.
def follows (previous : Option ClaimRevision) (revision : ClaimRevision) : Except ProfileError Unit :=
  match previous with
  | none          => .ok ()
  | some previous => do
    if (← previous.next) ≠ revision then
      throw .invalidClaimHistory

-- The loop of `restore_retained_history`.
def restoreRevisions (startsAtInitial : Bool) (index : Nat) (previous : Option ClaimRevision) :
    List (Nat × OwnerClaim) → Except ProfileError (List OwnerClaimRevision)
  | [] => .ok []
  | (number, claim) :: revisions =>
    match ClaimRevision.new number with
    | none          => .error .invalidClaimHistory
    | some revision => do
      follows previous revision
      validateRestoredClaim claim index startsAtInitial
      return ⟨revision, claim⟩ :: (← restoreRevisions startsAtInitial (index + 1) (some revision) revisions)

def restoreRetainedHistory (id : ClaimId) (revisions : List (Nat × OwnerClaim)) :
    Except ProfileError OwnerClaimRecord := do
  let startsAtInitial := revisions.head?.any (·.1 = ClaimRevision.initial.get)
  let restored ← restoreRevisions startsAtInitial 0 none revisions
  match restored.getLast? with
  | none         => .error .invalidClaimHistory
  | some current =>
    if current.claim.verification ≠ .ownerVerified then
      .error .invalidClaimHistory
    else
      .ok { id, previousRevisions := restored.dropLast, current }

end OwnerClaimRecord

-- The constitution boundary of a profile is fixed when it is created and is the strict one of a
-- digital twin throughout, so that it is left out.
namespace PersonaProfile

def new (identity : PersonaIdentity) : PersonaProfile where
  identity     := identity
  captureState := .draft
  claims       := []

def restoreReviewed (identity : PersonaIdentity) (claims : List OwnerClaimRecord) :
    Except ProfileError PersonaProfile :=
  if identity.version.get < 2 then
    .error .invalidReviewedProfileVersion
  else if claims.isEmpty then
    .error .emptyCapture
  else if claims.any (!·.isOwnerReviewed) then
    .error .claimsNotReviewed
  else if ¬(claims.map (·.id)).Nodup then
    .error .duplicateClaimId
  else
    .ok { identity, captureState := .reviewed, claims }

def addCapturedClaim (p : PersonaProfile) (record : OwnerClaimRecord) :
    Except ProfileError PersonaProfile :=
  if p.captureState ≠ .draft then
    .error .invalidCaptureState
  else if p.claims.any (·.id = record.id) then
    .error .duplicateClaimId
  else
    .ok { p with claims := p.claims ++ [record] }

def markCaptureComplete (p : PersonaProfile) : Except ProfileError PersonaProfile :=
  if p.captureState ≠ .draft then
    .error .invalidCaptureState
  else if p.claims.isEmpty then
    .error .emptyCapture
  else
    .ok { p with captureState := .captured }

def approveClaim (p : PersonaProfile) (id : ClaimId) : Except ProfileError PersonaProfile :=
  if p.captureState ≠ .captured then
    .error .invalidCaptureState
  else do
    return { p with claims := ← onClaim id OwnerClaimRecord.approve p.claims }

def approveInitialReview (p : PersonaProfile) : Except ProfileError PersonaProfile :=
  if p.captureState ≠ .captured then
    .error .invalidCaptureState
  else if !p.claims.all (·.isOwnerReviewed) then
    .error .claimsNotReviewed
  else
    match p.identity.version.next with
    | .error _    => .error .personaVersionExhausted
    | .ok version => .ok { p with identity := { p.identity with version }, captureState := .reviewed }

end PersonaProfile
