import PersonaRuntime.Domain.ProfileReview
import PersonaRuntime.OwnerLab.Persistence

def ClaimKind.fromApiLabel : String → Option ClaimKind
  | "factual"        => some factual
  | "opinion"        => some opinion
  | "preference"     => some preference
  | "prediction"     => some prediction
  | "value_judgment" => some valueJudgment
  | _                => none

def SourceKind.fromApiLabel : String → Option SourceKind
  | "owner"    => some owner
  | "user"     => some user
  | "document" => some document
  | "web"      => some web
  | "tool"     => some tool
  | "model"    => some model
  | _          => none

def VerificationState.fromApiLabel : String → Option VerificationState
  | "unverified"      => some unverified
  | "corroborated"    => some corroborated
  | "owner_verified"  => some ownerVerified
  | "source_verified" => some sourceVerified
  | "disputed"        => some disputed
  | _                 => none

def DerivationKind.fromApiLabel : String → Option DerivationKind
  | "direct"     => some direct
  | "remembered" => some remembered
  | "inferred"   => some inferred
  | "summarized" => some summarized
  | "simulated"  => some simulated
  | _            => none

inductive OwnerContextError
  | profileNotReviewed
  | correctionRejected
  | persistenceFailed
deriving DecidableEq, Repr

-- The most revisions of one claim that a durable snapshot may hold.
def maxRetainedRevisions : Nat :=
  10000

-- A `ReviewedOwnerContext` is a profile that has passed `is_reviewed_profile`.
namespace ReviewedOwnerContext

def decodeRevision (r : DurableOwnerClaimRevisionSnapshot) : Option (Nat × OwnerClaim) := do
  let kind ← ClaimKind.fromApiLabel r.kind
  let source ← SourceKind.fromApiLabel r.source
  let verification ← VerificationState.fromApiLabel r.verification
  let derivation ← DerivationKind.fromApiLabel r.derivation
  return (r.revision, { statement := r.statement, kind, source, verification, derivation })

def decodeClaim (c : DurableReviewedOwnerClaimSnapshot) : Option OwnerClaimRecord := do
  if c.revisions.isEmpty ∨ c.revisions.length > maxRetainedRevisions then
    none
  let claimId ← (CanonicalId.new c.claimId).toOption
  let revisions ← c.revisions.mapM decodeRevision
  let record ← (OwnerClaimRecord.restoreRetainedHistory claimId revisions).toOption
  if record.hasCompleteHistory ≠ c.historyComplete then
    none
  return record

-- Every check of `from_durable_snapshot` fails with the same error.
def decode (s : DurableReviewedOwnerContextSnapshot) : Option PersonaProfile := do
  if s.personaVersion < 2 ∨ s.claims.isEmpty then
    none
  let personaId ← (CanonicalId.new s.personaId).toOption
  let version ← PersonaVersion.new s.personaVersion
  let records ← s.claims.mapM decodeClaim
  let profile ← (PersonaProfile.restoreReviewed ⟨personaId, version, .digitalTwin⟩ records).toOption
  if !profile.isReviewed then
    none
  if profile.durableSnapshot ≠ s then
    none
  return profile

def fromDurableSnapshot (s : DurableReviewedOwnerContextSnapshot) :
    Except OwnerContextError PersonaProfile :=
  match decode s with
  | some profile => .ok profile
  | none         => .error .profileNotReviewed

end ReviewedOwnerContext

inductive ProfileEvent
  | captureClaim (id : ClaimId) (claim : OwnerClaim)
  | markCaptureComplete
  | approveClaim (id : ClaimId)
  | correctClaim (id : ClaimId) (statement : String) (kind : ClaimKind)
  | approveInitialReview
  -- A process ends with the profile saved and the next one starts from the file.
  | restore
deriving DecidableEq

namespace PersonaProfile

-- What an event makes of a profile that it succeeds on.
def apply (p : PersonaProfile) : ProfileEvent → Option PersonaProfile
  | .captureClaim id claim =>
    ((OwnerClaimRecord.capture id claim).bind p.addCapturedClaim).toOption
  | .markCaptureComplete            => p.markCaptureComplete.toOption
  | .approveClaim id                => (p.approveClaim id).toOption
  | .correctClaim id statement kind => (p.correctClaim id statement kind).toOption
  | .approveInitialReview           => p.approveInitialReview.toOption
  | .restore                        => ReviewedOwnerContext.decode p.durableSnapshot

-- A digital twin from its creation or from any snapshot that could be loaded, which may hold only
-- the end of its history.
def machine : Machine PersonaProfile ProfileEvent Unit where
  init p := (∃ id version, p = .new ⟨id, version, .digitalTwin⟩) ∨
    ∃ s, ReviewedOwnerContext.fromDurableSnapshot s = .ok p
  step p e := (p.apply e).map (·, [])

end PersonaProfile
