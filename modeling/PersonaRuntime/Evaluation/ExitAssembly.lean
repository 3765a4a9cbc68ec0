import PersonaRuntime.Evaluation.RuntimeEvidence

structure Rt0ExitAssemblyInputs where
  supporting                 : Rt0SupportingArtifacts
  boundGoldenReportBytes     : List UInt8
  ownerGoldenSuiteBytes      : List UInt8
  ownerGoldenEvidenceBytes   : List UInt8
  ownerGoldenReportBytes     : List UInt8
  providerStateBytes         : List UInt8
  liveProviderProbeBytes     : List UInt8
  conversationAttemptBytes   : List UInt8
  boundSessionAggregateBytes : List UInt8
  releaseSpecBytes           : List UInt8
  exactCandidateSha          : String

inductive Rt0ExitAssemblyError
  | supportingEvidenceInvalid
  | goldenReportInvalid
  | ownerGoldenInvalid
  | goldenCandidateMismatch
  | goldenReleaseSpecMismatch
  | goldenProviderStateMismatch
  | liveProviderProbeInvalid
  | conversationAttemptInvalid
  | conversationCandidateMismatch
  | conversationProviderStateMismatch
  | boundSessionAggregateInvalid
  | sessionCandidateMismatch
  | sessionProviderStateMismatch
  | browserQualityMismatch
  | runtimeCostMismatch
  | supportingProjectionInvalid
deriving DecidableEq, Repr

abbrev Assembly := Except Rt0ExitAssemblyError

namespace Assembly

-- `.map_err(|_| error)` of a parser and of a validator

def orElse {α : Type} (error : Rt0ExitAssemblyError) : Option α → Assembly α
  | some a => .ok a
  | none   => .error error

def orFail {α ε : Type} (error : Rt0ExitAssemblyError) (result : Except ε α) : Assembly α :=
  result.mapError fun _ => error

def require (error : Rt0ExitAssemblyError) (holds : Bool) : Assembly Unit :=
  if holds then .ok () else .error error

-- The errors that runtime evidence of another candidate or provider state is told apart by.
def ofGate {α : Type} (candidate providerState invalid : Rt0ExitAssemblyError) (result : ExitGate α) : Assembly α :=
  result.mapError fun error =>
    if error = .runtimeEvidenceCandidateMismatch then candidate
    else if error = .runtimeEvidenceProviderStateMismatch then providerState
    else invalid

end Assembly

namespace ArtifactFormat

variable (F : ArtifactFormat)

def validateCoreArtifacts (inputs : Rt0ExitAssemblyInputs) (providerStateSha256 : String) :
    Assembly BoundLabSessionEvidenceAggregate := do
  let providerState ← .orElse .goldenProviderStateMismatch <|
    F.fromSlice ProviderStateManifest.decode inputs.providerStateBytes
  let golden ← .orElse .goldenReportInvalid <| F.fromSlice BoundGoldenReport.decode inputs.boundGoldenReportBytes
  Assembly.require .goldenReportInvalid (golden.binding.schemaVersion = rt0EvidenceBindingSchema)
  Assembly.require .goldenCandidateMismatch (golden.binding.candidateSha = inputs.exactCandidateSha)
  Assembly.require .goldenReleaseSpecMismatch
    (golden.binding.releaseSpecSha256 = F.sha256Hex inputs.releaseSpecBytes)
  Assembly.require .goldenProviderStateMismatch
    (golden.binding.providerStateSha256 = providerStateSha256 && golden.providerState = providerState)
  let ownerSuite ← .orElse .ownerGoldenInvalid <| F.fromSlice GoldenSuite.decode inputs.ownerGoldenSuiteBytes
  let ownerBundle ← .orElse .ownerGoldenInvalid <|
    F.fromSlice GoldenEvidenceBundle.decode inputs.ownerGoldenEvidenceBytes
  let ownerReport ← .orElse .ownerGoldenInvalid <|
    F.fromSlice BoundGoldenReport.decode inputs.ownerGoldenReportBytes
  let ownerRecomputed ← .orFail .ownerGoldenInvalid <| F.evaluateBoundOwnerGoldenSuite ownerSuite ownerBundle {
    suiteBytes         := inputs.ownerGoldenSuiteBytes
    releaseSpecBytes   := inputs.releaseSpecBytes
    providerState      := providerState
    providerStateBytes := inputs.providerStateBytes
    evidenceBytes      := inputs.ownerGoldenEvidenceBytes
    exactCandidateSha  := inputs.exactCandidateSha }
  Assembly.require .ownerGoldenInvalid (ownerRecomputed = ownerReport)
  let probe ← .orElse .liveProviderProbeInvalid <|
    F.fromSlice LiveProviderProbeReceipt.decode inputs.liveProviderProbeBytes
  Assembly.orFail .liveProviderProbeInvalid <|
    validateLiveProviderProbe probe inputs.exactCandidateSha providerStateSha256
  Assembly.ofGate .conversationCandidateMismatch .conversationProviderStateMismatch .conversationAttemptInvalid <|
    F.validateRt0ConversationAttemptArtifact inputs.conversationAttemptBytes inputs.exactCandidateSha
      providerStateSha256
  let session ← .orElse .boundSessionAggregateInvalid <|
    F.fromSlice BoundLabSessionEvidenceAggregate.decode inputs.boundSessionAggregateBytes
  Assembly.ofGate .sessionCandidateMismatch .sessionProviderStateMismatch .boundSessionAggregateInvalid <|
    validateBoundSessionAggregate session inputs.exactCandidateSha providerStateSha256
  return session

-- The record of an artifact without what it is bound to and with the digest of the artifact
def projectedMembers (members : JsonMembers) (artifactSha256 : String) (binding : ProjectionBinding) :
    Option JsonMembers := do
  let _ ← members.lookup "candidate_sha"
  let members := members.remove "candidate_sha"
  let _ ← members.lookup binding.key
  let members := members.remove binding.key
  return members.insert "artifact_sha256" (.string artifactSha256)

def projectedClaim {α : Type} (f : FieldsCodec α) (bytes : List UInt8) (artifactSha256 : String)
    (binding : ProjectionBinding) : Assembly (Claimed α) :=
  .orElse .supportingProjectionInvalid <| do
    match (← F.parse bytes).value with
    | .object members => f.claimed.record.decode (.object (← projectedMembers members artifactSha256 binding))
    | _               => none

def assembleRt0ExitEvidence (inputs : Rt0ExitAssemblyInputs) : Assembly Rt0ExitEvidence := do
  let supporting ← .orFail .supportingEvidenceInvalid <|
    F.preflightRt0SupportingArtifacts inputs.supporting inputs.providerStateBytes inputs.exactCandidateSha
  let session ← F.validateCoreArtifacts inputs supporting.providerStateSha256
  let digests := supporting.artifactDigests
  let ci ← F.projectedClaim .automated inputs.supporting.ci digests.ci .candidateWithAutomationReference
  let e2e ← F.projectedClaim .automated inputs.supporting.e2e digests.e2e .candidateWithAutomationReference
  let owner ← F.projectedClaim .conversation inputs.supporting.ownerConversation digests.ownerConversation
    .candidateAndProvider
  let visitor ← F.projectedClaim .conversation inputs.supporting.visitorConversation digests.visitorConversation
    .candidateAndProvider
  let acceptance ← F.projectedClaim .acceptance inputs.supporting.acceptance digests.acceptance .candidateAndProvider
  let quality ← F.projectedClaim .quality inputs.supporting.quality digests.quality .candidateAndProvider
  let cost ← F.projectedClaim .cost inputs.supporting.cost digests.cost .candidateAndProvider
  let privacyPermissions ← F.projectedClaim .privacy inputs.supporting.privacyPermissions
    digests.privacyPermissions .candidateAndProvider
  let humanEvaluation ← F.projectedClaim .human inputs.supporting.humanEvaluation digests.humanEvaluation
    .candidateAndProvider
  let evidence : Rt0ExitEvidence := {
    schemaVersion               := rt0ExitEvidenceSchema
    candidateSha                := inputs.exactCandidateSha
    releaseSpecSha256           := F.sha256Hex inputs.releaseSpecBytes
    goldenReportSha256          := F.sha256Hex inputs.boundGoldenReportBytes
    ownerGoldenSuiteSha256      := F.sha256Hex inputs.ownerGoldenSuiteBytes
    ownerGoldenEvidenceSha256   := F.sha256Hex inputs.ownerGoldenEvidenceBytes
    ownerGoldenReportSha256     := F.sha256Hex inputs.ownerGoldenReportBytes
    providerStateSha256         := supporting.providerStateSha256
    liveProviderProbeSha256     := F.sha256Hex inputs.liveProviderProbeBytes
    conversationAttemptSha256   := F.sha256Hex inputs.conversationAttemptBytes
    boundSessionAggregateSha256 := F.sha256Hex inputs.boundSessionAggregateBytes
    automated                   := ⟨ci, e2e⟩
    conversations               := ⟨owner, visitor⟩
    acceptance, quality, cost, privacyPermissions, humanEvaluation
    knownLimitations            := ⟨supporting.knownLimitationsReviewStatus, digests.knownLimitations⟩ }
  Assembly.orFail .browserQualityMismatch <| validateSessionQualityBinding evidence.quality.facts session.aggregate
  Assembly.orFail .runtimeCostMismatch <| validateSessionCostBinding evidence.cost.facts session.aggregate
  return evidence

-- The digests of the evidence with the artifacts they are of
def boundArtifacts (evidence : Rt0ExitEvidence) (artifacts : Rt0SupportingArtifacts) :
    List (String × List UInt8) := [
  (evidence.automated.ci.artifactSha256, artifacts.ci),
  (evidence.automated.e2e.artifactSha256, artifacts.e2e),
  (evidence.conversations.owner.artifactSha256, artifacts.ownerConversation),
  (evidence.conversations.visitor.artifactSha256, artifacts.visitorConversation),
  (evidence.acceptance.artifactSha256, artifacts.acceptance),
  (evidence.quality.artifactSha256, artifacts.quality),
  (evidence.cost.artifactSha256, artifacts.cost),
  (evidence.privacyPermissions.artifactSha256, artifacts.privacyPermissions),
  (evidence.humanEvaluation.artifactSha256, artifacts.humanEvaluation),
  (evidence.knownLimitations.documentSha256, artifacts.knownLimitations)]

def validateSupportingArtifactDigests (evidence : Rt0ExitEvidence) (artifacts : Rt0SupportingArtifacts) :
    ExitGate Unit :=
  ExitGate.require .invalidArtifactDigest <| (boundArtifacts evidence artifacts).all fun (digest, bytes) =>
    EvidenceBinding.validSha256 digest && digest = F.sha256Hex bytes

def validateAutomatedSupportingClaim (bytes : List UInt8) (claim : ArtifactCheckEvidence) (candidateSha : String) :
    ExitGate Unit := do
  let actual ← .orElse .invalidArtifactDigest <|
    F.fromSlice (FieldsCodec.automated.supporting .candidateWithAutomationReference).record.decode bytes
  ExitGate.require .invalidArtifactDigest (actual.facts = claim.facts && actual.candidateSha = candidateSha &&
    EvidenceBinding.validSha256 actual.boundSha256)

-- `claim_without_digest`, to which the binding is added
def realClaimMembers (members : JsonMembers) (candidateSha providerStateSha256 : String) : JsonMembers :=
  ((members.remove "artifact_sha256").insert "candidate_sha" (.string candidateSha)).insert "provider_state_sha256"
    (.string providerStateSha256)

def realClaimWithoutDigest {α : Type} (f : FieldsCodec α) (claim : Claimed α)
    (candidateSha providerStateSha256 : String) : ExitGate Json :=
  .orElse .invalidArtifactDigest <|
    match f.claimed.record.encode claim with
    | .object members =>
      (members.lookup "artifact_sha256").map fun _ =>
        .object (realClaimMembers members candidateSha providerStateSha256)
    | _               => none

def validateSupportingClaims (evidence : Rt0ExitEvidence) (artifacts : Rt0SupportingArtifacts) :
    ExitGate Unit := do
  F.validateAutomatedSupportingClaim artifacts.ci evidence.automated.ci evidence.candidateSha
  F.validateAutomatedSupportingClaim artifacts.e2e evidence.automated.e2e evidence.candidateSha
  let real {α : Type} (f : FieldsCodec α) (claim : Claimed α) :=
    realClaimWithoutDigest f claim evidence.candidateSha evidence.providerStateSha256
  let claims := [
    (artifacts.ownerConversation, ← real .conversation evidence.conversations.owner),
    (artifacts.visitorConversation, ← real .conversation evidence.conversations.visitor),
    (artifacts.acceptance, ← real .acceptance evidence.acceptance),
    (artifacts.quality, ← real .quality evidence.quality),
    (artifacts.cost, ← real .cost evidence.cost),
    (artifacts.privacyPermissions, ← real .privacy evidence.privacyPermissions),
    (artifacts.humanEvaluation, ← real .human evidence.humanEvaluation)]
  ExitGate.require .invalidArtifactDigest <| claims.all fun (bytes, expected) =>
    (F.parse bytes).any (·.value = expected)
  let reviewStatus ← .orElse .invalidArtifactDigest (parseKnownLimitationsReviewStatus artifacts.knownLimitations)
  ExitGate.require .invalidArtifactDigest (reviewStatus = evidence.knownLimitations.reviewStatus)

def validateRt0ExitSupportingArtifacts (evidence : Rt0ExitEvidence) (artifacts : Rt0SupportingArtifacts) :
    ExitGate Unit := do
  F.validateSupportingArtifactDigests evidence artifacts
  F.validateSupportingClaims evidence artifacts

end ArtifactFormat
