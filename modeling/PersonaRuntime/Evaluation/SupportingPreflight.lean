import PersonaRuntime.Evaluation.ExitEvidence

def rt0SupportingPreflightSchema : String :=
  "rt0-supporting-evidence-preflight-0.2"

-- The ten supporting artifacts, for the preflight as for the verifier
structure Rt0SupportingArtifacts where
  ci                  : List UInt8
  e2e                 : List UInt8
  ownerConversation   : List UInt8
  visitorConversation : List UInt8
  acceptance          : List UInt8
  quality             : List UInt8
  cost                : List UInt8
  privacyPermissions  : List UInt8
  humanEvaluation     : List UInt8
  knownLimitations    : List UInt8

structure Rt0SupportingArtifactDigests where
  ci                  : String
  e2e                 : String
  ownerConversation   : String
  visitorConversation : String
  acceptance          : String
  quality             : String
  cost                : String
  privacyPermissions  : String
  humanEvaluation     : String
  knownLimitations    : String

structure Rt0SupportingPreflightReport where
  schemaVersion                : String
  candidateSha                 : String
  providerStateSha256          : String
  knownLimitationsReviewStatus : CheckStatus
  preflightComplete            : Bool
  artifactDigests              : Rt0SupportingArtifactDigests

inductive Rt0SupportingPreflightError
  | invalidCandidate
  | invalidProviderState
  | invalidJson
  | candidateMismatch
  | providerStateMismatch
  | originNotReal
  | participantRoleMismatch
  | invalidQuality
  | incompleteHumanReview
  | invalidKnownLimitations
deriving DecidableEq, Repr

abbrev Preflight := Except Rt0SupportingPreflightError

namespace Rt0SupportingPreflight

-- `.map_err(|_| error)`
def orElse {α : Type} (error : Rt0SupportingPreflightError) : Option α → Preflight α
  | some a => .ok a
  | none   => .error error

def require (error : Rt0SupportingPreflightError) (holds : Bool) : Preflight Unit :=
  if holds then .ok () else .error error

def validateCandidate (candidateSha exactCandidateSha : String) : Preflight Unit :=
  if !validGitSha candidateSha then
    .error .invalidCandidate
  else if candidateSha ≠ exactCandidateSha then
    .error .candidateMismatch
  else
    .ok ()

def validateRealBinding (origin : EvidenceOrigin) (candidateSha providerStateSha256 exactCandidateSha
    exactProviderStateSha256 : String) : Preflight Unit := do
  if origin ≠ .real then
    .error .originNotReal
  validateCandidate candidateSha exactCandidateSha
  if providerStateSha256 ≠ exactProviderStateSha256 then
    .error .providerStateMismatch

end Rt0SupportingPreflight

-- The check of a distribution, of which `InvalidLatencyDistribution` is the only error
def LatencyDistributionMillis.isValid (d : LatencyDistributionMillis) : Bool :=
  d.samples ≠ 0 && d.p50 ≤ d.p95

def QualityFacts.distributions (q : QualityFacts) : List LatencyDistributionMillis :=
  [q.textFirstMeaningfulResponse, q.firstMeaningfulAudio, q.interruptionStop, q.firstUsefulVideo,
    q.avSyncAbsoluteOffset, q.recoverableReconnect]

-- `validate_quality_latencies`
def QualityFacts.validLatencies (q : QualityFacts) : Bool :=
  q.distributions.all (·.isValid)

-- `human_dimensions_complete`
def HumanDimensions.isComplete (d : HumanDimensions) : Bool :=
  [d.voiceSimilarity, d.voiceNaturalness, d.appearancePlausibility, d.personaSimilarity,
    d.conversationNaturalness].all (· = .recorded)

namespace ArtifactFormat

open Rt0SupportingPreflight

variable (F : ArtifactFormat)

def validateAutomated (bytes : List UInt8) (exactCandidateSha : String) : Preflight Unit := do
  let claim ← orElse .invalidJson <|
    F.fromSlice (FieldsCodec.automated.supporting .candidateWithAutomationReference).record.decode bytes
  validateCandidate claim.candidateSha exactCandidateSha
  require .invalidJson (EvidenceBinding.validSha256 claim.boundSha256)

-- The validators of the artifacts with evidence of a real run have this in common.
def validateReal {α : Type} (f : FieldsCodec α) (origin : α → EvidenceOrigin) (check : α → Preflight Unit)
    (bytes : List UInt8) (candidateSha providerStateSha256 : String) : Preflight Unit := do
  let claim ← orElse .invalidJson <| F.fromSlice (f.supporting .candidateAndProvider).record.decode bytes
  validateRealBinding (origin claim.facts) claim.candidateSha claim.boundSha256 candidateSha providerStateSha256
  check claim.facts

def validateConversation (role : ParticipantRole) :=
  F.validateReal .conversation (·.origin) fun c => require .participantRoleMismatch (c.role = role)

def validateAcceptance :=
  F.validateReal .acceptance (·.origin) fun _ => .ok ()

def validateQuality :=
  F.validateReal .quality (·.origin) fun q => require .invalidQuality q.validLatencies

def validateCost :=
  F.validateReal .cost (·.origin) fun _ => .ok ()

def validatePrivacy :=
  F.validateReal .privacy (·.origin) fun _ => .ok ()

def validateHuman :=
  F.validateReal .human (·.origin) fun h => require .incompleteHumanReview
    (!isBlank h.rubricVersion && h.reviewerCount.val ≠ 0 && h.dimensions.isComplete)

def preflightRt0SupportingArtifacts (artifacts : Rt0SupportingArtifacts) (providerStateBytes : List UInt8)
    (exactCandidateSha : String) : Preflight Rt0SupportingPreflightReport := do
  require .invalidCandidate (validGitSha exactCandidateSha)
  let providerState ← orElse .invalidProviderState <|
    F.fromSlice ProviderStateManifest.decode providerStateBytes
  require .invalidProviderState (providerState.schemaVersion = rt0ProviderStateSchema &&
    (validateProviderState providerState.providers).isOk)
  let providerStateSha256 := F.sha256Hex providerStateBytes
  F.validateAutomated artifacts.ci exactCandidateSha
  F.validateAutomated artifacts.e2e exactCandidateSha
  F.validateConversation .owner artifacts.ownerConversation exactCandidateSha providerStateSha256
  F.validateConversation .visitor artifacts.visitorConversation exactCandidateSha providerStateSha256
  F.validateAcceptance artifacts.acceptance exactCandidateSha providerStateSha256
  F.validateQuality artifacts.quality exactCandidateSha providerStateSha256
  F.validateCost artifacts.cost exactCandidateSha providerStateSha256
  F.validatePrivacy artifacts.privacyPermissions exactCandidateSha providerStateSha256
  F.validateHuman artifacts.humanEvaluation exactCandidateSha providerStateSha256
  let knownLimitationsReviewStatus ← orElse .invalidKnownLimitations <|
    parseKnownLimitationsReviewStatus artifacts.knownLimitations
  return {
    schemaVersion     := rt0SupportingPreflightSchema
    candidateSha      := exactCandidateSha
    providerStateSha256
    knownLimitationsReviewStatus
    preflightComplete := true
    artifactDigests   := {
      ci                  := F.sha256Hex artifacts.ci
      e2e                 := F.sha256Hex artifacts.e2e
      ownerConversation   := F.sha256Hex artifacts.ownerConversation
      visitorConversation := F.sha256Hex artifacts.visitorConversation
      acceptance          := F.sha256Hex artifacts.acceptance
      quality             := F.sha256Hex artifacts.quality
      cost                := F.sha256Hex artifacts.cost
      privacyPermissions  := F.sha256Hex artifacts.privacyPermissions
      humanEvaluation     := F.sha256Hex artifacts.humanEvaluation
      knownLimitations    := F.sha256Hex artifacts.knownLimitations } }

end ArtifactFormat
