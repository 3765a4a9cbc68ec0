import Mathlib.Data.List.DropRight
import PersonaRuntime.Evaluation.Binding
import PersonaRuntime.Text.Trim
import PersonaRuntime.Text.Utf8

def rt0ExitEvidenceSchema : String :=
  "rt0-exit-evidence-0.7"

inductive EvidenceOrigin
  | real
  | mock
  | synthetic
deriving DecidableEq, Repr

inductive CheckStatus
  | passed
  | failed
deriving DecidableEq, Repr

inductive RecordStatus
  | recorded
  | missing
  | deferredInterimVoice
deriving DecidableEq, Repr

abbrev U32 := { n : Nat // n ≤ u32Max }

abbrev U64 := { n : Nat // n ≤ u64Max }

-- A distribution as it is in a text
abbrev LatencyMillis :=
  { d : LatencyDistributionMillis // d.samples ≤ u32Max ∧ d.p50 ≤ u64Max ∧ d.p95 ≤ u64Max }

-- What a supporting artifact claims, apart from what it is bound to.

structure ConversationFacts where
  origin                : EvidenceOrigin
  role                  : ParticipantRole
  russian               : CheckStatus
  voice                 : CheckStatus
  video                 : CheckStatus
  completedTurns        : U32
  interruptionExercised : CheckStatus
deriving DecidableEq

structure AcceptanceFacts where
  origin              : EvidenceOrigin
  ownerHappyPath      : CheckStatus
  visitorHappyPath    : CheckStatus
  correctionPath      : CheckStatus
  failureRecoveryPath : CheckStatus
  revokeDenyPath      : CheckStatus
deriving DecidableEq

structure QualityFacts where
  origin                      : EvidenceOrigin
  textFirstMeaningfulResponse : LatencyMillis
  firstMeaningfulAudio        : LatencyMillis
  interruptionStop            : LatencyMillis
  firstUsefulVideo            : LatencyMillis
  avSyncAbsoluteOffset        : LatencyMillis
  recoverableReconnect        : LatencyMillis
deriving DecidableEq

structure CostFacts where
  origin                             : EvidenceOrigin
  estimatedCostCoveredProviderRoles  : List ProviderRole
  providerChargeCoveredProviderRoles : List ProviderRole
  measuredDurationMillis             : U64
  estimatedCostMicrounits            : Option U64
  providerChargeMicrounits           : Option U64
deriving DecidableEq

structure PrivacyFacts where
  origin                         : EvidenceOrigin
  permissionSuite                : CheckStatus
  acceptedPrivateContextLeakage  : U32
  acceptedFalseOwnerAttribution  : U32
  revocation                     : CheckStatus
  egressDenial                   : CheckStatus
deriving DecidableEq

structure HumanDimensions where
  voiceSimilarity         : RecordStatus
  voiceNaturalness        : RecordStatus
  appearancePlausibility  : RecordStatus
  personaSimilarity       : RecordStatus
  conversationNaturalness : RecordStatus
deriving DecidableEq

structure HumanFacts where
  origin                               : EvidenceOrigin
  rubricVersion                        : String
  reviewerCount                        : U32
  ownerHumanParticipantVerified        : CheckStatus
  visitorDistinctNonOwnerHumanVerified : CheckStatus
  dimensions                           : HumanDimensions
  usableForContinuation                : CheckStatus
deriving DecidableEq

-- A claim of the exit evidence: what an artifact says and the digest of the artifact.
structure Claimed (α : Type) where
  facts          : α
  artifactSha256 : String
deriving DecidableEq

abbrev ArtifactCheckEvidence := Claimed CheckStatus

abbrev ConversationEvidence := Claimed ConversationFacts

abbrev AcceptanceEvidence := Claimed AcceptanceFacts

abbrev QualityEvidence := Claimed QualityFacts

abbrev CostEvidence := Claimed CostFacts

abbrev PrivacyPermissionEvidence := Claimed PrivacyFacts

abbrev HumanEvaluationEvidence := Claimed HumanFacts

structure AutomatedEvidence where
  ci  : ArtifactCheckEvidence
  e2e : ArtifactCheckEvidence
deriving DecidableEq

structure ConversationPairEvidence where
  owner   : ConversationEvidence
  visitor : ConversationEvidence
deriving DecidableEq

structure KnownLimitationsEvidence where
  reviewStatus   : CheckStatus
  documentSha256 : String
deriving DecidableEq

structure Rt0ExitEvidence where
  schemaVersion               : String
  candidateSha                : String
  releaseSpecSha256           : String
  goldenReportSha256          : String
  ownerGoldenSuiteSha256      : String
  ownerGoldenEvidenceSha256   : String
  ownerGoldenReportSha256     : String
  providerStateSha256         : String
  liveProviderProbeSha256     : String
  conversationAttemptSha256   : String
  boundSessionAggregateSha256 : String
  automated                   : AutomatedEvidence
  conversations               : ConversationPairEvidence
  acceptance                  : AcceptanceEvidence
  quality                     : QualityEvidence
  cost                        : CostEvidence
  privacyPermissions          : PrivacyPermissionEvidence
  humanEvaluation             : HumanEvaluationEvidence
  knownLimitations            : KnownLimitationsEvidence
deriving DecidableEq

-- What an artifact is bound to besides the candidate: the state of the providers, or a run of the
-- automation.
inductive ProjectionBinding
  | candidateWithAutomationReference
  | candidateAndProvider
deriving DecidableEq, Repr

def ProjectionBinding.key : ProjectionBinding → String
  | candidateWithAutomationReference => "evidence_reference_sha256"
  | candidateAndProvider             => "provider_state_sha256"

-- The record in an artifact
structure SupportingClaim (α : Type) where
  facts        : α
  candidateSha : String
  boundSha256  : String
deriving DecidableEq

-- The derived readers and writers.

def EvidenceOrigin.jsonName : EvidenceOrigin → String
  | real      => "real"
  | mock      => "mock"
  | synthetic => "synthetic"

def ParticipantRole.jsonName : ParticipantRole → String
  | owner   => "owner"
  | visitor => "visitor"

def CheckStatus.jsonName : CheckStatus → String
  | passed => "passed"
  | failed => "failed"

def RecordStatus.jsonName : RecordStatus → String
  | recorded             => "recorded"
  | missing              => "missing"
  | deferredInterimVoice => "DEFERRED_INTERIM_VOICE"

def EvidenceOrigin.json : JsonCodec EvidenceOrigin :=
  .variant [.real, .mock, .synthetic] (·.jsonName)

def ParticipantRole.json : JsonCodec ParticipantRole :=
  .variant [.owner, .visitor] (·.jsonName)

def CheckStatus.json : JsonCodec CheckStatus :=
  .variant [.passed, .failed] (·.jsonName)

def RecordStatus.json : JsonCodec RecordStatus :=
  .variant [.recorded, .missing, .deferredInterimVoice] (·.jsonName)

namespace FieldsCodec

def latency : FieldsCodec LatencyMillis :=
  ((field "samples" u32).both <| (field "p50" u64).both <| field "p95" u64).map
    (fun (samples, p50, p95) => ⟨⟨samples, p50, p95⟩, samples.2, p50.2, p95.2⟩)
    (fun d => (⟨d.val.samples, d.2.1⟩, ⟨d.val.p50, d.2.2.1⟩, ⟨d.val.p95, d.2.2.2⟩))

def automated : FieldsCodec CheckStatus :=
  field "status" CheckStatus.json

def conversation : FieldsCodec ConversationFacts :=
  ((field "origin" EvidenceOrigin.json).both <| (field "role" ParticipantRole.json).both <|
    (field "russian" CheckStatus.json).both <| (field "voice" CheckStatus.json).both <| (field "video" CheckStatus.json).both <|
    (field "completed_turns" u32).both <| field "interruption_exercised" CheckStatus.json).map
    (fun (origin, role, russian, voice, video, completedTurns, interruptionExercised) =>
      { origin, role, russian, voice, video, completedTurns, interruptionExercised })
    (fun c => (c.origin, c.role, c.russian, c.voice, c.video, c.completedTurns, c.interruptionExercised))

def acceptance : FieldsCodec AcceptanceFacts :=
  ((field "origin" EvidenceOrigin.json).both <| (field "owner_happy_path" CheckStatus.json).both <|
    (field "visitor_happy_path" CheckStatus.json).both <| (field "correction_path" CheckStatus.json).both <|
    (field "failure_recovery_path" CheckStatus.json).both <| field "revoke_deny_path" CheckStatus.json).map
    (fun (origin, ownerHappyPath, visitorHappyPath, correctionPath, failureRecoveryPath, revokeDenyPath) =>
      { origin, ownerHappyPath, visitorHappyPath, correctionPath, failureRecoveryPath, revokeDenyPath })
    (fun a => (a.origin, a.ownerHappyPath, a.visitorHappyPath, a.correctionPath, a.failureRecoveryPath,
      a.revokeDenyPath))

def quality : FieldsCodec QualityFacts :=
  ((field "origin" EvidenceOrigin.json).both <| (field "text_first_meaningful_response" latency.record).both <|
    (field "first_meaningful_audio" latency.record).both <| (field "interruption_stop" latency.record).both <|
    (field "first_useful_video" latency.record).both <| (field "av_sync_absolute_offset" latency.record).both <|
    field "recoverable_reconnect" latency.record).map
    (fun (origin, textFirstMeaningfulResponse, firstMeaningfulAudio, interruptionStop, firstUsefulVideo,
        avSyncAbsoluteOffset, recoverableReconnect) =>
      { origin, textFirstMeaningfulResponse, firstMeaningfulAudio, interruptionStop, firstUsefulVideo,
        avSyncAbsoluteOffset, recoverableReconnect })
    (fun q => (q.origin, q.textFirstMeaningfulResponse, q.firstMeaningfulAudio, q.interruptionStop,
      q.firstUsefulVideo, q.avSyncAbsoluteOffset, q.recoverableReconnect))

def cost : FieldsCodec CostFacts :=
  ((field "origin" EvidenceOrigin.json).both <| (field "estimated_cost_covered_provider_roles" ProviderRole.json.list).both <|
    (field "provider_charge_covered_provider_roles" ProviderRole.json.list).both <|
    (field "measured_duration_millis" u64).both <| (optionalField "estimated_cost_microunits" u64).both <|
    optionalField "provider_charge_microunits" u64).map
    (fun (origin, estimatedCostCoveredProviderRoles, providerChargeCoveredProviderRoles, measuredDurationMillis,
        estimatedCostMicrounits, providerChargeMicrounits) =>
      { origin, estimatedCostCoveredProviderRoles, providerChargeCoveredProviderRoles, measuredDurationMillis,
        estimatedCostMicrounits, providerChargeMicrounits })
    (fun c => (c.origin, c.estimatedCostCoveredProviderRoles, c.providerChargeCoveredProviderRoles,
      c.measuredDurationMillis, c.estimatedCostMicrounits, c.providerChargeMicrounits))

def privacy : FieldsCodec PrivacyFacts :=
  ((field "origin" EvidenceOrigin.json).both <| (field "permission_suite" CheckStatus.json).both <|
    (field "accepted_private_context_leakage" u32).both <| (field "accepted_false_owner_attribution" u32).both <|
    (field "revocation" CheckStatus.json).both <| field "egress_denial" CheckStatus.json).map
    (fun (origin, permissionSuite, acceptedPrivateContextLeakage, acceptedFalseOwnerAttribution, revocation,
        egressDenial) =>
      { origin, permissionSuite, acceptedPrivateContextLeakage, acceptedFalseOwnerAttribution, revocation,
        egressDenial })
    (fun p => (p.origin, p.permissionSuite, p.acceptedPrivateContextLeakage, p.acceptedFalseOwnerAttribution,
      p.revocation, p.egressDenial))

def dimensions : FieldsCodec HumanDimensions :=
  ((field "voice_similarity" RecordStatus.json).both <| (field "voice_naturalness" RecordStatus.json).both <|
    (field "appearance_plausibility" RecordStatus.json).both <| (field "persona_similarity" RecordStatus.json).both <|
    field "conversation_naturalness" RecordStatus.json).map
    (fun (voiceSimilarity, voiceNaturalness, appearancePlausibility, personaSimilarity, conversationNaturalness) =>
      { voiceSimilarity, voiceNaturalness, appearancePlausibility, personaSimilarity, conversationNaturalness })
    (fun d => (d.voiceSimilarity, d.voiceNaturalness, d.appearancePlausibility, d.personaSimilarity,
      d.conversationNaturalness))

def human : FieldsCodec HumanFacts :=
  ((field "origin" EvidenceOrigin.json).both <| (field "rubric_version" .text).both <|
    (field "reviewer_count" u32).both <| (field "owner_human_participant_verified" CheckStatus.json).both <|
    (field "visitor_distinct_non_owner_human_verified" CheckStatus.json).both <|
    (field "dimensions" dimensions.record).both <| field "usable_for_continuation" CheckStatus.json).map
    (fun (origin, rubricVersion, reviewerCount, ownerHumanParticipantVerified,
        visitorDistinctNonOwnerHumanVerified, dimensions, usableForContinuation) =>
      { origin, rubricVersion, reviewerCount, ownerHumanParticipantVerified,
        visitorDistinctNonOwnerHumanVerified, dimensions, usableForContinuation })
    (fun h => (h.origin, h.rubricVersion, h.reviewerCount, h.ownerHumanParticipantVerified,
      h.visitorDistinctNonOwnerHumanVerified, h.dimensions, h.usableForContinuation))

variable {α : Type} (f : FieldsCodec α)

-- The fields of a claim come before those of what it is bound to, in artifacts as in the exit evidence.
def claimed : FieldsCodec (Claimed α) :=
  (f.both (field "artifact_sha256" .text)).map (fun c => ⟨c.1, c.2⟩) (fun c => (c.facts, c.artifactSha256))

def supporting (binding : ProjectionBinding) : FieldsCodec (SupportingClaim α) :=
  (f.both <| (field "candidate_sha" .text).both <| field binding.key .text).map
    (fun c => ⟨c.1, c.2.1, c.2.2⟩) (fun c => (c.facts, c.candidateSha, c.boundSha256))

end FieldsCodec

-- `str::lines`, each of them trimmed. The `\r` of a line ending is trimmed as well.
def trimmedLines (text : String) : List (List Char) :=
  (text.toList.splitOn '\n').map trimmed

def parseKnownLimitationsReviewStatus (bytes : List UInt8) : Option CheckStatus := do
  let text ← fromUtf8 bytes
  match (trimmedLines text).filter (!·.isEmpty) with
  | first :: _ :: _ =>
    let first := first.dropWhile (· = '\uFEFF')
    if first = "RT0-Review-Status: passed".toList then some .passed
    else if first = "RT0-Review-Status: failed".toList then some .failed
    else none
  | _ => none
