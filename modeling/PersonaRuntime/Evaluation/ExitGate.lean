import PersonaRuntime.Evaluation.ExitAssembly

def rt0ExitReportSchema : String :=
  "rt0-exit-report-0.7"

inductive Rt0ExitFailureCode
  | goldenSetNotPassed
  | ownerGoldenSetNotPassed
  | ciNotPassed
  | e2eNotPassed
  | ownerConversationNotReal
  | ownerConversationIncomplete
  | ownerInterruptionNotExercised
  | visitorConversationNotReal
  | visitorConversationIncomplete
  | acceptanceEvidenceNotReal
  | acceptanceMatrixIncomplete
  | qualityEvidenceNotReal
  | textLatencyExceeded
  | audioLatencyExceeded
  | interruptionLatencyExceeded
  | videoLatencyExceeded
  | avSyncExceeded
  | reconnectLatencyExceeded
  | costEvidenceNotReal
  | costProviderCoverageIncomplete
  | costNotMeasured
  | privacyEvidenceNotReal
  | permissionSuiteNotPassed
  | privateContextLeakageAccepted
  | falseOwnerAttributionAccepted
  | revocationNotVerified
  | egressDenialNotVerified
  | humanEvaluationNotReal
  | ownerHumanParticipantNotVerified
  | visitorDistinctNonOwnerHumanNotVerified
  | humanEvaluationIncomplete
  | humanEvaluationNotUsable
  | knownLimitationsNotReviewed
deriving DecidableEq, Repr

structure Rt0ExitReport where
  schemaVersion                     : String
  candidateSha                      : String
  releaseSpecSha256                 : String
  providerStateSha256               : String
  goldenReportSha256                : String
  ownerGoldenSuiteSha256            : String
  ownerGoldenReportSha256           : String
  liveProviderProbeSha256           : String
  conversationAttemptSha256         : String
  boundSessionAggregateSha256       : String
  exitEvidenceInputSha256           : String
  ready                             : Bool
  failures                          : List Rt0ExitFailureCode
  estimatedCostPerMinuteMicrounits  : Option Nat
  providerChargePerMinuteMicrounits : Option Nat
deriving DecidableEq, Repr

structure OwnerGoldenVerificationContext where
  suite          : GoldenSuite
  suiteBytes     : List UInt8
  report         : BoundGoldenReport
  reportBytes    : List UInt8
  evidenceBundle : GoldenEvidenceBundle
  evidenceBytes  : List UInt8

structure Rt0ExitVerificationContext where
  exitEvidenceBytes          : List UInt8
  goldenReportBytes          : List UInt8
  goldenEvidenceBundle       : GoldenEvidenceBundle
  goldenEvidenceBytes        : List UInt8
  ownerGolden                : OwnerGoldenVerificationContext
  providerState              : ProviderStateManifest
  providerStateBytes         : List UInt8
  liveProviderProbe          : LiveProviderProbeReceipt
  liveProviderProbeBytes     : List UInt8
  conversationAttemptBytes   : List UInt8
  boundSessionAggregate      : BoundLabSessionEvidenceAggregate
  boundSessionAggregateBytes : List UInt8
  sessionSnapshotArtifacts   : List (List UInt8)
  releaseSpecBytes           : List UInt8
  exactCandidateSha          : String

-- The failures that an evaluator pushes, one condition after the other
def failIf (failed : Bool) (code : Rt0ExitFailureCode) : List Rt0ExitFailureCode :=
  if failed then [code] else []

def ConversationFacts.isComplete (c : ConversationFacts) : Bool :=
  c.russian = .passed && c.voice = .passed && c.video = .passed && 0 < c.completedTurns.val

def evaluateConversations (owner visitor : ConversationFacts) : List Rt0ExitFailureCode :=
  failIf (owner.origin ≠ .real) .ownerConversationNotReal ++
  failIf (!owner.isComplete) .ownerConversationIncomplete ++
  failIf (owner.interruptionExercised ≠ .passed) .ownerInterruptionNotExercised ++
  failIf (visitor.origin ≠ .real) .visitorConversationNotReal ++
  failIf (!visitor.isComplete) .visitorConversationIncomplete

def evaluateAcceptance (evidence : AcceptanceFacts) : List Rt0ExitFailureCode :=
  failIf (evidence.origin ≠ .real) .acceptanceEvidenceNotReal ++
  failIf (evidence.ownerHappyPath ≠ .passed || evidence.visitorHappyPath ≠ .passed ||
    evidence.correctionPath ≠ .passed || evidence.failureRecoveryPath ≠ .passed ||
    evidence.revokeDenyPath ≠ .passed) .acceptanceMatrixIncomplete

def evaluateQuality (evidence : QualityFacts) : List Rt0ExitFailureCode :=
  failIf (evidence.origin ≠ .real) .qualityEvidenceNotReal ++
  failIf (evidence.textFirstMeaningfulResponse.val.p50 > 1000 ||
    evidence.textFirstMeaningfulResponse.val.p95 > 2500) .textLatencyExceeded ++
  failIf (evidence.firstMeaningfulAudio.val.p50 > 1500 ||
    evidence.firstMeaningfulAudio.val.p95 > 3000) .audioLatencyExceeded ++
  failIf (evidence.interruptionStop.val.p95 > 500) .interruptionLatencyExceeded ++
  failIf (evidence.firstUsefulVideo.val.p95 > 2500) .videoLatencyExceeded ++
  failIf (evidence.avSyncAbsoluteOffset.val.p95 > 120) .avSyncExceeded ++
  failIf (evidence.recoverableReconnect.val.p95 > 5000) .reconnectLatencyExceeded

def coverageComplete (coveredProviderRoles : List ProviderRole) (requiresTts : Bool) : Bool :=
  coveredProviderRoles.toFinset.card = (if requiresTts then 4 else 3) && .stt ∈ coveredProviderRoles &&
    .llm ∈ coveredProviderRoles && .avatar ∈ coveredProviderRoles && (!requiresTts || .tts ∈ coveredProviderRoles)

def signalComplete (cost : Option U64) (coveredProviderRoles : List ProviderRole) (requiresTts : Bool) : Bool :=
  cost.isSome && coverageComplete coveredProviderRoles requiresTts

def evaluateCost (evidence : CostFacts) (requiresTts : Bool) : List Rt0ExitFailureCode :=
  let estimateComplete :=
    signalComplete evidence.estimatedCostMicrounits evidence.estimatedCostCoveredProviderRoles requiresTts
  let chargeComplete :=
    signalComplete evidence.providerChargeMicrounits evidence.providerChargeCoveredProviderRoles requiresTts
  failIf (evidence.origin ≠ .real) .costEvidenceNotReal ++
  failIf (!estimateComplete && !chargeComplete) .costProviderCoverageIncomplete ++
  failIf (evidence.measuredDurationMillis.val = 0 ||
    (evidence.estimatedCostMicrounits.isNone && evidence.providerChargeMicrounits.isNone)) .costNotMeasured

-- The product is one of 128 bits, for which a `u64` is always small enough.
def costPerMinute (evidence : CostFacts) (cost : Option U64) (coveredProviderRoles : List ProviderRole)
    (requiresTts : Bool) : Option Nat := do
  let cost ← cost
  if evidence.measuredDurationMillis.val = 0 ∨ !coverageComplete coveredProviderRoles requiresTts then
    none
  else
    let value := cost.val * 60000 / evidence.measuredDurationMillis.val
    if value ≤ u64Max then some value else none

def estimatedCostPerMinute (evidence : CostFacts) : Bool → Option Nat :=
  costPerMinute evidence evidence.estimatedCostMicrounits evidence.estimatedCostCoveredProviderRoles

def providerChargePerMinute (evidence : CostFacts) : Bool → Option Nat :=
  costPerMinute evidence evidence.providerChargeMicrounits evidence.providerChargeCoveredProviderRoles

def evaluatePrivacy (evidence : PrivacyFacts) : List Rt0ExitFailureCode :=
  failIf (evidence.origin ≠ .real) .privacyEvidenceNotReal ++
  failIf (evidence.permissionSuite ≠ .passed) .permissionSuiteNotPassed ++
  failIf (evidence.acceptedPrivateContextLeakage.val ≠ 0) .privateContextLeakageAccepted ++
  failIf (evidence.acceptedFalseOwnerAttribution.val ≠ 0) .falseOwnerAttributionAccepted ++
  failIf (evidence.revocation ≠ .passed) .revocationNotVerified ++
  failIf (evidence.egressDenial ≠ .passed) .egressDenialNotVerified

def voiceReviewValid (status : RecordStatus) (interimVoice : Bool) : Bool :=
  status = .recorded || interimVoice && status = .deferredInterimVoice

def evaluateHuman (evidence : HumanFacts) (interimVoice : Bool) : List Rt0ExitFailureCode :=
  failIf (evidence.origin ≠ .real) .humanEvaluationNotReal ++
  failIf (evidence.ownerHumanParticipantVerified ≠ .passed) .ownerHumanParticipantNotVerified ++
  failIf (evidence.visitorDistinctNonOwnerHumanVerified ≠ .passed) .visitorDistinctNonOwnerHumanNotVerified ++
  failIf (evidence.reviewerCount.val = 0 || !voiceReviewValid evidence.dimensions.voiceSimilarity interimVoice ||
    !voiceReviewValid evidence.dimensions.voiceNaturalness interimVoice ||
    evidence.dimensions.appearancePlausibility ≠ .recorded ||
    evidence.dimensions.personaSimilarity ≠ .recorded ||
    evidence.dimensions.conversationNaturalness ≠ .recorded) .humanEvaluationIncomplete ++
  failIf (evidence.usableForContinuation ≠ .passed) .humanEvaluationNotUsable

-- `failed != 0 || passed != total`
def GoldenReport.notPassed (golden : GoldenReport) : Bool :=
  golden.failed ≠ 0 || golden.passed ≠ golden.total

def ProviderStateManifest.requiresTts (providerState : ProviderStateManifest) : Bool :=
  providerState.providers.any (·.role = .tts)

def ProviderStateManifest.interimVoice (providerState : ProviderStateManifest) : Bool :=
  providerState.providers.any fun provider =>
    provider.role = .tts && provider.voiceProfileStatus = some "INTERIM"

-- The failures of evidence that is well formed, in the order they are reported in
def rt0ExitFailures (evidence : Rt0ExitEvidence) (golden ownerGolden : GoldenReport)
    (providerState : ProviderStateManifest) : List Rt0ExitFailureCode :=
  failIf golden.notPassed .goldenSetNotPassed ++
  failIf ownerGolden.notPassed .ownerGoldenSetNotPassed ++
  failIf (evidence.automated.ci.facts ≠ .passed) .ciNotPassed ++
  failIf (evidence.automated.e2e.facts ≠ .passed) .e2eNotPassed ++
  evaluateConversations evidence.conversations.owner.facts evidence.conversations.visitor.facts ++
  evaluateAcceptance evidence.acceptance.facts ++
  evaluateQuality evidence.quality.facts ++
  evaluateCost evidence.cost.facts providerState.requiresTts ++
  evaluatePrivacy evidence.privacyPermissions.facts ++
  evaluateHuman evidence.humanEvaluation.facts providerState.interimVoice ++
  failIf (evidence.knownLimitations.reviewStatus ≠ .passed) .knownLimitationsNotReviewed

-- The loop over the cases has one error, whatever is wrong with a case.
def validateGoldenReport (report : BoundGoldenReport) : ExitGate Unit := do
  if report.binding.schemaVersion ≠ rt0EvidenceBindingSchema ∨
      report.providerState.schemaVersion ≠ rt0ProviderStateSchema ∨
      report.golden.schemaVersion ≠ rt0GoldenSchema ∨
      !EvidenceBinding.validSha256 report.evidenceInputSha256 ∨
      !EvidenceBinding.validSha256 report.binding.releaseSpecSha256 ∨
      !EvidenceBinding.validSha256 report.binding.suiteSha256 ∨
      !EvidenceBinding.validSha256 report.binding.providerStateSha256 ∨
      report.golden.total = 0 ∨ report.golden.total ≠ report.golden.cases.length ∨
      checkedAdd report.golden.passed report.golden.failed ≠ some report.golden.total ∨
      !(validateProviderState report.providerState.providers).isOk then
    .error .goldenReportInvalid
  ExitGate.require .goldenReportInvalid <|
    report.golden.cases.all (fun c => !isBlank c.caseId && c.passed = c.failures.isEmpty) &&
      (report.golden.cases.map (·.caseId)).Nodup

def validateArtifactDigests (evidence : Rt0ExitEvidence) : ExitGate Unit :=
  ExitGate.require .invalidArtifactDigest <| [
    evidence.automated.ci.artifactSha256,
    evidence.automated.e2e.artifactSha256,
    evidence.conversations.owner.artifactSha256,
    evidence.conversations.visitor.artifactSha256,
    evidence.acceptance.artifactSha256,
    evidence.quality.artifactSha256,
    evidence.cost.artifactSha256,
    evidence.privacyPermissions.artifactSha256,
    evidence.humanEvaluation.artifactSha256,
    evidence.knownLimitations.documentSha256].all EvidenceBinding.validSha256

-- An interim voice has exactly one marker, and nothing else has any.
def voiceMarkerMatches (bytes : List UInt8) (expected : Option String) : Bool :=
  match fromUtf8 bytes with
  | none      => false
  | some text =>
    let markers := (trimmedLines text).filter ("RT0-Voice-Status:".toList.isPrefixOf ·)
    if expected = some "INTERIM" then markers = ["RT0-Voice-Status: INTERIM".toList] else markers.isEmpty

-- The claim that `conversation_evidence_from` derives, apart from its origin and digest. The count of the
-- proof is a `u32`.
structure ConversationProjection where
  role                  : ParticipantRole
  russian               : CheckStatus
  voice                 : CheckStatus
  video                 : CheckStatus
  completedTurns        : Nat
  interruptionExercised : CheckStatus
deriving DecidableEq, Repr

def conversationEvidenceFrom (turn : ConversationTurnBinding) (role : ParticipantRole)
    (proof : RoleConversationProof) : ConversationProjection where
  role                  := role
  russian               := .of (isRussianLocale turn.locale)
  voice                 :=
    .of (0 < proof.completedTurns && proof.playbackSessions = proof.sessionsWithCompletedTurns)
  video                 :=
    .of (0 < proof.completedTurns && proof.videoSessions = proof.sessionsWithCompletedTurns)
  completedTurns        := proof.completedTurns
  interruptionExercised := .of proof.interruptionExercised

structure Rt0RuntimeSupportingProjection where
  owner   : ConversationProjection
  visitor : ConversationProjection
  quality : List LatencyDistributionMillis
deriving DecidableEq, Repr

def LiveProviderProbeValidationError.toExit : LiveProviderProbeValidationError → Rt0ExitEvidenceError
  | invalid               => .liveProviderProbeInvalid
  | candidateMismatch     => .liveProviderProbeCandidateMismatch
  | providerStateMismatch => .liveProviderProbeProviderStateMismatch

def OwnerGoldenError.toExit : OwnerGoldenError → Rt0ExitEvidenceError
  | reportMismatch => .ownerGoldenRecomputeMismatch
  | _              => .ownerGoldenInvalid

def rt0ExitReport (evidence : Rt0ExitEvidence) (golden ownerGolden : GoldenReport)
    (providerState : ProviderStateManifest) (exitEvidenceInputSha256 : String) : Rt0ExitReport :=
  let failures := rt0ExitFailures evidence golden ownerGolden providerState
  { schemaVersion                     := rt0ExitReportSchema
    candidateSha                      := evidence.candidateSha
    releaseSpecSha256                 := evidence.releaseSpecSha256
    providerStateSha256               := evidence.providerStateSha256
    goldenReportSha256                := evidence.goldenReportSha256
    ownerGoldenSuiteSha256            := evidence.ownerGoldenSuiteSha256
    ownerGoldenReportSha256           := evidence.ownerGoldenReportSha256
    liveProviderProbeSha256           := evidence.liveProviderProbeSha256
    conversationAttemptSha256         := evidence.conversationAttemptSha256
    boundSessionAggregateSha256       := evidence.boundSessionAggregateSha256
    exitEvidenceInputSha256           := exitEvidenceInputSha256
    ready                             := failures.isEmpty
    failures                          := failures
    estimatedCostPerMinuteMicrounits  := estimatedCostPerMinute evidence.cost.facts providerState.requiresTts
    providerChargePerMinuteMicrounits := providerChargePerMinute evidence.cost.facts providerState.requiresTts }

namespace ArtifactFormat

-- `required` is the golden set that is built into the gate (`RT0_REQUIRED_GOLDEN_SUITE_BYTES`).
variable (F : ArtifactFormat) (required : List UInt8)

def validateRuntimeEvidence (evidence : Rt0ExitEvidence) (context : Rt0ExitVerificationContext)
    (providerStateDigest : String) : ExitGate Unit := do
  ExitGate.require .runtimeEvidenceDigestMismatch
    (evidence.conversationAttemptSha256 = F.sha256Hex context.conversationAttemptBytes &&
      evidence.boundSessionAggregateSha256 = F.sha256Hex context.boundSessionAggregateBytes)
  F.validateRt0ConversationEvidenceBinding evidence.conversations context.conversationAttemptBytes
    context.sessionSnapshotArtifacts context.exactCandidateSha providerStateDigest
  validateBoundSessionAggregate context.boundSessionAggregate context.exactCandidateSha providerStateDigest
  let recomputed ← .orElse .runtimeEvidenceInvalid (F.bindOwnerLabSessionEvidence
    context.sessionSnapshotArtifacts context.providerStateBytes context.exactCandidateSha).toOption
  ExitGate.require .runtimeEvidenceInvalid (recomputed = context.boundSessionAggregate)
  validateSessionQualityBinding evidence.quality.facts recomputed.aggregate
  validateSessionCostBinding evidence.cost.facts recomputed.aggregate

def deriveRt0RuntimeSupportingProjection (conversationAttemptBytes : List UInt8)
    (boundSessionAggregate : BoundLabSessionEvidenceAggregate) (sessionSnapshotArtifacts : List (List UInt8))
    (providerStateBytes : List UInt8) (exactCandidateSha : String) : ExitGate Rt0RuntimeSupportingProjection := do
  let providerStateDigest := F.sha256Hex providerStateBytes
  let conversation ← .orElse .runtimeEvidenceInvalid <|
    F.fromSlice ConversationAttemptBinding.decode conversationAttemptBytes
  validateConversationAttemptBinding conversation exactCandidateSha providerStateDigest
  validateBoundSessionAggregate boundSessionAggregate exactCandidateSha providerStateDigest
  let recomputed ← .orElse .runtimeEvidenceInvalid
    (F.bindOwnerLabSessionEvidence sessionSnapshotArtifacts providerStateBytes exactCandidateSha).toOption
  ExitGate.require .runtimeEvidenceInvalid (recomputed = boundSessionAggregate)
  let snapshots ← F.parseRoleBoundSnapshots sessionSnapshotArtifacts exactCandidateSha providerStateDigest
  let ownerProof ← deriveRoleConversationProof snapshots .owner
  let visitorProof ← deriveRoleConversationProof snapshots .visitor
  let quality ← qualityEvidenceFromAggregate recomputed.aggregate
  return {
    owner   := conversationEvidenceFrom conversation.owner .owner ownerProof
    visitor := conversationEvidenceFrom conversation.visitor .visitor visitorProof
    quality := quality }

-- What a golden set is verified with, whichever it is
def goldenContext (context : Rt0ExitVerificationContext) (suiteBytes evidenceBytes : List UInt8) :
    EvidenceVerificationContext where
  suiteBytes         := suiteBytes
  releaseSpecBytes   := context.releaseSpecBytes
  providerState      := context.providerState
  providerStateBytes := context.providerStateBytes
  evidenceBytes      := evidenceBytes
  exactCandidateSha  := context.exactCandidateSha

def validatePublicGolden (goldenReport : BoundGoldenReport) (context : Rt0ExitVerificationContext) :
    ExitGate Unit := do
  validateGoldenReport goldenReport
  let requiredSuite ← .orElse .goldenEvidenceInvalid (F.fromSlice GoldenSuite.decode required)
  let recomputed ← .orElse .goldenEvidenceInvalid (F.evaluateBoundGoldenSuite requiredSuite
    context.goldenEvidenceBundle (goldenContext context required context.goldenEvidenceBytes)).toOption
  ExitGate.require .goldenReportRecomputeMismatch (recomputed = goldenReport)

def verifyPrivateOwnerGolden (context : Rt0ExitVerificationContext) : Except OwnerGoldenError Unit := do
  let recomputed ← F.evaluateBoundOwnerGoldenSuite context.ownerGolden.suite context.ownerGolden.evidenceBundle
    (goldenContext context context.ownerGolden.suiteBytes context.ownerGolden.evidenceBytes)
  if recomputed = context.ownerGolden.report then .ok () else .error .reportMismatch

def validateStructure (evidence : Rt0ExitEvidence) (goldenReport : BoundGoldenReport)
    (context : Rt0ExitVerificationContext) : ExitGate Unit := do
  ExitGate.require .unsupportedExitEvidenceSchema (evidence.schemaVersion = rt0ExitEvidenceSchema)
  ExitGate.require .invalidCandidateSha (validGitSha context.exactCandidateSha && validGitSha evidence.candidateSha)
  ExitGate.require .invalidDigest <| [
    evidence.releaseSpecSha256,
    evidence.goldenReportSha256,
    evidence.ownerGoldenSuiteSha256,
    evidence.ownerGoldenEvidenceSha256,
    evidence.ownerGoldenReportSha256,
    evidence.providerStateSha256,
    evidence.liveProviderProbeSha256,
    evidence.conversationAttemptSha256,
    evidence.boundSessionAggregateSha256].all EvidenceBinding.validSha256
  ExitGate.require .candidateShaMismatch (evidence.candidateSha = context.exactCandidateSha &&
    goldenReport.binding.candidateSha = context.exactCandidateSha)
  let releaseSpecDigest := F.sha256Hex context.releaseSpecBytes
  ExitGate.require .releaseSpecDigestMismatch (evidence.releaseSpecSha256 = releaseSpecDigest &&
    goldenReport.binding.releaseSpecSha256 = releaseSpecDigest)
  ExitGate.require .goldenReportDigestMismatch (evidence.goldenReportSha256 = F.sha256Hex context.goldenReportBytes)
  ExitGate.require .ownerGoldenDigestMismatch
    (evidence.ownerGoldenSuiteSha256 = F.sha256Hex context.ownerGolden.suiteBytes &&
      evidence.ownerGoldenEvidenceSha256 = F.sha256Hex context.ownerGolden.evidenceBytes &&
      evidence.ownerGoldenReportSha256 = F.sha256Hex context.ownerGolden.reportBytes)
  ExitGate.require .liveProviderProbeDigestMismatch
    (evidence.liveProviderProbeSha256 = F.sha256Hex context.liveProviderProbeBytes)
  let providerStateDigest := F.sha256Hex context.providerStateBytes
  ExitGate.require .providerStateDigestMismatch (evidence.providerStateSha256 = providerStateDigest &&
    goldenReport.binding.providerStateSha256 = providerStateDigest &&
    context.ownerGolden.report.binding.providerStateSha256 = providerStateDigest)
  ExitGate.require .providerStateMismatch (context.providerState.schemaVersion = rt0ProviderStateSchema &&
    (validateProviderState context.providerState.providers).isOk &&
    goldenReport.providerState = context.providerState)
  (validateLiveProviderProbe context.liveProviderProbe context.exactCandidateSha providerStateDigest).mapError
    (·.toExit)
  F.validateRuntimeEvidence evidence context providerStateDigest
  F.validatePublicGolden required goldenReport context
  (F.verifyPrivateOwnerGolden context).mapError (·.toExit)
  validateArtifactDigests evidence
  ExitGate.require .participantRoleMismatch (evidence.conversations.owner.facts.role = .owner &&
    evidence.conversations.visitor.facts.role = .visitor)
  ExitGate.require .invalidHumanRubric (!isBlank evidence.humanEvaluation.facts.rubricVersion)

def evaluateRt0ExitEvidence (evidence : Rt0ExitEvidence) (goldenReport : BoundGoldenReport)
    (context : Rt0ExitVerificationContext) : ExitGate Rt0ExitReport := do
  F.validateStructure required evidence goldenReport context
  return rt0ExitReport evidence goldenReport.golden context.ownerGolden.report.golden context.providerState
    (F.sha256Hex context.exitEvidenceBytes)

def evaluateVerifiedRt0ExitEvidence (evidence : Rt0ExitEvidence) (goldenReport : BoundGoldenReport)
    (context : Rt0ExitVerificationContext) (supportingArtifacts : Rt0SupportingArtifacts) :
    ExitGate Rt0ExitReport := do
  F.validateRt0ExitSupportingArtifacts evidence supportingArtifacts
  let voice := (context.providerState.providers.find? (·.role = .tts)).bind (·.voiceProfileStatus)
  ExitGate.require .invalidArtifactDigest (voiceMarkerMatches supportingArtifacts.knownLimitations voice)
  F.evaluateRt0ExitEvidence required evidence goldenReport context

end ArtifactFormat

-- The derived readers.

def AutomatedEvidence.decode (j : Json) : Option AutomatedEvidence := do
  let f ← JsonFields.ofRecord ["ci", "e2e"] j
  return {
    ci  := ← f.required "ci" FieldsCodec.automated.claimed.record.decode
    e2e := ← f.required "e2e" FieldsCodec.automated.claimed.record.decode }

def ConversationPairEvidence.decode (j : Json) : Option ConversationPairEvidence := do
  let f ← JsonFields.ofRecord ["owner", "visitor"] j
  return {
    owner   := ← f.required "owner" FieldsCodec.conversation.claimed.record.decode
    visitor := ← f.required "visitor" FieldsCodec.conversation.claimed.record.decode }

def KnownLimitationsEvidence.decode (j : Json) : Option KnownLimitationsEvidence := do
  let f ← JsonFields.ofRecord ["review_status", "document_sha256"] j
  return {
    reviewStatus   := ← f.required "review_status" CheckStatus.json.decode
    documentSha256 := ← f.required "document_sha256" JsonCodec.text.decode }

def Rt0ExitEvidence.decode (j : Json) : Option Rt0ExitEvidence := do
  let f ← JsonFields.ofRecord ["schema_version", "candidate_sha", "release_spec_sha256", "golden_report_sha256",
    "owner_golden_suite_sha256", "owner_golden_evidence_sha256", "owner_golden_report_sha256",
    "provider_state_sha256", "live_provider_probe_sha256", "conversation_attempt_sha256",
    "bound_session_aggregate_sha256", "automated", "conversations", "acceptance", "quality", "cost",
    "privacy_permissions", "human_evaluation", "known_limitations"] j
  return {
    schemaVersion               := ← f.required "schema_version" JsonCodec.text.decode
    candidateSha                := ← f.required "candidate_sha" JsonCodec.text.decode
    releaseSpecSha256           := ← f.required "release_spec_sha256" JsonCodec.text.decode
    goldenReportSha256          := ← f.required "golden_report_sha256" JsonCodec.text.decode
    ownerGoldenSuiteSha256      := ← f.required "owner_golden_suite_sha256" JsonCodec.text.decode
    ownerGoldenEvidenceSha256   := ← f.required "owner_golden_evidence_sha256" JsonCodec.text.decode
    ownerGoldenReportSha256     := ← f.required "owner_golden_report_sha256" JsonCodec.text.decode
    providerStateSha256         := ← f.required "provider_state_sha256" JsonCodec.text.decode
    liveProviderProbeSha256     := ← f.required "live_provider_probe_sha256" JsonCodec.text.decode
    conversationAttemptSha256   := ← f.required "conversation_attempt_sha256" JsonCodec.text.decode
    boundSessionAggregateSha256 := ← f.required "bound_session_aggregate_sha256" JsonCodec.text.decode
    automated                   := ← f.required "automated" AutomatedEvidence.decode
    conversations               := ← f.required "conversations" ConversationPairEvidence.decode
    acceptance                  := ← f.required "acceptance" FieldsCodec.acceptance.claimed.record.decode
    quality                     := ← f.required "quality" FieldsCodec.quality.claimed.record.decode
    cost                        := ← f.required "cost" FieldsCodec.cost.claimed.record.decode
    privacyPermissions          := ← f.required "privacy_permissions" FieldsCodec.privacy.claimed.record.decode
    humanEvaluation             := ← f.required "human_evaluation" FieldsCodec.human.claimed.record.decode
    knownLimitations            := ← f.required "known_limitations" KnownLimitationsEvidence.decode }

namespace Rt0ExitGate

-- The files that somebody observed, recorded or wrote by hand.
structure Recorded where
  goldenEvidence       : List UInt8
  ownerGoldenSuite     : List UInt8
  ownerGoldenEvidence  : List UInt8
  providerState        : List UInt8
  liveProviderProbe    : List UInt8
  conversationAttempt  : List UInt8
  supportingArtifacts  : Rt0SupportingArtifacts
  sessionSnapshots     : List (List UInt8)
  releaseSpec          : List UInt8
  candidateSha         : String

-- The files that were derived from them beforehand.
structure Derived where
  exitEvidence          : List UInt8
  goldenReport          : List UInt8
  ownerGoldenReport     : List UInt8
  boundSessionAggregate : List UInt8

inductive Error
  | inputInvalid
  | evidence (error : Rt0ExitEvidenceError)
deriving DecidableEq, Repr

variable (F : ArtifactFormat) (required : List UInt8)

def parse {α : Type} (decode : Json → Option α) (bytes : List UInt8) : Except Error α :=
  match F.fromSlice decode bytes with
  | some a => .ok a
  | none   => .error .inputInvalid

-- The report that is printed, once the files are read
def run (recorded : Recorded) (derived : Derived) : Except Error Rt0ExitReport := do
  let evidence ← parse F Rt0ExitEvidence.decode derived.exitEvidence
  let goldenReport ← parse F BoundGoldenReport.decode derived.goldenReport
  let goldenEvidenceBundle ← parse F GoldenEvidenceBundle.decode recorded.goldenEvidence
  let ownerGoldenSuite ← parse F GoldenSuite.decode recorded.ownerGoldenSuite
  let ownerGoldenEvidenceBundle ← parse F GoldenEvidenceBundle.decode recorded.ownerGoldenEvidence
  let ownerGoldenReport ← parse F BoundGoldenReport.decode derived.ownerGoldenReport
  let providerState ← parse F ProviderStateManifest.decode recorded.providerState
  let liveProviderProbe ← parse F LiveProviderProbeReceipt.decode recorded.liveProviderProbe
  let boundSessionAggregate ← parse F BoundLabSessionEvidenceAggregate.decode derived.boundSessionAggregate
  let context := {
    exitEvidenceBytes          := derived.exitEvidence
    goldenReportBytes          := derived.goldenReport
    goldenEvidenceBundle       := goldenEvidenceBundle
    goldenEvidenceBytes        := recorded.goldenEvidence
    ownerGolden                := {
      suite          := ownerGoldenSuite
      suiteBytes     := recorded.ownerGoldenSuite
      report         := ownerGoldenReport
      reportBytes    := derived.ownerGoldenReport
      evidenceBundle := ownerGoldenEvidenceBundle
      evidenceBytes  := recorded.ownerGoldenEvidence }
    providerState              := providerState
    providerStateBytes         := recorded.providerState
    liveProviderProbe          := liveProviderProbe
    liveProviderProbeBytes     := recorded.liveProviderProbe
    conversationAttemptBytes   := recorded.conversationAttempt
    boundSessionAggregate      := boundSessionAggregate
    boundSessionAggregateBytes := derived.boundSessionAggregate
    sessionSnapshotArtifacts   := recorded.sessionSnapshots
    releaseSpecBytes           := recorded.releaseSpec
    exactCandidateSha          := recorded.candidateSha }
  (F.evaluateVerifiedRt0ExitEvidence required evidence goldenReport context recorded.supportingArtifacts).mapError
    .evidence

end Rt0ExitGate
