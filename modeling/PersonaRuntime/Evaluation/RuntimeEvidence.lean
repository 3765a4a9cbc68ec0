import PersonaRuntime.Evaluation.SessionBinding
import PersonaRuntime.Evaluation.SupportingPreflight

def rt0LiveProviderProbeSchema : String :=
  "rt0-live-provider-probe-0.3"

def rt0LiveConversationAttemptSchema : String :=
  "rt0-live-conversation-attempt-0.1"

structure ProbeUsage where
  inputUnits               : Option Nat
  inputUnit                : Option String
  outputUnits              : Option Nat
  outputUnit               : Option String
  estimatedCostMicrounits  : Option Nat
  providerChargeMicrounits : Option Nat
deriving DecidableEq, Repr

structure SttProbeEvidence where
  latencyMillis   : Nat
  transcriptChars : Nat
  usage           : ProbeUsage
deriving DecidableEq, Repr

structure LlmProbeEvidence where
  latencyMillis : Nat
  outputChars   : Nat
  usage         : ProbeUsage
deriving DecidableEq, Repr

structure AvatarProbeEvidence where
  openMillis  : Nat
  closeMillis : Nat
deriving DecidableEq, Repr

structure LiveProviderProbeReceipt where
  schemaVersion        : String
  candidateSha         : String
  providerStateSha256  : String
  inputAudioSha256     : String
  inputAudioMillis     : Nat
  scope                : String
  conversationEvidence : Bool
  outputDeliveryProven : Bool
  stt                  : SttProbeEvidence
  llm                  : LlmProbeEvidence
  avatar               : AvatarProbeEvidence
deriving DecidableEq, Repr

inductive LiveProviderProbeValidationError
  | invalid
  | candidateMismatch
  | providerStateMismatch
deriving DecidableEq, Repr

def validateLiveProviderProbe (probe : LiveProviderProbeReceipt) (exactCandidateSha providerStateSha256 : String) :
    Except LiveProviderProbeValidationError Unit :=
  if probe.schemaVersion ≠ rt0LiveProviderProbeSchema ∨
      probe.scope ≠ "credentialed_provider_reachability_only" ∨ probe.conversationEvidence ∨
      probe.outputDeliveryProven ∨ !EvidenceBinding.validSha256 probe.inputAudioSha256 ∨
      probe.inputAudioMillis = 0 ∨ probe.inputAudioMillis > 30000 ∨ probe.stt.transcriptChars = 0 ∨
      probe.llm.outputChars = 0 then
    .error .invalid
  else if probe.candidateSha ≠ exactCandidateSha then
    .error .candidateMismatch
  else if probe.providerStateSha256 ≠ providerStateSha256 then
    .error .providerStateMismatch
  else
    .ok ()

structure ConversationTurnBinding where
  audience         : ParticipantRole
  inputAudioSha256 : String
  transcriptSha256 : String
  transcriptChars  : Nat
  replySha256      : String
  replyChars       : Nat
  locale           : String
deriving DecidableEq, Repr

structure ConversationAttemptBinding where
  schemaVersion           : String
  candidateSha            : String
  providerStateSha256     : String
  profileInputSha256      : String
  personaIdSha256         : String
  personaVersion          : Nat
  reviewedClaims          : Nat
  owner                   : ConversationTurnBinding
  visitor                 : ConversationTurnBinding
  conversationAttempted   : Bool
  providerOutputSubmitted : Bool
deriving DecidableEq, Repr

inductive Rt0ExitEvidenceError
  | unsupportedExitEvidenceSchema
  | invalidCandidateSha
  | invalidDigest
  | candidateShaMismatch
  | releaseSpecDigestMismatch
  | goldenReportDigestMismatch
  | ownerGoldenDigestMismatch
  | ownerGoldenInvalid
  | ownerGoldenRecomputeMismatch
  | providerStateDigestMismatch
  | providerStateMismatch
  | liveProviderProbeDigestMismatch
  | liveProviderProbeInvalid
  | liveProviderProbeCandidateMismatch
  | liveProviderProbeProviderStateMismatch
  | runtimeEvidenceDigestMismatch
  | runtimeEvidenceInvalid
  | runtimeEvidenceCandidateMismatch
  | runtimeEvidenceProviderStateMismatch
  | goldenEvidenceInvalid
  | goldenReportRecomputeMismatch
  | goldenReportInvalid
  | participantRoleMismatch
  | invalidLatencyDistribution
  | invalidHumanRubric
  | invalidArtifactDigest
deriving DecidableEq, Repr

abbrev ExitGate := Except Rt0ExitEvidenceError

namespace ExitGate

-- `.map_err(|_| error)`
def orElse {α : Type} (error : Rt0ExitEvidenceError) : Option α → ExitGate α
  | some a => .ok a
  | none   => .error error

def require (error : Rt0ExitEvidenceError) (holds : Bool) : ExitGate Unit :=
  if holds then .ok () else .error error

end ExitGate

def validConversationTurn (turn : ConversationTurnBinding) (role : ParticipantRole) : Bool :=
  turn.audience = role && EvidenceBinding.validSha256 turn.inputAudioSha256 &&
    EvidenceBinding.validSha256 turn.transcriptSha256 && 0 < turn.transcriptChars &&
    EvidenceBinding.validSha256 turn.replySha256 && 0 < turn.replyChars && !isBlank turn.locale

def validateConversationAttemptBinding (conversation : ConversationAttemptBinding)
    (exactCandidateSha providerStateDigest : String) : ExitGate Unit :=
  if conversation.schemaVersion ≠ rt0LiveConversationAttemptSchema ∨ !validGitSha conversation.candidateSha ∨
      !EvidenceBinding.validSha256 conversation.providerStateSha256 ∨
      !EvidenceBinding.validSha256 conversation.profileInputSha256 ∨
      !EvidenceBinding.validSha256 conversation.personaIdSha256 ∨ conversation.personaVersion = 0 ∨
      conversation.reviewedClaims = 0 ∨ !conversation.conversationAttempted ∨
      !conversation.providerOutputSubmitted ∨ !validConversationTurn conversation.owner .owner ∨
      !validConversationTurn conversation.visitor .visitor then
    .error .runtimeEvidenceInvalid
  else if conversation.candidateSha ≠ exactCandidateSha then
    .error .runtimeEvidenceCandidateMismatch
  else if conversation.providerStateSha256 ≠ providerStateDigest then
    .error .runtimeEvidenceProviderStateMismatch
  else
    .ok ()

structure RoleConversationProof where
  completedTurns             : Nat
  sessionsWithCompletedTurns : Nat
  playbackSessions           : Nat
  videoSessions              : Nat
  interruptionExercised      : Bool
deriving DecidableEq, Repr

def countIf (condition : Bool) (count : Nat) : ExitGate Nat :=
  if condition then .orElse .runtimeEvidenceInvalid (checkedAddU32 count 1) else .ok count

def proveNext (proof : RoleConversationProof) (snapshot : LabSessionEvidenceSnapshot) :
    ExitGate RoleConversationProof := do
  if snapshot.schemaVersion ≠ sessionEvidenceSchema ∨ snapshot.scope ≠ mediaEvidenceScope ∨
      snapshot.sessionSequence = 0 then
    .error .runtimeEvidenceInvalid
  let completed := (snapshot.voiceAttempts.filter (·.status = .completed)).length
  if completed > u32Max then
    .error .runtimeEvidenceInvalid
  if completed = 0 then
    return proof
  return {
    completedTurns             := ← .orElse .runtimeEvidenceInvalid (checkedAddU32 proof.completedTurns completed)
    sessionsWithCompletedTurns := ← countIf true proof.sessionsWithCompletedTurns
    playbackSessions           := ← countIf snapshot.canonicalPlaybackProven proof.playbackSessions
    videoSessions              := ← countIf (snapshot.mediaEvents.any (·.kind = .videoReady)) proof.videoSessions
    interruptionExercised      :=
      proof.interruptionExercised || snapshot.mediaEvents.any (·.kind = .interruptionStopped) }

def deriveRoleConversationProof (snapshots : List LabSessionEvidenceSnapshot) (role : ParticipantRole) :
    ExitGate RoleConversationProof :=
  (snapshots.filter (·.participantRole = role)).foldlM proveNext ⟨0, 0, 0, 0, false⟩

def CheckStatus.of (passed : Bool) : CheckStatus :=
  if passed then .passed else .failed

def isRussianLocale (locale : String) : Bool :=
  let normalized := (trimmed locale.toList).map Char.toLower
  normalized = "ru".toList || "ru-".toList.isPrefixOf normalized || "ru_".toList.isPrefixOf normalized

-- The claim is compared with what `conversation_evidence_from` derives of the turn and the proof.
def conversationClaimMatches (claim : ConversationFacts) (turn : ConversationTurnBinding) (role : ParticipantRole)
    (proof : RoleConversationProof) : Bool :=
  let voiceProven := 0 < proof.completedTurns && proof.playbackSessions = proof.sessionsWithCompletedTurns
  let videoProven := 0 < proof.completedTurns && proof.videoSessions = proof.sessionsWithCompletedTurns
  claim.role = role && claim.completedTurns.val = proof.completedTurns &&
    claim.russian = .of (isRussianLocale turn.locale) && claim.voice = .of voiceProven &&
    claim.video = .of videoProven && claim.interruptionExercised = .of proof.interruptionExercised

-- The distributions of an aggregate that a quality claim repeats, in its order
def LabSessionEvidenceAggregate.qualityDistributions (aggregate : LabSessionEvidenceAggregate) :
    List (Option LatencyDistributionMillis) :=
  [aggregate.textFirstMeaningfulResponse, aggregate.firstMeaningfulAudio, aggregate.interruptionStop,
    aggregate.firstUsefulVideo, aggregate.avSyncAbsoluteOffset, aggregate.recoverableReconnect]

-- `quality_evidence_from_aggregate`
def qualityEvidenceFromAggregate (aggregate : LabSessionEvidenceAggregate) :
    ExitGate (List LatencyDistributionMillis) := do
  let expected ← .orElse .runtimeEvidenceInvalid (aggregate.qualityDistributions.mapM id)
  ExitGate.require .runtimeEvidenceInvalid aggregate.avSyncProven
  ExitGate.require .invalidLatencyDistribution (expected.all (·.isValid))
  return expected

def validateSessionQualityBinding (quality : QualityFacts) (aggregate : LabSessionEvidenceAggregate) :
    ExitGate Unit := do
  ExitGate.require .invalidLatencyDistribution quality.validLatencies
  let expected ← qualityEvidenceFromAggregate aggregate
  ExitGate.require .runtimeEvidenceInvalid (quality.distributions = expected)

def coversRuntimeUsageCost (roles : List ProviderRole) : Bool :=
  .stt ∈ roles && .llm ∈ roles

def validateCostLowerBound (claimedTotal : Option U64) (coveredProviderRoles : List ProviderRole)
    (runtimeKnownTotal : Option Nat) : ExitGate Unit :=
  ExitGate.require .runtimeEvidenceInvalid <| !(coversRuntimeUsageCost coveredProviderRoles &&
    claimedTotal.any fun claimed => runtimeKnownTotal.any (claimed.val < ·))

def validateSessionCostBinding (cost : CostFacts) (aggregate : LabSessionEvidenceAggregate) : ExitGate Unit := do
  ExitGate.require .runtimeEvidenceInvalid (cost.measuredDurationMillis.val = aggregate.sessionDurationMillis)
  validateCostLowerBound cost.estimatedCostMicrounits cost.estimatedCostCoveredProviderRoles
    aggregate.estimatedCostMicrounits
  validateCostLowerBound cost.providerChargeMicrounits cost.providerChargeCoveredProviderRoles
    aggregate.providerChargeMicrounits

def validateBoundSessionAggregate (bound : BoundLabSessionEvidenceAggregate)
    (exactCandidateSha providerStateDigest : String) : ExitGate Unit := do
  if bound.schemaVersion ≠ rt0OwnerLabSessionBindingSchema ∨ !validGitSha bound.candidateSha ∨
      !EvidenceBinding.validSha256 bound.providerStateSha256 ∨ bound.snapshotSha256.isEmpty ∨
      bound.aggregate.schemaVersion ≠ sessionAggregateSchema ∨
      bound.aggregate.sourceSchemaVersion ≠ sessionEvidenceSchema ∨ bound.aggregate.sessions = 0 ∨
      bound.aggregate.sessions ≠ bound.snapshotSha256.length then
    .error .runtimeEvidenceInvalid
  if bound.candidateSha ≠ exactCandidateSha then
    .error .runtimeEvidenceCandidateMismatch
  if bound.providerStateSha256 ≠ providerStateDigest then
    .error .runtimeEvidenceProviderStateMismatch
  ExitGate.require .runtimeEvidenceInvalid
    (bound.snapshotSha256.all EvidenceBinding.validSha256 && bound.snapshotSha256.Nodup)
  ExitGate.require .invalidLatencyDistribution <|
    [bound.aggregate.textFirstMeaningfulResponse, bound.aggregate.sttLatency, bound.aggregate.llmLatency,
      bound.aggregate.avatarSubmitLatency, bound.aggregate.serverTotalLatency,
      bound.aggregate.avSyncAbsoluteOffset, bound.aggregate.firstMeaningfulAudio,
      bound.aggregate.interruptionStop, bound.aggregate.firstUsefulVideo,
      bound.aggregate.recoverableReconnect].all (·.all (·.isValid))

-- The derived readers.

def ProbeUsage.decode (j : Json) : Option ProbeUsage := do
  let f ← JsonFields.ofRecord ["input_units", "input_unit", "output_units", "output_unit",
    "estimated_cost_microunits", "provider_charge_microunits"] j
  return {
    inputUnits               := ← f.optionalNat "input_units" u64Max
    inputUnit                := ← f.optional "input_unit" JsonCodec.text.decode
    outputUnits              := ← f.optionalNat "output_units" u64Max
    outputUnit               := ← f.optional "output_unit" JsonCodec.text.decode
    estimatedCostMicrounits  := ← f.optionalNat "estimated_cost_microunits" u64Max
    providerChargeMicrounits := ← f.optionalNat "provider_charge_microunits" u64Max }

def SttProbeEvidence.decode (j : Json) : Option SttProbeEvidence := do
  let f ← JsonFields.ofRecord ["latency_millis", "transcript_chars", "usage"] j
  return {
    latencyMillis   := ← f.nat "latency_millis" u64Max
    transcriptChars := ← f.nat "transcript_chars" u64Max
    usage           := ← f.required "usage" ProbeUsage.decode }

def LlmProbeEvidence.decode (j : Json) : Option LlmProbeEvidence := do
  let f ← JsonFields.ofRecord ["latency_millis", "output_chars", "usage"] j
  return {
    latencyMillis := ← f.nat "latency_millis" u64Max
    outputChars   := ← f.nat "output_chars" u64Max
    usage         := ← f.required "usage" ProbeUsage.decode }

def AvatarProbeEvidence.decode (j : Json) : Option AvatarProbeEvidence := do
  let f ← JsonFields.ofRecord ["open_millis", "close_millis"] j
  return {
    openMillis  := ← f.nat "open_millis" u64Max
    closeMillis := ← f.nat "close_millis" u64Max }

def LiveProviderProbeReceipt.decode (j : Json) : Option LiveProviderProbeReceipt := do
  let f ← JsonFields.ofRecord ["schema_version", "candidate_sha", "provider_state_sha256", "input_audio_sha256",
    "input_audio_millis", "scope", "conversation_evidence", "output_delivery_proven", "stt", "llm", "avatar"] j
  return {
    schemaVersion        := ← f.required "schema_version" JsonCodec.text.decode
    candidateSha         := ← f.required "candidate_sha" JsonCodec.text.decode
    providerStateSha256  := ← f.required "provider_state_sha256" JsonCodec.text.decode
    inputAudioSha256     := ← f.required "input_audio_sha256" JsonCodec.text.decode
    inputAudioMillis     := ← f.nat "input_audio_millis" u64Max
    scope                := ← f.required "scope" JsonCodec.text.decode
    conversationEvidence := ← f.required "conversation_evidence" JsonCodec.flag.decode
    outputDeliveryProven := ← f.required "output_delivery_proven" JsonCodec.flag.decode
    stt                  := ← f.required "stt" SttProbeEvidence.decode
    llm                  := ← f.required "llm" LlmProbeEvidence.decode
    avatar               := ← f.required "avatar" AvatarProbeEvidence.decode }

def ConversationTurnBinding.decode (j : Json) : Option ConversationTurnBinding := do
  let f ← JsonFields.ofOpenRecord ["audience", "input_audio_sha256", "transcript_sha256", "transcript_chars",
    "reply_sha256", "reply_chars", "locale"] j
  return {
    audience         := ← f.required "audience" ParticipantRole.json.decode
    inputAudioSha256 := ← f.required "input_audio_sha256" JsonCodec.text.decode
    transcriptSha256 := ← f.required "transcript_sha256" JsonCodec.text.decode
    transcriptChars  := ← f.nat "transcript_chars" u64Max
    replySha256      := ← f.required "reply_sha256" JsonCodec.text.decode
    replyChars       := ← f.nat "reply_chars" u64Max
    locale           := ← f.required "locale" JsonCodec.text.decode }

def ConversationAttemptBinding.decode (j : Json) : Option ConversationAttemptBinding := do
  let f ← JsonFields.ofOpenRecord ["schema_version", "candidate_sha", "provider_state_sha256",
    "profile_input_sha256", "persona_id_sha256", "persona_version", "reviewed_claims", "owner", "visitor",
    "conversation_attempted", "provider_output_submitted"] j
  return {
    schemaVersion           := ← f.required "schema_version" JsonCodec.text.decode
    candidateSha            := ← f.required "candidate_sha" JsonCodec.text.decode
    providerStateSha256     := ← f.required "provider_state_sha256" JsonCodec.text.decode
    profileInputSha256      := ← f.required "profile_input_sha256" JsonCodec.text.decode
    personaIdSha256         := ← f.required "persona_id_sha256" JsonCodec.text.decode
    personaVersion          := ← f.nat "persona_version" u64Max
    reviewedClaims          := ← f.nat "reviewed_claims" u64Max
    owner                   := ← f.required "owner" ConversationTurnBinding.decode
    visitor                 := ← f.required "visitor" ConversationTurnBinding.decode
    conversationAttempted   := ← f.required "conversation_attempted" JsonCodec.flag.decode
    providerOutputSubmitted := ← f.required "provider_output_submitted" JsonCodec.flag.decode }

namespace ArtifactFormat

variable (F : ArtifactFormat)

def validateRt0ConversationAttemptArtifact (conversationAttemptBytes : List UInt8)
    (exactCandidateSha providerStateDigest : String) : ExitGate Unit := do
  let conversation ← .orElse .runtimeEvidenceInvalid <|
    F.fromSlice ConversationAttemptBinding.decode conversationAttemptBytes
  validateConversationAttemptBinding conversation exactCandidateSha providerStateDigest

def parseRoleBoundSnapshots (artifacts : List (List UInt8)) (exactCandidateSha providerStateDigest : String) :
    ExitGate (List LabSessionEvidenceSnapshot) := do
  ExitGate.require .runtimeEvidenceInvalid !artifacts.isEmpty
  artifacts.mapM fun bytes => do
    let snapshot ← .orElse .runtimeEvidenceInvalid <| F.fromSlice LabSessionEvidenceSnapshot.decode bytes
    ExitGate.require .runtimeEvidenceCandidateMismatch (snapshot.candidateSha = exactCandidateSha)
    ExitGate.require .runtimeEvidenceProviderStateMismatch (snapshot.providerStateSha256 = providerStateDigest)
    return snapshot

def validateRt0ConversationEvidenceBinding (conversations : ConversationPairEvidence)
    (conversationAttemptBytes : List UInt8) (sessionSnapshotArtifacts : List (List UInt8))
    (exactCandidateSha providerStateDigest : String) : ExitGate Unit := do
  ExitGate.require .participantRoleMismatch
    (conversations.owner.facts.role = .owner && conversations.visitor.facts.role = .visitor)
  let conversation ← .orElse .runtimeEvidenceInvalid <|
    F.fromSlice ConversationAttemptBinding.decode conversationAttemptBytes
  validateConversationAttemptBinding conversation exactCandidateSha providerStateDigest
  let snapshots ← F.parseRoleBoundSnapshots sessionSnapshotArtifacts exactCandidateSha providerStateDigest
  let owner ← deriveRoleConversationProof snapshots .owner
  let visitor ← deriveRoleConversationProof snapshots .visitor
  ExitGate.require .runtimeEvidenceInvalid
    (conversationClaimMatches conversations.owner.facts conversation.owner .owner owner &&
      conversationClaimMatches conversations.visitor.facts conversation.visitor .visitor visitor)

end ArtifactFormat
