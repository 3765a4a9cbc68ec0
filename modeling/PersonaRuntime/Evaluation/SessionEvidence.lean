import Mathlib.Data.Finset.Card
import Mathlib.Data.List.Sort
import PersonaRuntime.Domain.Ids

-- `u32::MAX`
def u32Max : Nat :=
  4294967295

-- `u32::checked_add`
def checkedAddU32 (a b : Nat) : Option Nat :=
  if a + b ≤ u32Max then some (a + b) else none

def sessionEvidenceSchema : String :=
  "rt0-owner-lab-session-evidence-1.6"

def sessionAggregateSchema : String :=
  "rt0-owner-lab-session-aggregate-1.1"

def mediaEvidenceScope : String :=
  "browser_observed_media_plane_only"

def avSyncSamplesPerRequest : Nat :=
  3

def maxMediaElapsedMillis : Nat :=
  300000

inductive ParticipantRole
  | owner
  | visitor
deriving DecidableEq, Repr

inductive LabMediaEvidenceKind
  | videoReady
  | backendStartReady
  | transportConnectStarted
  | transportConnected
  | remoteVideoTrackReceived
  | remoteVideoAttached
  | endToEndVideoReady
  | backendCompleteReceived
  | clientDeliverySent
  | audioStarted
  | providerDataReceived
  | providerEventIgnored
  | providerUnknownChatEvent
  | providerUnknownVideoEvent
  | providerUnknownToolEvent
  | providerUnknownOtherEvent
  | providerVideoGenerationStarted
  | providerVideoGenerationDone
  | providerVideoGenerationFailed
  | providerInformationalEvent
  | providerEventParseFailed
  | providerPlaybackDoneReceived
  | playbackRecoveryTriggered
  | browserAudioTailObserved
  | playbackCompleted
  | interruptionStopped
  | reconnectRestored
deriving DecidableEq, Repr

def LabMediaEvidenceKind.requiresRequestSequence : LabMediaEvidenceKind → Bool
  | videoReady | backendStartReady | transportConnectStarted | transportConnected
  | remoteVideoTrackReceived | remoteVideoAttached | endToEndVideoReady | reconnectRestored => false
  | _ => true

structure LabMediaEvidence where
  requestSequence : Option Nat
  kind            : LabMediaEvidenceKind
  elapsedMillis   : Nat
deriving DecidableEq, Repr

inductive LabAvSyncReference
  | webRtcEstimatedPlayoutTimestamp
  | htmlMediaElementCurrentTime
deriving DecidableEq, Repr

structure LabAvSyncEvidence where
  requestSequence      : Nat
  sampleSequence       : Nat
  reference            : LabAvSyncReference
  absoluteOffsetMillis : Nat
deriving DecidableEq, Repr

inductive LabAvSyncTrackIssue
  | statsUnavailable
  | timestampUnavailable
  | senderReportTimingUnavailable
  | ambiguousStreams
  | noUniqueActiveStream
deriving DecidableEq, Repr

structure LabAvSyncDiagnostic where
  requestSequence : Nat
  attempts        : Nat
  audioIssue      : Option LabAvSyncTrackIssue
  videoIssue      : Option LabAvSyncTrackIssue
deriving DecidableEq, Repr

structure SessionUsageEvidence where
  inputUnits               : Option Nat
  outputUnits              : Option Nat
  estimatedCostMicrounits  : Option Nat
  providerChargeMicrounits : Option Nat
deriving DecidableEq, Repr

-- `LabTextAttemptStatus` and `LabVoiceAttemptStatus` have the same cases.
inductive LabAttemptStatus
  | pending
  | completed
  | failed
deriving DecidableEq, Repr

structure LabTextAttemptEvidence where
  requestSequence               : Nat
  canonicalTurnSequence         : Option Nat
  canonicalOutputSequence       : Option Nat
  status                        : LabAttemptStatus
  failureCode                   : Option String
  firstMeaningfulResponseMillis : Option Nat
  serverTotalMillis             : Option Nat
  llmUsage                      : Option SessionUsageEvidence
deriving DecidableEq, Repr

structure LabVoiceAttemptEvidence where
  requestSequence            : Nat
  canonicalTurnSequence      : Option Nat
  canonicalOutputSequence    : Option Nat
  canonicalPlaybackConfirmed : Bool
  status                     : LabAttemptStatus
  failureCode                : Option String
  sttMillis                  : Option Nat
  llmMillis                  : Option Nat
  llmFirstMeaningfulMillis   : Option Nat
  voiceFirstTextMillis       : Option Nat
  ttsFirstPcmMillis          : Option Nat
  echoFirstSendMillis        : Option Nat
  avatarMillis               : Option Nat
  serverTotalMillis          : Option Nat
  sttUsage                   : Option SessionUsageEvidence
  llmUsage                   : Option SessionUsageEvidence
deriving DecidableEq, Repr

structure LabSessionEvidenceSnapshot where
  schemaVersion           : String
  candidateSha            : String
  providerStateSha256     : String
  scope                   : String
  sessionSequence         : Nat
  participantRole         : ParticipantRole
  sessionDurationMillis   : Nat
  canonicalPlaybackProven : Bool
  avSyncProven            : Bool
  textAttempts            : List LabTextAttemptEvidence
  voiceAttempts           : List LabVoiceAttemptEvidence
  mediaEvents             : List LabMediaEvidence
  avSyncSamples           : List LabAvSyncEvidence
  avSyncDiagnostics       : List LabAvSyncDiagnostic
deriving DecidableEq, Repr

structure LatencyDistributionMillis where
  samples : Nat
  p50     : Nat
  p95     : Nat
deriving DecidableEq, Repr

structure LabSessionEvidenceAggregate where
  schemaVersion               : String
  sourceSchemaVersion         : String
  sessions                    : Nat
  sessionDurationMillis       : Nat
  completedTextAttempts       : Nat
  failedTextAttempts          : Nat
  completedVoiceAttempts      : Nat
  failedVoiceAttempts         : Nat
  canonicalPlaybackProven     : Bool
  avSyncProven                : Bool
  textFirstMeaningfulResponse : Option LatencyDistributionMillis
  avSyncAbsoluteOffset        : Option LatencyDistributionMillis
  sttLatency                  : Option LatencyDistributionMillis
  llmLatency                  : Option LatencyDistributionMillis
  llmFirstMeaningfulResponse  : Option LatencyDistributionMillis
  voiceFirstTextResponse      : Option LatencyDistributionMillis
  avatarSubmitLatency         : Option LatencyDistributionMillis
  serverTotalLatency          : Option LatencyDistributionMillis
  firstMeaningfulAudio        : Option LatencyDistributionMillis
  interruptionStop            : Option LatencyDistributionMillis
  firstUsefulVideo            : Option LatencyDistributionMillis
  backendStartReady           : Option LatencyDistributionMillis
  transportConnectStarted     : Option LatencyDistributionMillis
  transportConnected          : Option LatencyDistributionMillis
  remoteVideoTrackReceived    : Option LatencyDistributionMillis
  remoteVideoAttached         : Option LatencyDistributionMillis
  endToEndFirstUsefulVideo    : Option LatencyDistributionMillis
  recoverableReconnect        : Option LatencyDistributionMillis
  estimatedCostMicrounits     : Option Nat
  providerChargeMicrounits    : Option Nat
deriving DecidableEq, Repr

inductive LabSessionAggregateError
  | emptyInput
  | invalidSnapshot
  | duplicateSnapshot
  | incompleteAttempt
  | invalidMediaEvidence
  | overflow
deriving DecidableEq, Repr

abbrev Aggregating := Except LabSessionAggregateError

-- `.ok_or(LabSessionAggregateError::Overflow)`
def orOverflow {α : Type} : Option α → Aggregating α
  | some a => .ok a
  | none   => .error .overflow

def isLowerHex (c : Char) : Bool :=
  c.isDigit || ('a' ≤ c && c ≤ 'f')

def validGitSha (value : String) : Bool :=
  (value.utf8ByteSize = 40 || value.utf8ByteSize = 64) && value.toList.all isLowerHex

def validProviderStateSha256 (value : String) : Bool :=
  value.utf8ByteSize = 64 && value.toList.all isLowerHex

def validateSnapshotHeader (snapshot : LabSessionEvidenceSnapshot) : Aggregating Unit :=
  if snapshot.schemaVersion ≠ sessionEvidenceSchema ∨ !validGitSha snapshot.candidateSha ∨
      !validProviderStateSha256 snapshot.providerStateSha256 ∨ snapshot.scope ≠ mediaEvidenceScope ∨
      snapshot.sessionSequence = 0 ∨ snapshot.sessionDurationMillis = 0 then
    .error .invalidSnapshot
  else
    .ok ()

def addCost (total value : Option Nat) : Aggregating (Option Nat) :=
  match total, value with
  | some current, some value => orOverflow ((checkedAdd current value).map some)
  | _, _                     => .ok none

def nearestRank (values : List Nat) (percentile : Nat) : Nat :=
  let rank := max ((min (values.length * percentile) u64Max + 99) / 100) 1
  -- The rank of a percentile is never greater than the number of values.
  values.getD (rank - 1) 0

def distribution (values : List Nat) : Aggregating (Option LatencyDistributionMillis) :=
  if values.isEmpty then
    .ok none
  else if values.length ≤ u32Max then
    let values := values.insertionSort (· ≤ ·)
    .ok (some ⟨values.length, nearestRank values 50, nearestRank values 95⟩)
  else
    .error .overflow

structure SessionAggregateAccumulator where
  sessionDurationMillis    : Nat        := 0
  completedText            : Nat        := 0
  failedText               : Nat        := 0
  completedVoice           : Nat        := 0
  failedVoice              : Nat        := 0
  textFirstMeaningful      : List Nat   := []
  playbackSessions         : Nat        := 0
  avSyncSessions           : Nat        := 0
  avSync                   : List Nat   := []
  stt                      : List Nat   := []
  llm                      : List Nat   := []
  llmFirstMeaningful       : List Nat   := []
  voiceFirstText           : List Nat   := []
  avatar                   : List Nat   := []
  serverTotal              : List Nat   := []
  audio                    : List Nat   := []
  interruption             : List Nat   := []
  video                    : List Nat   := []
  backendStart             : List Nat   := []
  transportConnectStarted  : List Nat   := []
  transportConnected       : List Nat   := []
  remoteVideoTrackReceived : List Nat   := []
  remoteVideoAttached      : List Nat   := []
  endToEndVideo            : List Nat   := []
  reconnect                : List Nat   := []
  estimatedCost            : Option Nat := none
  providerCharge           : Option Nat := none
  costInitialized          : Bool       := false

-- What a completed attempt has to carry.
structure TextCompletion where
  turn     : Nat
  output   : Nat
  first    : Nat
  total    : Nat
  llmUsage : SessionUsageEvidence

def LabTextAttemptEvidence.completion (a : LabTextAttemptEvidence) : Option TextCompletion := do
  let turn ← a.canonicalTurnSequence
  let output ← a.canonicalOutputSequence
  let first ← a.firstMeaningfulResponseMillis
  let total ← a.serverTotalMillis
  let llmUsage ← a.llmUsage
  return { turn, output, first, total, llmUsage }

structure VoiceCompletion where
  turn               : Nat
  output             : Nat
  stt                : Nat
  llm                : Nat
  llmFirstMeaningful : Nat
  avatar             : Nat
  total              : Nat
  sttUsage           : SessionUsageEvidence
  llmUsage           : SessionUsageEvidence

def LabVoiceAttemptEvidence.completion (a : LabVoiceAttemptEvidence) : Option VoiceCompletion := do
  let turn ← a.canonicalTurnSequence
  let output ← a.canonicalOutputSequence
  let stt ← a.sttMillis
  let llm ← a.llmMillis
  let llmFirstMeaningful ← a.llmFirstMeaningfulMillis
  let avatar ← a.avatarMillis
  let total ← a.serverTotalMillis
  let sttUsage ← a.sttUsage
  let llmUsage ← a.llmUsage
  return { turn, output, stt, llm, llmFirstMeaningful, avatar, total, sttUsage, llmUsage }

namespace SessionAggregateAccumulator

variable (acc : SessionAggregateAccumulator)

def initializeCosts : SessionAggregateAccumulator :=
  if acc.costInitialized then
    acc
  else
    { acc with estimatedCost := some 0, providerCharge := some 0, costInitialized := true }

def addSingleUsageCost (usage : SessionUsageEvidence) : Aggregating SessionAggregateAccumulator := do
  let acc := acc.initializeCosts
  let estimatedCost ← addCost acc.estimatedCost usage.estimatedCostMicrounits
  let providerCharge ← addCost acc.providerCharge usage.providerChargeMicrounits
  return { acc with estimatedCost, providerCharge }

def addUsageCosts (stt llm : SessionUsageEvidence) : Aggregating SessionAggregateAccumulator := do
  let acc := acc.initializeCosts
  let estimatedCost ← addCost acc.estimatedCost stt.estimatedCostMicrounits
  let estimatedCost ← addCost estimatedCost llm.estimatedCostMicrounits
  let providerCharge ← addCost acc.providerCharge stt.providerChargeMicrounits
  let providerCharge ← addCost providerCharge llm.providerChargeMicrounits
  return { acc with estimatedCost, providerCharge }

def consumeFailedText (a : LabTextAttemptEvidence) : Aggregating SessionAggregateAccumulator :=
  if a.failureCode.all isBlank ∨ a.canonicalTurnSequence.isSome ∨ a.canonicalOutputSequence.isSome ∨
      a.firstMeaningfulResponseMillis.isSome ∨ a.serverTotalMillis.isSome ∨ a.llmUsage.isSome then
    .error .invalidSnapshot
  else do
    let failedText ← orOverflow (checkedAddU32 acc.failedText 1)
    return { acc with failedText }

def consumeCompletedText (a : LabTextAttemptEvidence) : Aggregating SessionAggregateAccumulator :=
  match a.completion with
  | none   => .error .incompleteAttempt
  | some c =>
    if c.turn = 0 ∨ c.output = 0 ∨ c.first > c.total ∨ a.failureCode.isSome then
      .error .invalidSnapshot
    else do
      let completedText ← orOverflow (checkedAddU32 acc.completedText 1)
      { acc with
        completedText
        textFirstMeaningful := acc.textFirstMeaningful ++ [c.first] }.addSingleUsageCost c.llmUsage

def consumeTextAttempt (a : LabTextAttemptEvidence) : Aggregating SessionAggregateAccumulator :=
  match a.status with
  | .pending   => .error .incompleteAttempt
  | .failed    => acc.consumeFailedText a
  | .completed => acc.consumeCompletedText a

def consumeFailedAttempt (a : LabVoiceAttemptEvidence) : Aggregating SessionAggregateAccumulator :=
  if a.failureCode.all isBlank ∨ a.canonicalTurnSequence.isSome ∨ a.canonicalOutputSequence.isSome ∨
      a.canonicalPlaybackConfirmed ∨ a.sttMillis.isSome ∨ a.llmMillis.isSome ∨
      a.llmFirstMeaningfulMillis.isSome ∨ a.voiceFirstTextMillis.isSome ∨ a.avatarMillis.isSome ∨
      a.serverTotalMillis.isSome ∨ a.sttUsage.isSome ∨ a.llmUsage.isSome then
    .error .invalidSnapshot
  else do
    let failedVoice ← orOverflow (checkedAddU32 acc.failedVoice 1)
    return { acc with failedVoice }

def consumeCompletedAttempt (a : LabVoiceAttemptEvidence) : Aggregating SessionAggregateAccumulator :=
  match a.completion with
  | none   => .error .incompleteAttempt
  | some c =>
    if c.turn = 0 ∨ c.output = 0 ∨ c.llmFirstMeaningful > c.llm ∨ c.llmFirstMeaningful > c.total ∨
        a.voiceFirstTextMillis.any (fun ms => ms > c.total || ms < c.llmFirstMeaningful) ∨
        a.failureCode.isSome then
      .error .invalidSnapshot
    else do
      let completedVoice ← orOverflow (checkedAddU32 acc.completedVoice 1)
      { acc with
        completedVoice
        stt                := acc.stt ++ [c.stt]
        llm                := acc.llm ++ [c.llm]
        llmFirstMeaningful := acc.llmFirstMeaningful ++ [c.llmFirstMeaningful]
        voiceFirstText     := acc.voiceFirstText ++ a.voiceFirstTextMillis.toList
        avatar             := acc.avatar ++ [c.avatar]
        serverTotal        := acc.serverTotal ++ [c.total] }.addUsageCosts c.sttUsage c.llmUsage

def consumeAttempt (a : LabVoiceAttemptEvidence) : Aggregating SessionAggregateAccumulator :=
  match a.status with
  | .pending   => .error .incompleteAttempt
  | .failed    => acc.consumeFailedAttempt a
  | .completed => acc.consumeCompletedAttempt a

-- `match event.kind { .. }` of `validate_and_collect_media`.
def collectMedia (event : LabMediaEvidence) : SessionAggregateAccumulator :=
  match event.kind with
  | .audioStarted             => { acc with audio := acc.audio ++ [event.elapsedMillis] }
  | .interruptionStopped      => { acc with interruption := acc.interruption ++ [event.elapsedMillis] }
  | .videoReady               => { acc with video := acc.video ++ [event.elapsedMillis] }
  | .backendStartReady        => { acc with backendStart := acc.backendStart ++ [event.elapsedMillis] }
  | .transportConnectStarted  =>
    { acc with transportConnectStarted := acc.transportConnectStarted ++ [event.elapsedMillis] }
  | .transportConnected       =>
    { acc with transportConnected := acc.transportConnected ++ [event.elapsedMillis] }
  | .remoteVideoTrackReceived =>
    { acc with remoteVideoTrackReceived := acc.remoteVideoTrackReceived ++ [event.elapsedMillis] }
  | .remoteVideoAttached      =>
    { acc with remoteVideoAttached := acc.remoteVideoAttached ++ [event.elapsedMillis] }
  | .endToEndVideoReady       => { acc with endToEndVideo := acc.endToEndVideo ++ [event.elapsedMillis] }
  | .reconnectRestored        => { acc with reconnect := acc.reconnect ++ [event.elapsedMillis] }
  | _                         => acc

end SessionAggregateAccumulator

-- The requests of which there is an event of a kind.
def mediaRequests (kind : LabMediaEvidenceKind) (events : List LabMediaEvidence) : Finset Nat :=
  ((events.filter (·.kind = kind)).filterMap (·.requestSequence)).toFinset

def completedRequests (attempts : List LabVoiceAttemptEvidence) : Finset Nat :=
  ((attempts.filter (·.status = .completed)).map (·.requestSequence)).toFinset

def confirmedRequests (attempts : List LabVoiceAttemptEvidence) : Finset Nat :=
  ((attempts.filter (·.canonicalPlaybackConfirmed)).map (·.requestSequence)).toFinset

abbrev RequestStatus := Std.TreeMap Nat LabAttemptStatus

-- The loop over the text attempts remembers the requests that it has seen.
def consumeNextText (s : SessionAggregateAccumulator × Finset Nat) (a : LabTextAttemptEvidence) :
    Aggregating (SessionAggregateAccumulator × Finset Nat) :=
  if a.requestSequence = 0 ∨ a.requestSequence ∈ s.2 then
    .error .invalidSnapshot
  else do
    let acc ← s.1.consumeTextAttempt a
    return (acc, insert a.requestSequence s.2)

def consumeNextAttempt (s : SessionAggregateAccumulator × RequestStatus) (a : LabVoiceAttemptEvidence) :
    Aggregating (SessionAggregateAccumulator × RequestStatus) :=
  if a.requestSequence = 0 ∨ a.requestSequence ∈ s.2 then
    .error .invalidSnapshot
  else do
    let acc ← s.1.consumeAttempt a
    return (acc, s.2.insert a.requestSequence a.status)

def collectNextMedia (requestStatus : RequestStatus) (audioRequests : Finset Nat)
    (s : SessionAggregateAccumulator × Finset (Option Nat × LabMediaEvidenceKind)) (event : LabMediaEvidence) :
    Aggregating (SessionAggregateAccumulator × Finset (Option Nat × LabMediaEvidenceKind)) :=
  if event.elapsedMillis > maxMediaElapsedMillis then
    .error .invalidMediaEvidence
  else if event.kind.requiresRequestSequence ≠ event.requestSequence.isSome then
    .error .invalidMediaEvidence
  else if event.requestSequence.any (fun request => requestStatus[request]? ≠ some .completed) then
    .error .invalidMediaEvidence
  else if event.requestSequence.any fun request =>
      event.kind = .interruptionStopped ∧ request ∉ audioRequests then
    .error .invalidMediaEvidence
  else if event.kind = .reconnectRestored then
    .ok (s.1.collectMedia event, s.2)
  else if (event.requestSequence, event.kind) ∈ s.2 then
    .error .invalidMediaEvidence
  else
    .ok (s.1.collectMedia event, insert (event.requestSequence, event.kind) s.2)

def validateAndCollectMedia (snapshot : LabSessionEvidenceSnapshot) (requestStatus : RequestStatus)
    (acc : SessionAggregateAccumulator) : Aggregating SessionAggregateAccumulator := do
  let audioRequests := mediaRequests .audioStarted snapshot.mediaEvents
  let (acc, _) ← snapshot.mediaEvents.foldlM (collectNextMedia requestStatus audioRequests) (acc, ∅)
  return acc

structure PlaybackAccounting where
  playbackRequests : Finset Nat
  audioRequests    : Finset Nat
  derivedPlayback  : Bool

def validatePlaybackAccounting (snapshot : LabSessionEvidenceSnapshot) (completedRequests : Finset Nat) :
    Aggregating PlaybackAccounting :=
  let playbackRequests := confirmedRequests snapshot.voiceAttempts
  let audioRequests := mediaRequests .audioStarted snapshot.mediaEvents
  let playbackCompletedRequests := mediaRequests .playbackCompleted snapshot.mediaEvents
  let interruptedRequests := mediaRequests .interruptionStopped snapshot.mediaEvents
  if playbackRequests ≠ playbackCompletedRequests ∨ ¬playbackRequests ⊆ audioRequests ∨
      ¬interruptedRequests ⊆ audioRequests ∨ ¬Disjoint playbackRequests interruptedRequests then
    .error .invalidSnapshot
  else
    let accountedRequests := playbackRequests ∪ interruptedRequests
    .ok {
      playbackRequests
      audioRequests
      derivedPlayback := completedRequests ≠ ∅ ∧ playbackRequests ≠ ∅ ∧ accountedRequests = completedRequests }

-- What the loop of `validate_and_collect_av_sync` has at hand.
structure AvSyncSamples where
  unique     : Finset (Nat × Nat)
  sequences  : Std.TreeMap Nat (Finset Nat)
  references : Std.TreeMap Nat LabAvSyncReference
  offsets    : List Nat

def collectNextSample (requestStatus : RequestStatus) (audioRequests playbackRequests : Finset Nat)
    (s : AvSyncSamples) (sample : LabAvSyncEvidence) : Aggregating AvSyncSamples :=
  if sample.requestSequence = 0 ∨
      ¬(1 ≤ sample.sampleSequence ∧ sample.sampleSequence ≤ avSyncSamplesPerRequest) ∨
      sample.absoluteOffsetMillis > maxMediaElapsedMillis ∨
      requestStatus[sample.requestSequence]? ≠ some .completed ∨
      sample.requestSequence ∉ audioRequests ∨
      (sample.requestSequence, sample.sampleSequence) ∈ s.unique then
    .error .invalidMediaEvidence
  else if s.references[sample.requestSequence]?.any (· ≠ sample.reference) then
    .error .invalidMediaEvidence
  else if sample.requestSequence ∈ playbackRequests ∧ sample.reference ≠ .webRtcEstimatedPlayoutTimestamp then
    .error .invalidMediaEvidence
  else
    .ok {
      unique     := insert (sample.requestSequence, sample.sampleSequence) s.unique
      sequences  := s.sequences.insert sample.requestSequence
        (insert sample.sampleSequence (s.sequences.getD sample.requestSequence ∅))
      references := s.references.insert sample.requestSequence sample.reference
      offsets    :=
        if sample.requestSequence ∈ playbackRequests then
          s.offsets ++ [sample.absoluteOffsetMillis]
        else
          s.offsets }

def validateAndCollectAvSync (snapshot : LabSessionEvidenceSnapshot) (requestStatus : RequestStatus)
    (playbackRequests : Finset Nat) (offsets : List Nat) : Aggregating (Finset Nat × List Nat) := do
  let audioRequests := mediaRequests .audioStarted snapshot.mediaEvents
  let s ← snapshot.avSyncSamples.foldlM (collectNextSample requestStatus audioRequests playbackRequests)
    { unique := ∅, sequences := ∅, references := ∅, offsets }
  let complete := s.sequences.toList.filter fun (request, sequences) =>
    request ∈ playbackRequests ∧ sequences.card = avSyncSamplesPerRequest
  return ((complete.map Prod.fst).toFinset, s.offsets)

def validateNextDiagnostic (requestStatus : RequestStatus) (audioRequests provenRequests unique : Finset Nat)
    (diagnostic : LabAvSyncDiagnostic) : Aggregating (Finset Nat) :=
  if diagnostic.requestSequence = 0 ∨ diagnostic.attempts = 0 ∨
      (diagnostic.audioIssue.isNone ∧ diagnostic.videoIssue.isNone) ∨
      requestStatus[diagnostic.requestSequence]? ≠ some .completed ∨
      diagnostic.requestSequence ∉ audioRequests ∨ diagnostic.requestSequence ∈ provenRequests ∨
      diagnostic.requestSequence ∈ unique then
    .error .invalidMediaEvidence
  else
    .ok (insert diagnostic.requestSequence unique)

def validateAvSyncDiagnostics (snapshot : LabSessionEvidenceSnapshot) (requestStatus : RequestStatus)
    (audioRequests provenRequests : Finset Nat) : Aggregating Unit := do
  let _ ← snapshot.avSyncDiagnostics.foldlM
    (validateNextDiagnostic requestStatus audioRequests provenRequests) ∅
  return ()

-- A flag of a snapshot has to be what its evidence shows.
def requireFlag (flag derived : Bool) : Aggregating Unit :=
  if flag ≠ derived then .error .invalidSnapshot else .ok ()

def countSession (proven : Bool) (sessions : Nat) : Aggregating Nat :=
  if proven then orOverflow (checkedAddU32 sessions 1) else .ok sessions

namespace SessionAggregateAccumulator

variable (acc : SessionAggregateAccumulator)

def consumeSnapshot (snapshot : LabSessionEvidenceSnapshot) : Aggregating SessionAggregateAccumulator := do
  let sessionDurationMillis ← orOverflow (checkedAdd acc.sessionDurationMillis snapshot.sessionDurationMillis)
  let acc := { acc with sessionDurationMillis }
  let (acc, _) ← snapshot.textAttempts.foldlM consumeNextText (acc, ∅)
  let (acc, requestStatus) ← snapshot.voiceAttempts.foldlM consumeNextAttempt (acc, ∅)
  let acc ← validateAndCollectMedia snapshot requestStatus acc
  let playback ← validatePlaybackAccounting snapshot (completedRequests snapshot.voiceAttempts)
  requireFlag snapshot.canonicalPlaybackProven playback.derivedPlayback
  let playbackSessions ← countSession playback.derivedPlayback acc.playbackSessions
  let (avSyncRequests, avSync) ←
    validateAndCollectAvSync snapshot requestStatus playback.playbackRequests acc.avSync
  validateAvSyncDiagnostics snapshot requestStatus playback.audioRequests avSyncRequests
  let derivedAvSync := playback.derivedPlayback && avSyncRequests = playback.playbackRequests
  requireFlag snapshot.avSyncProven derivedAvSync
  let avSyncSessions ← countSession derivedAvSync acc.avSyncSessions
  return { acc with playbackSessions, avSync, avSyncSessions }

def finish (sessions : Nat) : Aggregating LabSessionEvidenceAggregate := do
  return {
    schemaVersion               := sessionAggregateSchema
    sourceSchemaVersion         := sessionEvidenceSchema
    sessions
    sessionDurationMillis       := acc.sessionDurationMillis
    completedTextAttempts       := acc.completedText
    failedTextAttempts          := acc.failedText
    completedVoiceAttempts      := acc.completedVoice
    failedVoiceAttempts         := acc.failedVoice
    canonicalPlaybackProven     := acc.completedVoice > 0 ∧ acc.playbackSessions = sessions
    avSyncProven                := acc.completedVoice > 0 ∧ acc.avSyncSessions = sessions
    textFirstMeaningfulResponse := ← distribution acc.textFirstMeaningful
    avSyncAbsoluteOffset        := ← distribution acc.avSync
    sttLatency                  := ← distribution acc.stt
    llmLatency                  := ← distribution acc.llm
    llmFirstMeaningfulResponse  := ← distribution acc.llmFirstMeaningful
    voiceFirstTextResponse      := ← distribution acc.voiceFirstText
    avatarSubmitLatency         := ← distribution acc.avatar
    serverTotalLatency          := ← distribution acc.serverTotal
    firstMeaningfulAudio        := ← distribution acc.audio
    interruptionStop            := ← distribution acc.interruption
    firstUsefulVideo            := ← distribution acc.video
    backendStartReady           := ← distribution acc.backendStart
    transportConnectStarted     := ← distribution acc.transportConnectStarted
    transportConnected          := ← distribution acc.transportConnected
    remoteVideoTrackReceived    := ← distribution acc.remoteVideoTrackReceived
    remoteVideoAttached         := ← distribution acc.remoteVideoAttached
    endToEndFirstUsefulVideo    := ← distribution acc.endToEndVideo
    recoverableReconnect        := ← distribution acc.reconnect
    estimatedCostMicrounits     := acc.estimatedCost
    providerChargeMicrounits    := acc.providerCharge }

end SessionAggregateAccumulator

-- The digest of a snapshot is the SHA-256 of its JSON encoding, which never fails.
abbrev SnapshotDigest := LabSessionEvidenceSnapshot → String

-- What the loop over the snapshots has at hand.
structure Aggregation where
  digests          : Finset String
  sessionSequences : Finset Nat
  accumulator      : SessionAggregateAccumulator

def aggregateNext (digest : SnapshotDigest) (s : Aggregation) (snapshot : LabSessionEvidenceSnapshot) :
    Aggregating Aggregation := do
  validateSnapshotHeader snapshot
  if snapshot.sessionSequence ∈ s.sessionSequences ∨ digest snapshot ∈ s.digests then
    .error .duplicateSnapshot
  else
    let accumulator ← s.accumulator.consumeSnapshot snapshot
    return {
      digests          := insert (digest snapshot) s.digests
      sessionSequences := insert snapshot.sessionSequence s.sessionSequences
      accumulator }

def aggregateOwnerLabSessionEvidence (digest : SnapshotDigest) (snapshots : List LabSessionEvidenceSnapshot) :
    Aggregating LabSessionEvidenceAggregate :=
  if snapshots.isEmpty then
    .error .emptyInput
  else if snapshots.length ≤ u32Max then do
    let s ← snapshots.foldlM (aggregateNext digest) { digests := ∅, sessionSequences := ∅, accumulator := {} }
    s.accumulator.finish snapshots.length
  else
    .error .overflow
