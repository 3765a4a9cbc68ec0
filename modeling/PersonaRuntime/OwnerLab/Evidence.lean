import PersonaRuntime.Evaluation.SessionEvidence
import PersonaRuntime.Machine.Basic

def maxSessionAttempts : Nat :=
  256

def maxMediaEvents : Nat :=
  1024

def maxAvSyncSamples : Nat :=
  maxSessionAttempts * avSyncSamplesPerRequest

inductive LabEvidenceError
  | invalidInput
  | invalidState
  | duplicateEvidence
  | capacityExceeded
deriving DecidableEq, Repr

structure LabMediaEvidenceInput where
  sessionSequence : Nat
  requestSequence : Option Nat
  kind            : LabMediaEvidenceKind
  elapsedMillis   : Nat

structure LabAvSyncEvidenceInput where
  sessionSequence      : Nat
  requestSequence      : Nat
  sampleSequence       : Nat
  reference            : LabAvSyncReference
  absoluteOffsetMillis : Nat

structure LabAvSyncDiagnosticInput where
  sessionSequence : Nat
  requestSequence : Nat
  attempts        : Nat
  audioIssue      : Option LabAvSyncTrackIssue
  videoIssue      : Option LabAvSyncTrackIssue

-- What the recorder reads of a result. The reply and the transcript are not recorded.
structure LabTextResult where
  evidenceTurnSequence          : Nat
  evidenceOutputSequence        : Nat
  firstMeaningfulResponseMillis : Nat
  totalMillis                   : Nat
  llmUsage                      : SessionUsageEvidence

structure LabVoiceSegment where
  evidenceTurnSequence   : Nat
  evidenceOutputSequence : Nat

structure LabVoiceResult where
  evidenceTurnSequence     : Nat
  evidenceOutputSequence   : Nat
  sttMillis                : Nat
  llmMillis                : Nat
  llmFirstMeaningfulMillis : Nat
  voiceFirstTextMillis     : Nat
  avatarMillis             : Nat
  ttsFirstPcmMillis        : Option Nat
  echoFirstSendMillis      : Option Nat
  totalMillis              : Nat
  sttUsage                 : SessionUsageEvidence
  llmUsage                 : SessionUsageEvidence

-- An `Instant` is the nanoseconds of a monotonic clock.
abbrev Instant := Nat

def elapsedMillis (started now : Instant) : Nat :=
  max (min ((now - started) / 1000000) u64Max) 1

structure LabSessionEvidenceRecorder where
  candidateSha         : String                                := ""
  providerStateSha256  : String                                := ""
  sessionSequence      : Option Nat                            := none
  participantRole      : Option ParticipantRole                := none
  isSealed             : Bool                                  := false
  sessionStarted       : Option Instant                        := none
  sealedDurationMillis : Option Nat                            := none
  textAttempts         : Std.TreeMap Nat LabTextAttemptEvidence  := ∅
  voiceAttempts        : Std.TreeMap Nat LabVoiceAttemptEvidence := ∅
  mediaEvents          : List LabMediaEvidence                 := []
  avSyncSamples        : List LabAvSyncEvidence                := []
  avSyncDiagnostics    : List LabAvSyncDiagnostic              := []

abbrev Recording := Except LabEvidenceError

namespace LabTextAttemptEvidence

def begin (requestSequence : Nat) : LabTextAttemptEvidence where
  requestSequence               := requestSequence
  canonicalTurnSequence         := none
  canonicalOutputSequence       := none
  status                        := .pending
  failureCode                   := none
  firstMeaningfulResponseMillis := none
  serverTotalMillis             := none
  llmUsage                      := none

def complete (a : LabTextAttemptEvidence) (result : LabTextResult) : LabTextAttemptEvidence :=
  { a with
    canonicalTurnSequence         := result.evidenceTurnSequence
    canonicalOutputSequence       := result.evidenceOutputSequence
    status                        := .completed
    firstMeaningfulResponseMillis := result.firstMeaningfulResponseMillis
    serverTotalMillis             := result.totalMillis
    llmUsage                      := result.llmUsage }

def fail (a : LabTextAttemptEvidence) (failureCode : String) : LabTextAttemptEvidence :=
  { a with status := .failed, failureCode }

end LabTextAttemptEvidence

def LabTextResult.malformed (result : LabTextResult) : Bool :=
  result.evidenceTurnSequence = 0 || result.evidenceOutputSequence = 0 ||
    result.firstMeaningfulResponseMillis > maxMediaElapsedMillis ||
    result.totalMillis > maxMediaElapsedMillis ||
    result.firstMeaningfulResponseMillis > result.totalMillis

namespace LabVoiceAttemptEvidence

def begin (requestSequence : Nat) : LabVoiceAttemptEvidence where
  requestSequence            := requestSequence
  canonicalTurnSequence      := none
  canonicalOutputSequence    := none
  canonicalPlaybackConfirmed := false
  status                     := .pending
  failureCode                := none
  sttMillis                  := none
  llmMillis                  := none
  llmFirstMeaningfulMillis   := none
  voiceFirstTextMillis       := none
  ttsFirstPcmMillis          := none
  echoFirstSendMillis        := none
  avatarMillis               := none
  serverTotalMillis          := none
  sttUsage                   := none
  llmUsage                   := none

def bind (a : LabVoiceAttemptEvidence) (segment : LabVoiceSegment) : LabVoiceAttemptEvidence :=
  { a with
    canonicalTurnSequence   := segment.evidenceTurnSequence
    canonicalOutputSequence := segment.evidenceOutputSequence }

def complete (a : LabVoiceAttemptEvidence) (result : LabVoiceResult) : LabVoiceAttemptEvidence :=
  { a with
    canonicalTurnSequence    := result.evidenceTurnSequence
    canonicalOutputSequence  := result.evidenceOutputSequence
    status                   := .completed
    sttMillis                := result.sttMillis
    llmMillis                := result.llmMillis
    llmFirstMeaningfulMillis := result.llmFirstMeaningfulMillis
    voiceFirstTextMillis     := result.voiceFirstTextMillis
    avatarMillis             := result.avatarMillis
    ttsFirstPcmMillis        := result.ttsFirstPcmMillis
    echoFirstSendMillis      := result.echoFirstSendMillis
    serverTotalMillis        := result.totalMillis
    sttUsage                 := result.sttUsage
    llmUsage                 := result.llmUsage }

def fail (a : LabVoiceAttemptEvidence) (failureCode : String) : LabVoiceAttemptEvidence :=
  { a with status := .failed, failureCode }

def confirm (a : LabVoiceAttemptEvidence) : LabVoiceAttemptEvidence :=
  { a with canonicalPlaybackConfirmed := true }

-- The binding of a segment that is not the one of the result.
def boundElsewhere (a : LabVoiceAttemptEvidence) (result : LabVoiceResult) : Bool :=
  match a.canonicalTurnSequence, a.canonicalOutputSequence with
  | some turn, some output => turn ≠ result.evidenceTurnSequence || output ≠ result.evidenceOutputSequence
  | _, _                   => false

end LabVoiceAttemptEvidence

def LabVoiceResult.malformed (result : LabVoiceResult) : Bool :=
  result.sttMillis > maxMediaElapsedMillis || result.llmMillis > maxMediaElapsedMillis ||
    result.llmFirstMeaningfulMillis > result.llmMillis ||
    result.avatarMillis > maxMediaElapsedMillis ||
    result.ttsFirstPcmMillis.any (· > result.avatarMillis) ||
    result.echoFirstSendMillis.any (· > result.avatarMillis) ||
    (match result.ttsFirstPcmMillis, result.echoFirstSendMillis with
      | some first, some sent => first > sent
      | _, _                  => false) ||
    result.ttsFirstPcmMillis.isSome ≠ result.echoFirstSendMillis.isSome ||
    result.totalMillis > maxMediaElapsedMillis ||
    result.voiceFirstTextMillis > result.totalMillis

namespace LabSessionEvidenceRecorder

variable (r : LabSessionEvidenceRecorder)

def bindProvenance (candidateSha providerStateSha256 : String) : Recording LabSessionEvidenceRecorder :=
  if r.sessionSequence.isSome then
    .error .invalidState
  else if !validGitSha candidateSha ∨ !validProviderStateSha256 providerStateSha256 then
    .error .invalidInput
  else
    .ok { r with candidateSha, providerStateSha256 }

def beginSession (sessionSequence : Nat) (participantRole : ParticipantRole) (now : Instant) :
    Recording LabSessionEvidenceRecorder :=
  if sessionSequence = 0 then
    .error .invalidInput
  else
    .ok {
      candidateSha        := r.candidateSha
      providerStateSha256 := r.providerStateSha256
      sessionSequence     := sessionSequence
      participantRole     := participantRole
      sessionStarted      := now }

def sealSession (now : Instant) : LabSessionEvidenceRecorder :=
  if r.sessionSequence.isSome ∧ !r.isSealed then
    { r with sealedDurationMillis := r.sessionStarted.map (elapsedMillis · now), isSealed := true }
  else
    r

def sessionAttemptCount : Nat :=
  min (r.textAttempts.size + r.voiceAttempts.size) u64Max

def beginTextRequest (requestSequence : Nat) : Recording LabSessionEvidenceRecorder :=
  if r.sessionSequence.isNone ∨ r.isSealed then
    .error .invalidState
  else if requestSequence = 0 then
    .error .invalidInput
  else if requestSequence ∈ r.textAttempts then
    .error .duplicateEvidence
  else if r.sessionAttemptCount ≥ maxSessionAttempts then
    .error .capacityExceeded
  else
    .ok { r with textAttempts := r.textAttempts.insert requestSequence (.begin requestSequence) }

def completeTextRequest (requestSequence : Nat) (result : LabTextResult) :
    Recording LabSessionEvidenceRecorder :=
  match r.textAttempts[requestSequence]? with
  | none   => .error .invalidState
  | some a =>
    if a.status ≠ .pending then
      .error .duplicateEvidence
    else if result.malformed then
      .error .invalidInput
    else
      .ok { r with textAttempts := r.textAttempts.insert requestSequence (a.complete result) }

def failTextRequest (requestSequence : Nat) (failureCode : String) :
    Recording LabSessionEvidenceRecorder :=
  match r.textAttempts[requestSequence]? with
  | none   => .error .invalidState
  | some a =>
    if a.status ≠ .pending ∨ isBlank failureCode then
      .error .duplicateEvidence
    else
      .ok { r with textAttempts := r.textAttempts.insert requestSequence (a.fail failureCode) }

def beginVoiceRequest (requestSequence : Nat) : Recording LabSessionEvidenceRecorder :=
  if r.sessionSequence.isNone ∨ r.isSealed then
    .error .invalidState
  else if requestSequence = 0 then
    .error .invalidInput
  else if requestSequence ∈ r.voiceAttempts then
    .error .duplicateEvidence
  else if r.sessionAttemptCount ≥ maxSessionAttempts then
    .error .capacityExceeded
  else
    .ok { r with voiceAttempts := r.voiceAttempts.insert requestSequence (.begin requestSequence) }

def bindVoiceSegment (requestSequence : Nat) (segment : LabVoiceSegment) :
    Recording LabSessionEvidenceRecorder :=
  if segment.evidenceTurnSequence = 0 ∨ segment.evidenceOutputSequence = 0 then
    .error .invalidInput
  else
    match r.voiceAttempts[requestSequence]? with
    | none   => .error .invalidState
    | some a =>
      if a.status ≠ .pending then
        .error .invalidState
      else
        match a.canonicalTurnSequence, a.canonicalOutputSequence with
        | none, none        =>
          .ok { r with voiceAttempts := r.voiceAttempts.insert requestSequence (a.bind segment) }
        | some turn, some _ => if turn = segment.evidenceTurnSequence then .ok r else .error .invalidState
        | _, _              => .error .invalidState

def completeVoiceRequest (requestSequence : Nat) (result : LabVoiceResult) :
    Recording LabSessionEvidenceRecorder :=
  match r.voiceAttempts[requestSequence]? with
  | none   => .error .invalidState
  | some a =>
    if a.status ≠ .pending then
      .error .duplicateEvidence
    else if result.evidenceTurnSequence = 0 ∨ result.evidenceOutputSequence = 0 ∨
        a.boundElsewhere result ∨ result.malformed then
      .error .invalidInput
    else
      .ok { r with voiceAttempts := r.voiceAttempts.insert requestSequence (a.complete result) }

def failVoiceRequest (requestSequence : Nat) (failureCode : String) :
    Recording LabSessionEvidenceRecorder :=
  match r.voiceAttempts[requestSequence]? with
  | none   => .error .invalidState
  | some a =>
    if a.status ≠ .pending ∨ isBlank failureCode then
      .error .duplicateEvidence
    else
      .ok { r with voiceAttempts := r.voiceAttempts.insert requestSequence (a.fail failureCode) }

def completedPlaybackBinding (requestSequence : Nat) : Recording (Nat × Nat) :=
  if r.isSealed then
    .error .invalidState
  else
    match r.voiceAttempts[requestSequence]? with
    | none   => .error .invalidState
    | some a =>
      if a.status = .failed then
        .error .invalidState
      else
        match a.canonicalTurnSequence, a.canonicalOutputSequence with
        | some turn, some output => if turn > 0 ∧ output > 0 then .ok (turn, output) else .error .invalidState
        | _, _                   => .error .invalidState

def validateMedia (input : LabMediaEvidenceInput) : Recording Unit :=
  if r.sessionSequence ≠ some input.sessionSequence ∨ r.isSealed then
    .error .invalidState
  else if input.elapsedMillis > maxMediaElapsedMillis then
    .error .invalidInput
  else if input.kind.requiresRequestSequence ≠ input.requestSequence.isSome then
    .error .invalidInput
  else if input.requestSequence.any (· ∉ r.voiceAttempts) then
    .error .invalidState
  else if r.mediaEvents.any fun event => event.kind = input.kind ∧
      event.requestSequence = input.requestSequence ∧ input.kind ≠ .reconnectRestored then
    .error .duplicateEvidence
  else if r.mediaEvents.length ≥ maxMediaEvents then
    .error .capacityExceeded
  else
    .ok ()

def pushMedia (input : LabMediaEvidenceInput) : LabSessionEvidenceRecorder :=
  { r with mediaEvents := r.mediaEvents ++ [⟨input.requestSequence, input.kind, input.elapsedMillis⟩] }

def recordMedia (input : LabMediaEvidenceInput) : Recording LabSessionEvidenceRecorder :=
  if input.kind = .playbackCompleted then
    .error .invalidState
  else do
    r.validateMedia input
    return r.pushMedia input

def prepareCanonicalPlayback (input : LabMediaEvidenceInput) : Recording (Nat × Nat) :=
  if input.kind ≠ .playbackCompleted then
    .error .invalidInput
  else do
    r.validateMedia input
    match input.requestSequence with
    | none                 => .error .invalidInput
    | some requestSequence => r.completedPlaybackBinding requestSequence

def recordCanonicalPlayback (input : LabMediaEvidenceInput)
    (canonicalTurnSequence canonicalOutputSequence : Nat) : Recording LabSessionEvidenceRecorder :=
  if input.kind ≠ .playbackCompleted then
    .error .invalidInput
  else do
    r.validateMedia input
    match input.requestSequence with
    | none                 => .error .invalidInput
    | some requestSequence =>
      let binding ← r.completedPlaybackBinding requestSequence
      if binding ≠ (canonicalTurnSequence, canonicalOutputSequence) then
        .error .invalidState
      else
        match r.voiceAttempts[requestSequence]? with
        | none   => .error .invalidState
        | some a =>
          let r := { r with voiceAttempts := r.voiceAttempts.insert requestSequence a.confirm }
          return r.pushMedia input

def audioStarted (requestSequence : Nat) : Bool :=
  r.mediaEvents.any fun event => event.requestSequence = some requestSequence ∧ event.kind = .audioStarted

def sampled (requestSequence sampleSequence : Nat) : Bool :=
  r.avSyncSamples.any fun sample =>
    sample.requestSequence = requestSequence ∧ sample.sampleSequence = sampleSequence

-- `(1..=RT0_AV_SYNC_SAMPLES_PER_REQUEST).all(..)`
def completeSamples (requestSequence : Nat) : Bool :=
  (List.range' 1 avSyncSamplesPerRequest).all (r.sampled requestSequence)

def diagnosed (requestSequence : Nat) : Bool :=
  r.avSyncDiagnostics.any (·.requestSequence = requestSequence)

def recordAvSync (input : LabAvSyncEvidenceInput) : Recording LabSessionEvidenceRecorder :=
  if r.sessionSequence ≠ some input.sessionSequence ∨ r.isSealed then
    .error .invalidState
  else if input.requestSequence = 0 ∨
      ¬(1 ≤ input.sampleSequence ∧ input.sampleSequence ≤ avSyncSamplesPerRequest) ∨
      input.absoluteOffsetMillis > maxMediaElapsedMillis then
    .error .invalidInput
  else
    match r.voiceAttempts[input.requestSequence]? with
    | none   => .error .invalidState
    | some a =>
      if a.status = .failed ∨ !r.audioStarted input.requestSequence then
        .error .invalidState
      else if r.diagnosed input.requestSequence then
        .error .invalidState
      else if r.sampled input.requestSequence input.sampleSequence then
        .error .duplicateEvidence
      else if r.avSyncSamples.length ≥ maxAvSyncSamples then
        .error .capacityExceeded
      else
        .ok { r with
          avSyncSamples := r.avSyncSamples ++
            [⟨input.requestSequence, input.sampleSequence, input.reference, input.absoluteOffsetMillis⟩] }

def recordAvSyncDiagnostic (input : LabAvSyncDiagnosticInput) : Recording LabSessionEvidenceRecorder :=
  if r.sessionSequence ≠ some input.sessionSequence ∨ r.isSealed then
    .error .invalidState
  else if input.requestSequence = 0 ∨ input.attempts = 0 ∨
      (input.audioIssue.isNone ∧ input.videoIssue.isNone) then
    .error .invalidInput
  else
    match r.voiceAttempts[input.requestSequence]? with
    | none   => .error .invalidState
    | some a =>
      if a.status = .failed ∨ !r.audioStarted input.requestSequence then
        .error .invalidState
      else if r.completeSamples input.requestSequence then
        .error .invalidState
      else if r.diagnosed input.requestSequence then
        .error .duplicateEvidence
      else if r.avSyncDiagnostics.length ≥ maxSessionAttempts then
        .error .capacityExceeded
      else
        .ok { r with
          avSyncDiagnostics := r.avSyncDiagnostics ++
            [⟨input.requestSequence, input.attempts, input.audioIssue, input.videoIssue⟩] }

-- `map.values().cloned().collect()`, in the order of the keys.
def texts : List LabTextAttemptEvidence :=
  r.textAttempts.toList.map Prod.snd

def voices : List LabVoiceAttemptEvidence :=
  r.voiceAttempts.toList.map Prod.snd

def completedAttempts : List LabVoiceAttemptEvidence :=
  r.voices.filter (·.status = .completed)

def canonicalPlaybackProven : Bool :=
  !r.completedAttempts.isEmpty && r.completedAttempts.any (·.canonicalPlaybackConfirmed) &&
    r.completedAttempts.all fun a =>
      a.canonicalPlaybackConfirmed || a.requestSequence ∈ mediaRequests .interruptionStopped r.mediaEvents

def avSyncProven : Bool :=
  r.canonicalPlaybackProven && (r.completedAttempts.filter (·.canonicalPlaybackConfirmed)).all fun a =>
    r.completeSamples a.requestSequence

def snapshot (now : Instant) : Recording LabSessionEvidenceSnapshot :=
  match r.sessionSequence, r.participantRole,
      r.sealedDurationMillis.orElse fun _ => r.sessionStarted.map (elapsedMillis · now) with
  | some sessionSequence, some participantRole, some sessionDurationMillis =>
    .ok {
      schemaVersion           := sessionEvidenceSchema
      candidateSha            := r.candidateSha
      providerStateSha256     := r.providerStateSha256
      scope                   := mediaEvidenceScope
      sessionSequence
      participantRole
      sessionDurationMillis
      canonicalPlaybackProven := r.canonicalPlaybackProven
      avSyncProven            := r.avSyncProven
      textAttempts            := r.texts
      voiceAttempts           := r.voices
      mediaEvents             := r.mediaEvents
      avSyncSamples           := r.avSyncSamples
      avSyncDiagnostics       := r.avSyncDiagnostics }
  | _, _, _ => .error .invalidState

end LabSessionEvidenceRecorder

inductive RecorderCall
  | bindProvenance (candidateSha providerStateSha256 : String)
  | beginSession (sessionSequence : Nat) (participantRole : ParticipantRole) (now : Instant)
  | sealSession (now : Instant)
  | beginText (requestSequence : Nat)
  | completeText (requestSequence : Nat) (result : LabTextResult)
  | failText (requestSequence : Nat) (failureCode : String)
  | beginVoice (requestSequence : Nat)
  | bindVoiceSegment (requestSequence : Nat) (segment : LabVoiceSegment)
  | completeVoice (requestSequence : Nat) (result : LabVoiceResult)
  | failVoice (requestSequence : Nat) (failureCode : String)
  | recordMedia (input : LabMediaEvidenceInput)
  | recordCanonicalPlayback (input : LabMediaEvidenceInput) (turn output : Nat)
  | recordAvSync (input : LabAvSyncEvidenceInput)
  | recordAvSyncDiagnostic (input : LabAvSyncDiagnosticInput)

namespace LabSessionEvidenceRecorder

def call (r : LabSessionEvidenceRecorder) : RecorderCall → Recording LabSessionEvidenceRecorder
  | .bindProvenance candidateSha providerStateSha256 => r.bindProvenance candidateSha providerStateSha256
  | .beginSession sessionSequence role now           => r.beginSession sessionSequence role now
  | .sealSession now                                 => .ok (r.sealSession now)
  | .beginText requestSequence                       => r.beginTextRequest requestSequence
  | .completeText requestSequence result             => r.completeTextRequest requestSequence result
  | .failText requestSequence failureCode            => r.failTextRequest requestSequence failureCode
  | .beginVoice requestSequence                      => r.beginVoiceRequest requestSequence
  | .bindVoiceSegment requestSequence segment        => r.bindVoiceSegment requestSequence segment
  | .completeVoice requestSequence result            => r.completeVoiceRequest requestSequence result
  | .failVoice requestSequence failureCode           => r.failVoiceRequest requestSequence failureCode
  | .recordMedia input                               => r.recordMedia input
  | .recordCanonicalPlayback input turn output       => r.recordCanonicalPlayback input turn output
  | .recordAvSync input                              => r.recordAvSync input
  | .recordAvSyncDiagnostic input                    => r.recordAvSyncDiagnostic input

-- A call that is rejected leaves the recorder as it was. What is seen of a call is its result.
def machine : Machine LabSessionEvidenceRecorder RecorderCall (Recording Unit) where
  init r := r = {}
  step r e :=
    match r.call e with
    | .ok r'   => some (r', [.ok ()])
    | .error e => some (r, [.error e])

end LabSessionEvidenceRecorder
