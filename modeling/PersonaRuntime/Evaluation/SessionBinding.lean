import PersonaRuntime.Evaluation.ExitEvidence

def rt0OwnerLabSessionBindingSchema : String :=
  "rt0-owner-lab-session-aggregate-binding-0.8"

structure BoundLabSessionEvidenceAggregate where
  schemaVersion       : String
  candidateSha        : String
  providerStateSha256 : String
  snapshotSha256      : List String
  aggregate           : LabSessionEvidenceAggregate
deriving DecidableEq, Repr

inductive LabSessionBindingError
  | emptyInput
  | invalidCandidateSha
  | invalidProviderState
  | invalidSnapshot
  | candidateMismatch
  | providerStateMismatch
  | duplicateArtifact
  | aggregateInvalid
deriving DecidableEq, Repr

-- The derived readers.

def LabMediaEvidenceKind.jsonName : LabMediaEvidenceKind → String
  | videoReady                     => "video_ready"
  | backendStartReady              => "backend_start_ready"
  | transportConnectStarted        => "transport_connect_started"
  | transportConnected             => "transport_connected"
  | remoteVideoTrackReceived       => "remote_video_track_received"
  | remoteVideoAttached            => "remote_video_attached"
  | endToEndVideoReady             => "end_to_end_video_ready"
  | backendCompleteReceived        => "backend_complete_received"
  | clientDeliverySent             => "client_delivery_sent"
  | audioStarted                   => "audio_started"
  | providerDataReceived           => "provider_data_received"
  | providerEventIgnored           => "provider_event_ignored"
  | providerUnknownChatEvent       => "provider_unknown_chat_event"
  | providerUnknownVideoEvent      => "provider_unknown_video_event"
  | providerUnknownToolEvent       => "provider_unknown_tool_event"
  | providerUnknownOtherEvent      => "provider_unknown_other_event"
  | providerVideoGenerationStarted => "provider_video_generation_started"
  | providerVideoGenerationDone    => "provider_video_generation_done"
  | providerVideoGenerationFailed  => "provider_video_generation_failed"
  | providerInformationalEvent     => "provider_informational_event"
  | providerEventParseFailed       => "provider_event_parse_failed"
  | providerPlaybackDoneReceived   => "provider_playback_done_received"
  | playbackRecoveryTriggered      => "playback_recovery_triggered"
  | browserAudioTailObserved       => "browser_audio_tail_observed"
  | playbackCompleted              => "playback_completed"
  | interruptionStopped            => "interruption_stopped"
  | reconnectRestored              => "reconnect_restored"

def LabMediaEvidenceKind.json : JsonCodec LabMediaEvidenceKind :=
  .variant [.videoReady, .backendStartReady, .transportConnectStarted, .transportConnected,
    .remoteVideoTrackReceived, .remoteVideoAttached, .endToEndVideoReady, .backendCompleteReceived,
    .clientDeliverySent, .audioStarted, .providerDataReceived, .providerEventIgnored, .providerUnknownChatEvent,
    .providerUnknownVideoEvent, .providerUnknownToolEvent, .providerUnknownOtherEvent,
    .providerVideoGenerationStarted, .providerVideoGenerationDone, .providerVideoGenerationFailed,
    .providerInformationalEvent, .providerEventParseFailed, .providerPlaybackDoneReceived,
    .playbackRecoveryTriggered, .browserAudioTailObserved, .playbackCompleted, .interruptionStopped,
    .reconnectRestored] (·.jsonName)

def LabAvSyncReference.jsonName : LabAvSyncReference → String
  | webRtcEstimatedPlayoutTimestamp => "web_rtc_estimated_playout_timestamp"
  | htmlMediaElementCurrentTime     => "html_media_element_current_time"

def LabAvSyncReference.json : JsonCodec LabAvSyncReference :=
  .variant [.webRtcEstimatedPlayoutTimestamp, .htmlMediaElementCurrentTime] (·.jsonName)

def LabAvSyncTrackIssue.jsonName : LabAvSyncTrackIssue → String
  | statsUnavailable              => "stats_unavailable"
  | timestampUnavailable          => "timestamp_unavailable"
  | senderReportTimingUnavailable => "sender_report_timing_unavailable"
  | ambiguousStreams              => "ambiguous_streams"
  | noUniqueActiveStream          => "no_unique_active_stream"

def LabAvSyncTrackIssue.json : JsonCodec LabAvSyncTrackIssue :=
  .variant [.statsUnavailable, .timestampUnavailable, .senderReportTimingUnavailable, .ambiguousStreams,
    .noUniqueActiveStream] (·.jsonName)

def LabAttemptStatus.jsonName : LabAttemptStatus → String
  | pending   => "pending"
  | completed => "completed"
  | failed    => "failed"

def LabAttemptStatus.json : JsonCodec LabAttemptStatus :=
  .variant [.pending, .completed, .failed] (·.jsonName)

-- The numbers of a record, without the bounds that reading them has checked

def JsonFields.nat (f : JsonFields) (name : String) (max : Nat) : Option Nat :=
  (f.required name (JsonCodec.unsigned max).decode).map (·.val)

def JsonFields.optionalNat (f : JsonFields) (name : String) (max : Nat) : Option (Option Nat) :=
  (f.optional name (JsonCodec.unsigned max).decode).map (·.map (·.val))

def JsonFields.defaultedNat (f : JsonFields) (name : String) (max : Nat) : Option (Option Nat) :=
  (f.defaulted name (JsonCodec.unsigned max).nullable.decode none).map (·.map (·.val))

def LatencyDistributionMillis.decode (j : Json) : Option LatencyDistributionMillis :=
  (FieldsCodec.latency.record.decode j).map (·.val)

def SessionUsageEvidence.decode (j : Json) : Option SessionUsageEvidence := do
  let f ← JsonFields.ofRecord ["input_units", "output_units", "estimated_cost_microunits",
    "provider_charge_microunits"] j
  return {
    inputUnits               := ← f.optionalNat "input_units" u64Max
    outputUnits              := ← f.optionalNat "output_units" u64Max
    estimatedCostMicrounits  := ← f.optionalNat "estimated_cost_microunits" u64Max
    providerChargeMicrounits := ← f.optionalNat "provider_charge_microunits" u64Max }

def LabTextAttemptEvidence.decode (j : Json) : Option LabTextAttemptEvidence := do
  let f ← JsonFields.ofRecord ["request_sequence", "canonical_turn_sequence", "canonical_output_sequence", "status",
    "failure_code", "first_meaningful_response_millis", "server_total_millis", "llm_usage"] j
  return {
    requestSequence               := ← f.nat "request_sequence" u64Max
    canonicalTurnSequence         := ← f.optionalNat "canonical_turn_sequence" u64Max
    canonicalOutputSequence       := ← f.optionalNat "canonical_output_sequence" u64Max
    status                        := ← f.required "status" LabAttemptStatus.json.decode
    failureCode                   := ← f.optional "failure_code" JsonCodec.text.decode
    firstMeaningfulResponseMillis := ← f.optionalNat "first_meaningful_response_millis" u64Max
    serverTotalMillis             := ← f.optionalNat "server_total_millis" u64Max
    llmUsage                      := ← f.optional "llm_usage" SessionUsageEvidence.decode }

def LabVoiceAttemptEvidence.decode (j : Json) : Option LabVoiceAttemptEvidence := do
  let f ← JsonFields.ofRecord ["request_sequence", "canonical_turn_sequence", "canonical_output_sequence",
    "canonical_playback_confirmed", "status", "failure_code", "stt_millis", "llm_millis",
    "llm_first_meaningful_millis", "voice_first_text_millis", "tts_first_pcm_millis", "echo_first_send_millis",
    "avatar_millis", "server_total_millis", "stt_usage", "llm_usage"] j
  return {
    requestSequence            := ← f.nat "request_sequence" u64Max
    canonicalTurnSequence      := ← f.optionalNat "canonical_turn_sequence" u64Max
    canonicalOutputSequence    := ← f.optionalNat "canonical_output_sequence" u64Max
    canonicalPlaybackConfirmed := ← f.required "canonical_playback_confirmed" JsonCodec.flag.decode
    status                     := ← f.required "status" LabAttemptStatus.json.decode
    failureCode                := ← f.optional "failure_code" JsonCodec.text.decode
    sttMillis                  := ← f.optionalNat "stt_millis" u64Max
    llmMillis                  := ← f.optionalNat "llm_millis" u64Max
    llmFirstMeaningfulMillis   := ← f.optionalNat "llm_first_meaningful_millis" u64Max
    voiceFirstTextMillis       := ← f.defaultedNat "voice_first_text_millis" u64Max
    ttsFirstPcmMillis          := ← f.defaultedNat "tts_first_pcm_millis" u64Max
    echoFirstSendMillis        := ← f.defaultedNat "echo_first_send_millis" u64Max
    avatarMillis               := ← f.optionalNat "avatar_millis" u64Max
    serverTotalMillis          := ← f.optionalNat "server_total_millis" u64Max
    sttUsage                   := ← f.optional "stt_usage" SessionUsageEvidence.decode
    llmUsage                   := ← f.optional "llm_usage" SessionUsageEvidence.decode }

def LabMediaEvidence.decode (j : Json) : Option LabMediaEvidence := do
  let f ← JsonFields.ofRecord ["request_sequence", "kind", "elapsed_millis"] j
  return {
    requestSequence := ← f.optionalNat "request_sequence" u64Max
    kind            := ← f.required "kind" LabMediaEvidenceKind.json.decode
    elapsedMillis   := ← f.nat "elapsed_millis" u64Max }

def LabAvSyncEvidence.decode (j : Json) : Option LabAvSyncEvidence := do
  let f ← JsonFields.ofRecord ["request_sequence", "sample_sequence", "reference", "absolute_offset_millis"] j
  return {
    requestSequence      := ← f.nat "request_sequence" u64Max
    sampleSequence       := ← f.nat "sample_sequence" u32Max
    reference            := ← f.required "reference" LabAvSyncReference.json.decode
    absoluteOffsetMillis := ← f.nat "absolute_offset_millis" u64Max }

def LabAvSyncDiagnostic.decode (j : Json) : Option LabAvSyncDiagnostic := do
  let f ← JsonFields.ofRecord ["request_sequence", "attempts", "audio_issue", "video_issue"] j
  return {
    requestSequence := ← f.nat "request_sequence" u64Max
    attempts        := ← f.nat "attempts" u32Max
    audioIssue      := ← f.optional "audio_issue" LabAvSyncTrackIssue.json.decode
    videoIssue      := ← f.optional "video_issue" LabAvSyncTrackIssue.json.decode }

def LabSessionEvidenceSnapshot.decode (j : Json) : Option LabSessionEvidenceSnapshot := do
  let f ← JsonFields.ofRecord ["schema_version", "candidate_sha", "provider_state_sha256", "scope",
    "session_sequence", "participant_role", "session_duration_millis", "canonical_playback_proven",
    "av_sync_proven", "text_attempts", "voice_attempts", "media_events", "av_sync_samples",
    "av_sync_diagnostics"] j
  return {
    schemaVersion           := ← f.required "schema_version" JsonCodec.text.decode
    candidateSha            := ← f.required "candidate_sha" JsonCodec.text.decode
    providerStateSha256     := ← f.required "provider_state_sha256" JsonCodec.text.decode
    scope                   := ← f.required "scope" JsonCodec.text.decode
    sessionSequence         := ← f.nat "session_sequence" u64Max
    participantRole         := ← f.required "participant_role" ParticipantRole.json.decode
    sessionDurationMillis   := ← f.nat "session_duration_millis" u64Max
    canonicalPlaybackProven := ← f.required "canonical_playback_proven" JsonCodec.flag.decode
    avSyncProven            := ← f.required "av_sync_proven" JsonCodec.flag.decode
    textAttempts            := ← f.required "text_attempts" (Json.decodeList LabTextAttemptEvidence.decode)
    voiceAttempts           := ← f.required "voice_attempts" (Json.decodeList LabVoiceAttemptEvidence.decode)
    mediaEvents             := ← f.required "media_events" (Json.decodeList LabMediaEvidence.decode)
    avSyncSamples           := ← f.required "av_sync_samples" (Json.decodeList LabAvSyncEvidence.decode)
    avSyncDiagnostics       := ← f.defaulted "av_sync_diagnostics" (Json.decodeList LabAvSyncDiagnostic.decode) [] }

def LabSessionEvidenceAggregate.decode (j : Json) : Option LabSessionEvidenceAggregate := do
  let f ← JsonFields.ofRecord ["schema_version", "source_schema_version", "sessions", "session_duration_millis",
    "completed_text_attempts", "failed_text_attempts", "completed_voice_attempts", "failed_voice_attempts",
    "canonical_playback_proven", "av_sync_proven", "text_first_meaningful_response", "av_sync_absolute_offset",
    "stt_latency", "llm_latency", "llm_first_meaningful_response", "voice_first_text_response",
    "avatar_submit_latency", "server_total_latency", "first_meaningful_audio", "interruption_stop",
    "first_useful_video", "backend_start_ready", "transport_connect_started", "transport_connected",
    "remote_video_track_received", "remote_video_attached", "end_to_end_first_useful_video",
    "recoverable_reconnect", "estimated_cost_microunits", "provider_charge_microunits"] j
  let distribution name := f.optional name LatencyDistributionMillis.decode
  return {
    schemaVersion               := ← f.required "schema_version" JsonCodec.text.decode
    sourceSchemaVersion         := ← f.required "source_schema_version" JsonCodec.text.decode
    sessions                    := ← f.nat "sessions" u32Max
    sessionDurationMillis       := ← f.nat "session_duration_millis" u64Max
    completedTextAttempts       := ← f.nat "completed_text_attempts" u32Max
    failedTextAttempts          := ← f.nat "failed_text_attempts" u32Max
    completedVoiceAttempts      := ← f.nat "completed_voice_attempts" u32Max
    failedVoiceAttempts         := ← f.nat "failed_voice_attempts" u32Max
    canonicalPlaybackProven     := ← f.required "canonical_playback_proven" JsonCodec.flag.decode
    avSyncProven                := ← f.required "av_sync_proven" JsonCodec.flag.decode
    textFirstMeaningfulResponse := ← distribution "text_first_meaningful_response"
    avSyncAbsoluteOffset        := ← distribution "av_sync_absolute_offset"
    sttLatency                  := ← distribution "stt_latency"
    llmLatency                  := ← distribution "llm_latency"
    llmFirstMeaningfulResponse  := ← distribution "llm_first_meaningful_response"
    voiceFirstTextResponse      :=
      ← f.defaulted "voice_first_text_response" (FieldsCodec.latency.record.nullable.decode · |>.map (·.map (·.val))) none
    avatarSubmitLatency         := ← distribution "avatar_submit_latency"
    serverTotalLatency          := ← distribution "server_total_latency"
    firstMeaningfulAudio        := ← distribution "first_meaningful_audio"
    interruptionStop            := ← distribution "interruption_stop"
    firstUsefulVideo            := ← distribution "first_useful_video"
    backendStartReady           := ← distribution "backend_start_ready"
    transportConnectStarted     := ← distribution "transport_connect_started"
    transportConnected          := ← distribution "transport_connected"
    remoteVideoTrackReceived    := ← distribution "remote_video_track_received"
    remoteVideoAttached         := ← distribution "remote_video_attached"
    endToEndFirstUsefulVideo    := ← distribution "end_to_end_first_useful_video"
    recoverableReconnect        := ← distribution "recoverable_reconnect"
    estimatedCostMicrounits     := ← f.optionalNat "estimated_cost_microunits" u64Max
    providerChargeMicrounits    := ← f.optionalNat "provider_charge_microunits" u64Max }

def BoundLabSessionEvidenceAggregate.decode (j : Json) : Option BoundLabSessionEvidenceAggregate := do
  let f ← JsonFields.ofRecord ["schema_version", "candidate_sha", "provider_state_sha256", "snapshot_sha256",
    "aggregate"] j
  return {
    schemaVersion       := ← f.required "schema_version" JsonCodec.text.decode
    candidateSha        := ← f.required "candidate_sha" JsonCodec.text.decode
    providerStateSha256 := ← f.required "provider_state_sha256" JsonCodec.text.decode
    snapshotSha256      := ← f.required "snapshot_sha256" JsonCodec.text.list.decode
    aggregate           := ← f.required "aggregate" LabSessionEvidenceAggregate.decode }

-- What the loop over the snapshot artifacts has at hand.
structure SnapshotBinding where
  artifactDigests : List String
  snapshots       : List LabSessionEvidenceSnapshot

namespace ArtifactFormat

variable (F : ArtifactFormat)

def bindNext (exactCandidateSha providerStateSha256 : String) (s : SnapshotBinding) (bytes : List UInt8) :
    Except LabSessionBindingError SnapshotBinding :=
  if F.sha256Hex bytes ∈ s.artifactDigests then
    .error .duplicateArtifact
  else
    match F.fromSlice LabSessionEvidenceSnapshot.decode bytes with
    | none          => .error .invalidSnapshot
    | some snapshot =>
      if snapshot.candidateSha ≠ exactCandidateSha then
        .error .candidateMismatch
      else if snapshot.providerStateSha256 ≠ providerStateSha256 then
        .error .providerStateMismatch
      else
        .ok ⟨s.artifactDigests ++ [F.sha256Hex bytes], s.snapshots ++ [snapshot]⟩

def bindOwnerLabSessionEvidence (snapshotArtifacts : List (List UInt8)) (providerStateBytes : List UInt8)
    (exactCandidateSha : String) : Except LabSessionBindingError BoundLabSessionEvidenceAggregate := do
  if snapshotArtifacts.isEmpty then
    .error .emptyInput
  if !validGitSha exactCandidateSha then
    .error .invalidCandidateSha
  match F.fromSlice ProviderStateManifest.decode providerStateBytes with
  | none               => .error .invalidProviderState
  | some providerState =>
    if providerState.schemaVersion ≠ rt0ProviderStateSchema ∨
        !(validateProviderState providerState.providers).isOk then
      .error .invalidProviderState
    let providerStateSha256 := F.sha256Hex providerStateBytes
    let s ← snapshotArtifacts.foldlM (F.bindNext exactCandidateSha providerStateSha256) ⟨[], []⟩
    let aggregate ← (aggregateOwnerLabSessionEvidence F.snapshotSha256 s.snapshots).mapError
      fun _ => .aggregateInvalid
    return {
      schemaVersion  := rt0OwnerLabSessionBindingSchema
      candidateSha   := exactCandidateSha
      providerStateSha256
      snapshotSha256 := s.artifactDigests
      aggregate }

end ArtifactFormat
