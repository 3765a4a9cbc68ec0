import PersonaRuntime.Evaluation.Theorems.SessionEvidence
import PersonaRuntime.OwnerLab.Evidence

section Requests

variable {k : Nat} {kind : LabMediaEvidenceKind} {events : List LabMediaEvidence}
  {voices : List LabVoiceAttemptEvidence}

theorem mem_mediaRequests :
    k ∈ mediaRequests kind events ↔ ∃ e ∈ events, e.kind = kind ∧ e.requestSequence = some k := by
  simp [mediaRequests, and_assoc]

theorem mem_completedRequests : k ∈ completedRequests voices ↔ Completed voices k := by
  simp only [completedRequests, List.mem_toFinset, List.mem_map, List.mem_filter, decide_eq_true_eq, Completed]
  exact ⟨fun ⟨a, ⟨ha, hs⟩, hk⟩ => ⟨a, ha, hk, hs⟩, fun ⟨a, ha, hk, hs⟩ => ⟨a, ⟨ha, hs⟩, hk⟩⟩

theorem mem_confirmedRequests : k ∈ confirmedRequests voices ↔
    ∃ a ∈ voices, a.canonicalPlaybackConfirmed = true ∧ a.requestSequence = k := by
  simp [confirmedRequests, and_assoc]

end Requests

namespace LabSessionEvidenceSnapshot

variable {snapshot : LabSessionEvidenceSnapshot} {k : Nat}

-- A playback is confirmed for a request that completed only.
theorem Admissible.completed_of_confirmed {a : LabVoiceAttemptEvidence} (h : snapshot.Admissible)
    (ha : a ∈ snapshot.voiceAttempts) (hc : a.canonicalPlaybackConfirmed = true) : a.status = .completed := by
  cases h.voices a ha
  case failed _ hf => simp [hf.confirmed] at hc
  case completed   => assumption

theorem Admissible.eq_of_request {a b : LabVoiceAttemptEvidence} (h : snapshot.Admissible)
    (ha : a ∈ snapshot.voiceAttempts) (hb : b ∈ snapshot.voiceAttempts)
    (hk : a.requestSequence = b.requestSequence) : a = b :=
  List.inj_on_of_nodup_map h.voiceKeys.nodup ha hb hk

-- The requests that are accounted for have completed.
theorem Admissible.accounted_subset (h : snapshot.Admissible) :
    confirmedRequests snapshot.voiceAttempts ∪ mediaRequests .interruptionStopped snapshot.mediaEvents ⊆
      completedRequests snapshot.voiceAttempts := by
  intro k hk
  rw [mem_completedRequests]
  obtain hk | hk := Finset.mem_union.mp hk
  case inl =>
    obtain ⟨a, ha, hc, rfl⟩ := mem_confirmedRequests.mp hk
    exact ⟨a, ha, rfl, h.completed_of_confirmed ha hc⟩
  case inr =>
    obtain ⟨e, he, -, hk⟩ := mem_mediaRequests.mp hk
    exact (h.media e he).completed k hk

theorem Admissible.derivedPlayback_iff (h : snapshot.Admissible) :
    snapshot.derivedPlayback = true ↔
      (∃ a ∈ snapshot.voiceAttempts, a.status = .completed ∧ a.canonicalPlaybackConfirmed = true) ∧
      ∀ a ∈ snapshot.voiceAttempts, a.status = .completed → a.canonicalPlaybackConfirmed = true ∨
        a.requestSequence ∈ mediaRequests .interruptionStopped snapshot.mediaEvents := by
  simp only [derivedPlayback, playbackAccounting, decide_eq_true_eq]
  constructor
  case mp =>
    rintro ⟨-, hc, he⟩
    obtain ⟨k, hk⟩ := Finset.nonempty_iff_ne_empty.mpr hc
    obtain ⟨a, ha, hc, rfl⟩ := mem_confirmedRequests.mp hk
    refine ⟨⟨a, ha, h.completed_of_confirmed ha hc, hc⟩, fun a ha hs => ?_⟩
    have hk : a.requestSequence ∈ completedRequests snapshot.voiceAttempts :=
      mem_completedRequests.mpr ⟨a, ha, rfl, hs⟩
    rw [← he, Finset.mem_union] at hk
    apply hk.imp_left
    intro hk
    obtain ⟨b, hb, hc, hk⟩ := mem_confirmedRequests.mp hk
    exact h.eq_of_request hb ha hk ▸ hc
  case mpr =>
    rintro ⟨⟨a, ha, hs, hc⟩, hall⟩
    refine ⟨?_, ?_, h.accounted_subset.antisymm fun k hk => ?_⟩
    · exact Finset.ne_empty_of_mem (mem_completedRequests.mpr ⟨a, ha, rfl, hs⟩)
    · exact Finset.ne_empty_of_mem (mem_confirmedRequests.mpr ⟨a, ha, hc, rfl⟩)
    · obtain ⟨b, hb, rfl, hs⟩ := mem_completedRequests.mp hk
      apply Finset.mem_union.mpr
      apply (hall b hb hs).imp_left
      exact fun hc => mem_confirmedRequests.mpr ⟨b, hb, hc, rfl⟩

end LabSessionEvidenceSnapshot

namespace LabSessionEvidenceRecorder

variable {r : LabSessionEvidenceRecorder} {now : Instant} {snapshot : LabSessionEvidenceSnapshot} {k m : Nat}

-- What a snapshot has of the recorder.
structure Snapshots (r : LabSessionEvidenceRecorder) (snapshot : LabSessionEvidenceSnapshot) : Prop where
  schema      : snapshot.schemaVersion = sessionEvidenceSchema
  candidate   : snapshot.candidateSha = r.candidateSha
  provider    : snapshot.providerStateSha256 = r.providerStateSha256
  scope       : snapshot.scope = mediaEvidenceScope
  sequence    : r.sessionSequence = some snapshot.sessionSequence
  playback    : snapshot.canonicalPlaybackProven = r.canonicalPlaybackProven
  avSync      : snapshot.avSyncProven = r.avSyncProven
  texts       : snapshot.textAttempts = r.texts
  voices      : snapshot.voiceAttempts = r.voices
  media       : snapshot.mediaEvents = r.mediaEvents
  samples     : snapshot.avSyncSamples = r.avSyncSamples
  diagnostics : snapshot.avSyncDiagnostics = r.avSyncDiagnostics

theorem snapshot_eq_ok (h : r.snapshot now = .ok snapshot) : r.Snapshots snapshot := by
  simp only [LabSessionEvidenceRecorder.snapshot] at h
  split at h
  case h_2 => cases h
  case h_1 hs _ _ =>
    cases h
    exact ⟨rfl, rfl, rfl, rfl, hs, rfl, rfl, rfl, rfl, rfl, rfl, rfl⟩

theorem sampled_iff : r.sampled k m = true ↔ (k, m) ∈ r.avSyncSamples.map sampleKey := by
  simp [sampled, sampleKey]

theorem completeSamples_iff : r.completeSamples k = true ↔
    ∀ m ∈ List.range' 1 avSyncSamplesPerRequest, (k, m) ∈ r.avSyncSamples.map sampleKey := by
  simp only [completeSamples, List.all_eq_true, sampled_iff]

theorem canonicalPlaybackProven_iff : r.canonicalPlaybackProven = true ↔
    (∃ a ∈ r.voices, a.status = .completed ∧ a.canonicalPlaybackConfirmed = true) ∧
    ∀ a ∈ r.voices, a.status = .completed → a.canonicalPlaybackConfirmed = true ∨
      a.requestSequence ∈ mediaRequests .interruptionStopped r.mediaEvents := by
  simp only [canonicalPlaybackProven, completedAttempts, Bool.and_eq_true, List.any_eq_true, List.all_eq_true,
    List.mem_filter, decide_eq_true_eq, Bool.or_eq_true, Bool.not_eq_true', List.isEmpty_eq_false_iff]
  constructor
  case mp =>
    rintro ⟨⟨-, a, ⟨ha, hs⟩, hc⟩, hall⟩
    exact ⟨⟨a, ha, hs, hc⟩, fun b hb hs => hall b ⟨hb, hs⟩⟩
  case mpr =>
    rintro ⟨⟨a, ha, hs, hc⟩, hall⟩
    refine ⟨⟨?_, a, ⟨ha, hs⟩, hc⟩, fun b hb => hall b hb.left hb.right⟩
    exact List.ne_nil_of_mem (List.mem_filter.mpr ⟨ha, by simpa using hs⟩)

theorem Snapshots.derivedPlayback_eq (h : r.Snapshots snapshot) (ha : snapshot.Admissible) :
    snapshot.derivedPlayback = r.canonicalPlaybackProven := by
  rw [Bool.eq_iff_iff, ha.derivedPlayback_iff, canonicalPlaybackProven_iff, h.voices, h.media]

theorem Snapshots.derivedAvSync_eq (h : r.Snapshots snapshot) (ha : snapshot.Admissible) :
    snapshot.derivedAvSync = r.avSyncProven := by
  have hp : snapshot.provenRequests = confirmedRequests snapshot.voiceAttempts ↔
      ∀ a ∈ r.completedAttempts, a.canonicalPlaybackConfirmed = true → r.completeSamples a.requestSequence = true := by
    simp only [LabSessionEvidenceSnapshot.provenRequests, Finset.filter_eq_self, h.samples, ← completeSamples_iff]
    constructor
    case mp =>
      intro hall a hm hc
      have hv := (List.mem_filter.mp hm).left
      exact hall _ (mem_confirmedRequests.mpr ⟨a, h.voices ▸ hv, hc, rfl⟩)
    case mpr =>
      intro hall k hk
      obtain ⟨a, hv, hc, rfl⟩ := mem_confirmedRequests.mp hk
      have hs := ha.completed_of_confirmed hv hc
      exact hall a (List.mem_filter.mpr ⟨h.voices ▸ hv, by simpa using hs⟩) hc
  simp only [LabSessionEvidenceSnapshot.derivedAvSync, avSyncProven, h.derivedPlayback_eq ha, hp]
  congr 1
  rw [Bool.eq_iff_iff]
  simp only [decide_eq_true_eq, List.all_eq_true, List.mem_filter, and_imp]

-- What the aggregator derives from a snapshot of the recorder is what the recorder has derived.
theorem snapshot_flags_eq {acc : SessionAggregateAccumulator} {playback : PlaybackAccounting}
    {avSyncRequests : Finset Nat} (h : r.snapshot now = .ok snapshot)
    (hp : snapshot.Passes acc playback avSyncRequests) :
    snapshot.canonicalPlaybackProven = playback.derivedPlayback ∧
    snapshot.avSyncProven = (playback.derivedPlayback && avSyncRequests = playback.playbackRequests) := by
  have hs := snapshot_eq_ok h
  obtain ⟨ha, rfl, rfl⟩ := hp.admissible
  exact ⟨hs.playback.trans (hs.derivedPlayback_eq ha).symm, hs.avSync.trans (hs.derivedAvSync_eq ha).symm⟩

-- No flag of a snapshot that is aggregated claims more than what is derived from it.
theorem aggregate_flags_le {digest : SnapshotDigest} {snapshots : List LabSessionEvidenceSnapshot}
    {aggregate : LabSessionEvidenceAggregate}
    (h : aggregateOwnerLabSessionEvidence digest snapshots = .ok aggregate) (hm : snapshot ∈ snapshots) :
    ∃ acc playback avSyncRequests, snapshot.Passes acc playback avSyncRequests ∧
      (snapshot.canonicalPlaybackProven = true → playback.derivedPlayback = true) ∧
      (snapshot.avSyncProven = true → playback.derivedPlayback = true ∧
        avSyncRequests = playback.playbackRequests) := by
  obtain ⟨acc, acc', hc⟩ := aggregate_consumed h hm
  obtain ⟨_, playback, requests, hp, hf, hg⟩ := SessionAggregateAccumulator.consumeSnapshot_eq_ok hc
  refine ⟨_, playback, requests, hp, fun hc => hf ▸ hc, fun hv => ?_⟩
  rw [hg, Bool.and_eq_true, decide_eq_true_eq] at hv
  exact hv

-- Recorder and aggregator derive the same from the evidence of a session.
theorem proofs_agree (digest : SnapshotDigest) :
    (∀ {r : LabSessionEvidenceRecorder} {now snapshot acc playback avSyncRequests},
      r.snapshot now = .ok snapshot → snapshot.Passes acc playback avSyncRequests →
      snapshot.canonicalPlaybackProven = playback.derivedPlayback ∧
      snapshot.avSyncProven = (playback.derivedPlayback && avSyncRequests = playback.playbackRequests)) ∧
    ∀ {snapshots aggregate snapshot}, aggregateOwnerLabSessionEvidence digest snapshots = .ok aggregate →
      snapshot ∈ snapshots →
      ∃ acc playback avSyncRequests, snapshot.Passes acc playback avSyncRequests ∧
        (snapshot.canonicalPlaybackProven = true → playback.derivedPlayback = true) ∧
        (snapshot.avSyncProven = true → playback.derivedPlayback = true ∧
          avSyncRequests = playback.playbackRequests) :=
  ⟨snapshot_flags_eq, aggregate_flags_le⟩

-- A recorder that is bound to a candidate and to a state of its providers.
def exampleRecorder : LabSessionEvidenceRecorder where
  candidateSha        := "aaaaaaaaaaaaaaaaaaaaaaaaaaaaaaaaaaaaaaaa"
  providerStateSha256 := "bbbbbbbbbbbbbbbbbbbbbbbbbbbbbbbbbbbbbbbbbbbbbbbbbbbbbbbbbbbbbbbb"

def exampleUsage : SessionUsageEvidence where
  inputUnits               := some 10
  outputUnits              := some 4
  estimatedCostMicrounits  := some 2
  providerChargeMicrounits := some 3

-- A reply that is played to its end, with its samples by one clock.
def exampleCalls (reference : LabAvSyncReference) : List RecorderCall :=
  [.beginSession 1 .owner 0,
    .beginVoice 1,
    .completeVoice 1 ⟨3, 7, 120, 80, 40, 200, 300, none, none, 400, exampleUsage, exampleUsage⟩,
    .recordMedia ⟨1, some 1, .audioStarted, 250⟩,
    .recordCanonicalPlayback ⟨1, some 1, .playbackCompleted, 900⟩ 3 7,
    .recordAvSync ⟨1, 1, 1, reference, 20⟩,
    .recordAvSync ⟨1, 1, 2, reference, 25⟩,
    .recordAvSync ⟨1, 1, 3, reference, 30⟩,
    .sealSession 2000000000]

theorem proofs_agree_playoutClock : ∃ calls r snapshot acc playback avSyncRequests,
    machine.Steps exampleRecorder calls r ∧ r.snapshot 0 = .ok snapshot ∧
    (aggregateOwnerLabSessionEvidence (fun _ => "") [snapshot]).isOk = true ∧ snapshot.avSyncProven = true ∧
    snapshot.Passes acc playback avSyncRequests ∧
    snapshot.canonicalPlaybackProven = playback.derivedPlayback ∧
    snapshot.avSyncProven = (playback.derivedPlayback && avSyncRequests = playback.playbackRequests) := by
  obtain ⟨calls, r, hc, hd⟩ : ∃ calls r, machine.Steps exampleRecorder calls r ∧
      (r.snapshot 0).toOption.any (fun snapshot => snapshot.avSyncProven &&
        (aggregateOwnerLabSessionEvidence (fun _ => "") [snapshot]).isOk) = true :=
    Machine.Steps.exists_of_replay_any (exampleCalls .webRtcEstimatedPlayoutTimestamp) (by decide +kernel)
  cases hs : r.snapshot 0
  case error => simp [hs, Except.toOption] at hd
  case ok snapshot =>
    rw [hs] at hd
    obtain ⟨hv, ha⟩ := Bool.and_eq_true_iff.mp hd
    cases hg : aggregateOwnerLabSessionEvidence (fun _ => "") [snapshot]
    case error => simp [hg, Except.isOk, Except.toBool] at ha
    case ok =>
      obtain ⟨acc, playback, requests, hp, -⟩ := (proofs_agree fun _ => "").right hg (List.mem_singleton_self snapshot)
      exact ⟨calls, r, snapshot, acc, playback, requests, hc, hs, ha, hv, hp, (proofs_agree fun _ => "").left hs hp⟩

end LabSessionEvidenceRecorder
