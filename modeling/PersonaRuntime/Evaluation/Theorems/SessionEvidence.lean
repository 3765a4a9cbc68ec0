import PersonaRuntime.Evaluation.Theorems.SnapshotChecks

namespace LabSessionEvidenceSnapshot

variable {snapshot : LabSessionEvidenceSnapshot}

def usages (snapshot : LabSessionEvidenceSnapshot) : List SessionUsageEvidence :=
  snapshot.textAttempts.flatMap (·.usages) ++ snapshot.voiceAttempts.flatMap (·.usages)

-- How many items of evidence a snapshot has.
def size (snapshot : LabSessionEvidenceSnapshot) : Nat :=
  snapshot.textAttempts.length + snapshot.voiceAttempts.length + snapshot.mediaEvents.length +
    snapshot.avSyncSamples.length

-- The confirmed requests with all of their samples.
def provenRequests (snapshot : LabSessionEvidenceSnapshot) : Finset Nat :=
  (confirmedRequests snapshot.voiceAttempts).filter fun k =>
    ∀ m ∈ List.range' 1 avSyncSamplesPerRequest, (k, m) ∈ snapshot.avSyncSamples.map sampleKey

def derivedPlayback (snapshot : LabSessionEvidenceSnapshot) : Bool :=
  (playbackAccounting snapshot).derivedPlayback

def derivedAvSync (snapshot : LabSessionEvidenceSnapshot) : Bool :=
  snapshot.derivedPlayback && snapshot.provenRequests = confirmedRequests snapshot.voiceAttempts

-- The evidence of a session by the rules of its aggregation.
structure Admissible (snapshot : LabSessionEvidenceSnapshot) : Prop where
  textKeys       : Keyed (·.requestSequence) snapshot.textAttempts
  texts          : ∀ t ∈ snapshot.textAttempts, t.Admissible
  voiceKeys      : Keyed (·.requestSequence) snapshot.voiceAttempts
  voices         : ∀ a ∈ snapshot.voiceAttempts, a.Admissible
  media          : ∀ e ∈ snapshot.mediaEvents,
    e.Admissible snapshot.voiceAttempts (mediaRequests .audioStarted snapshot.mediaEvents)
  mediaNodup     : (mediaKeys snapshot.mediaEvents).Nodup
  accounted      : Accounted snapshot
  samples        : ∀ x ∈ snapshot.avSyncSamples, x.Admissible snapshot.voiceAttempts
    (mediaRequests .audioStarted snapshot.mediaEvents) (confirmedRequests snapshot.voiceAttempts)
  sampleNodup    : (snapshot.avSyncSamples.map sampleKey).Nodup
  referenced     : Referenced snapshot.avSyncSamples
  diagnosticKeys : Keyed (·.requestSequence) snapshot.avSyncDiagnostics
  diagnostics    : ∀ d ∈ snapshot.avSyncDiagnostics, d.Admissible snapshot.voiceAttempts
    (mediaRequests .audioStarted snapshot.mediaEvents) snapshot.provenRequests

-- The checks of a snapshot with what they derive. The two flags are not among them.
def Passes (snapshot : LabSessionEvidenceSnapshot) (acc : SessionAggregateAccumulator)
    (playback : PlaybackAccounting) (avSyncRequests : Finset Nat) : Prop :=
  ∃ acc₁ sequences acc₂ requestStatus acc₃ avSync,
    snapshot.textAttempts.foldlM consumeNextText (acc, ∅) = .ok (acc₁, sequences) ∧
    snapshot.voiceAttempts.foldlM consumeNextAttempt (acc₁, ∅) = .ok (acc₂, requestStatus) ∧
    validateAndCollectMedia snapshot requestStatus acc₂ = .ok acc₃ ∧
    validatePlaybackAccounting snapshot (completedRequests snapshot.voiceAttempts) = .ok playback ∧
    validateAndCollectAvSync snapshot requestStatus playback.playbackRequests acc₃.avSync =
      .ok (avSyncRequests, avSync) ∧
    validateAvSyncDiagnostics snapshot requestStatus playback.audioRequests avSyncRequests = .ok ()

variable {acc acc' : SessionAggregateAccumulator} {playback : PlaybackAccounting} {avSyncRequests : Finset Nat}

theorem mem_provenRequests {k : Nat} : k ∈ snapshot.provenRequests ↔ k ∈ confirmedRequests snapshot.voiceAttempts ∧
    ∀ m ∈ List.range' 1 avSyncSamplesPerRequest, (k, m) ∈ snapshot.avSyncSamples.map sampleKey :=
  Finset.mem_filter

theorem sampled_complete {s : AvSyncSamples} (h : Sampled snapshot.avSyncSamples s)
    (hl : ∀ x ∈ snapshot.avSyncSamples, 1 ≤ x.sampleSequence ∧ x.sampleSequence ≤ avSyncSamplesPerRequest) :
    ((s.sequences.toList.filter fun (request, sequences) =>
      request ∈ (playbackAccounting snapshot).playbackRequests ∧
      sequences.card = avSyncSamplesPerRequest).map Prod.fst).toFinset = snapshot.provenRequests := by
  ext k
  rw [h.mem_complete_iff hl, mem_provenRequests]
  rfl

theorem Passes.admissible (h : snapshot.Passes acc playback avSyncRequests) :
    snapshot.Admissible ∧ playback = playbackAccounting snapshot ∧ avSyncRequests = snapshot.provenRequests := by
  obtain ⟨acc₁, _, acc₂, status, acc₃, _, ht, hv, hm, hp, ha, hd⟩ := h
  obtain ⟨htk, ht, -⟩ := consumeNextText_loop_eq_ok ht
  obtain ⟨hvk, hv, -, hs⟩ := consumeNextAttempt_loop_eq_ok hv
  obtain ⟨_, hl, -⟩ := Except.bind_eq_ok hm
  obtain ⟨hm, hmk⟩ := collectNextMedia_loop_eq_ok hs hl
  obtain ⟨hpa, rfl⟩ := validatePlaybackAccounting_eq_ok_iff.mp hp
  obtain ⟨s, hl, ha⟩ := Except.bind_eq_ok ha
  cases ha
  obtain ⟨ha, hak, hr, hc⟩ := collectNextSample_loop_eq_ok hs hl
  have he := sampled_complete hc fun x hx => (ha x hx).sample
  obtain ⟨_, hl, -⟩ := Except.bind_eq_ok hd
  obtain ⟨hdk, hd⟩ := (validateNextDiagnostic_loop_iff hs).mp ⟨_, hl⟩
  refine ⟨⟨htk, ht, hvk, hv, hm, hmk, hpa, ha, hak, hr, hdk, ?_⟩, rfl, he⟩
  exact he ▸ hd

theorem Passes.affordable (h : snapshot.Passes acc playback avSyncRequests) (hc : acc.Tallied []) :
    Affordable snapshot.usages := by
  obtain ⟨acc₁, _, acc₂, status, acc₃, _, ht, hv, -⟩ := h
  obtain ⟨-, -, ht⟩ := consumeNextText_loop_eq_ok ht
  obtain ⟨-, -, hv, -⟩ := consumeNextAttempt_loop_eq_ok hv
  exact (hv _ (ht [] hc)).affordable

variable {status : RequestStatus} {n : Nat}

theorem exists_validateAndCollectMedia (hs : Statuses status snapshot.voiceAttempts) (ha : snapshot.Admissible)
    (hw : acc.Within n) :
    ∃ acc', validateAndCollectMedia snapshot status acc = .ok acc' ∧ acc'.Within (n + snapshot.mediaEvents.length) := by
  obtain ⟨⟨acc', keys⟩, h, hw⟩ := exists_collectNextMedia_loop hs ha.media ha.mediaNodup hw
  refine ⟨acc', ?_, hw⟩
  rw [validateAndCollectMedia, h]
  rfl

theorem exists_validateAndCollectAvSync (hs : Statuses status snapshot.voiceAttempts) (ha : snapshot.Admissible)
    (offsets : List Nat) :
    ∃ avSync, validateAndCollectAvSync snapshot status (playbackAccounting snapshot).playbackRequests offsets =
      .ok (snapshot.provenRequests, avSync) ∧ avSync.length ≤ offsets.length + snapshot.avSyncSamples.length := by
  have hx : ∀ x ∈ snapshot.avSyncSamples, x.Admissible snapshot.voiceAttempts
      (mediaRequests .audioStarted snapshot.mediaEvents) (playbackAccounting snapshot).playbackRequests := ha.samples
  obtain ⟨s, h, hc, hl⟩ := exists_collectNextSample_loop hs hx ha.sampleNodup ha.referenced
  refine ⟨s.offsets, ?_, hl⟩
  rw [← sampled_complete hc fun x hm => (hx x hm).sample, validateAndCollectAvSync, h]
  rfl

theorem validateAvSyncDiagnostics_eq_ok (hs : Statuses status snapshot.voiceAttempts) (ha : snapshot.Admissible) :
    validateAvSyncDiagnostics snapshot status (playbackAccounting snapshot).audioRequests snapshot.provenRequests =
      .ok () := by
  obtain ⟨seen, h⟩ := (validateNextDiagnostic_loop_iff hs).mpr ⟨ha.diagnosticKeys, ha.diagnostics⟩
  rw [validateAvSyncDiagnostics]
  exact h ▸ rfl

end LabSessionEvidenceSnapshot

theorem requireFlag_eq_ok_iff {flag derived : Bool} {u : Unit} : requireFlag flag derived = .ok u ↔ flag = derived := by
  simp [requireFlag]

namespace SessionAggregateAccumulator

open LabSessionEvidenceSnapshot

variable {acc acc' : SessionAggregateAccumulator} {snapshot : LabSessionEvidenceSnapshot}
  {us : List SessionUsageEvidence} {n : Nat}

theorem consumeSnapshot_eq_ok (h : acc.consumeSnapshot snapshot = .ok acc') :
    ∃ d playback avSyncRequests, snapshot.Passes { acc with sessionDurationMillis := d } playback avSyncRequests ∧
      snapshot.canonicalPlaybackProven = playback.derivedPlayback ∧
      snapshot.avSyncProven = (playback.derivedPlayback && avSyncRequests = playback.playbackRequests) := by
  obtain ⟨d, -, h⟩ := Except.bind_eq_ok h
  obtain ⟨⟨acc₁, sequences⟩, ht, h⟩ := Except.bind_eq_ok h
  obtain ⟨⟨acc₂, status⟩, hv, h⟩ := Except.bind_eq_ok h
  obtain ⟨acc₃, hm, h⟩ := Except.bind_eq_ok h
  obtain ⟨playback, hp, h⟩ := Except.bind_eq_ok h
  obtain ⟨_, hf, h⟩ := Except.bind_eq_ok h
  obtain ⟨_, -, h⟩ := Except.bind_eq_ok h
  obtain ⟨⟨requests, avSync⟩, ha, h⟩ := Except.bind_eq_ok h
  obtain ⟨_, hd, h⟩ := Except.bind_eq_ok h
  obtain ⟨_, hg, -⟩ := Except.bind_eq_ok h
  exact ⟨d, playback, requests, ⟨acc₁, sequences, acc₂, status, acc₃, avSync, ht, hv, hm, hp, ha, hd⟩,
    requireFlag_eq_ok_iff.mp hf, requireFlag_eq_ok_iff.mp hg⟩

theorem countSession_within (proven : Bool) {sessions : Nat} (h : sessions ≤ n) (hn : n < u32Max) :
    ∃ k, countSession proven sessions = .ok k ∧ k ≤ n + 1 := by
  cases proven
  case false => exact ⟨sessions, rfl, Nat.le_succ_of_le h⟩
  case true =>
    refine ⟨sessions + 1, ?_, Nat.succ_le_succ h⟩
    rw [countSession, if_pos rfl, checkedAddU32_of_lt (Nat.lt_of_le_of_lt h hn)]
    rfl

theorem Within.mono {m : Nat} (hw : acc.Within n) (h : n ≤ m) : acc.Within m :=
  fun k hk => Nat.le_trans (hw k hk) h

theorem Within.count {m k j : Nat} {avSync : List Nat} (hw : acc.Within n) (hn : n ≤ m) (hk : k ≤ m) (hj : j ≤ m)
    (hl : avSync.length ≤ m) : { acc with playbackSessions := k, avSync, avSyncSessions := j }.Within m := by
  have hw := hw.mono hn
  simp only [Within, counters, List.forall_mem_cons] at hw ⊢
  simp only [hw, hk, hj, hl, true_and]
  exact List.forall_mem_nil _

theorem exists_consumeSnapshot (ha : snapshot.Admissible) (ht : acc.Tallied us)
    (he : Affordable (us ++ snapshot.usages)) (hw : acc.Within n) (hn : n + snapshot.size < u32Max)
    (hd : acc.sessionDurationMillis + snapshot.sessionDurationMillis ≤ u64Max)
    (hf : snapshot.canonicalPlaybackProven = snapshot.derivedPlayback)
    (hg : snapshot.avSyncProven = snapshot.derivedAvSync) :
    ∃ acc', acc.consumeSnapshot snapshot = .ok acc' ∧ acc'.Within (n + snapshot.size + 1) := by
  simp only [LabSessionEvidenceSnapshot.size] at hn ⊢
  let acc₀ := { acc with sessionDurationMillis := acc.sessionDurationMillis + snapshot.sessionDurationMillis }
  have hd : orOverflow (checkedAdd acc.sessionDurationMillis snapshot.sessionDurationMillis) =
      .ok acc₀.sessionDurationMillis := orOverflow_eq_ok_iff.mpr (checkedAdd_eq_some_iff.mpr ⟨hd, rfl⟩)
  have hw₀ : acc₀.Within n := hw
  have ht₀ : acc₀.Tallied us := ht.of_eq rfl rfl
  rw [LabSessionEvidenceSnapshot.usages, ← List.append_assoc] at he
  obtain ⟨⟨acc₁, sequences⟩, hr₁, hw₁, ht₁⟩ := exists_consumeNextText_loop ha.textKeys ha.texts hw₀ (by omega) ht₀
    he.of_append
  obtain ⟨⟨acc₂, status⟩, hr₂, hw₂⟩ := exists_consumeNextAttempt_loop ha.voiceKeys ha.voices hw₁ (by omega) ht₁ he
  obtain ⟨-, -, -, hs⟩ := consumeNextAttempt_loop_eq_ok hr₂
  obtain ⟨acc₃, hr₃, hw₃⟩ := exists_validateAndCollectMedia hs ha hw₂
  have hp := validatePlaybackAccounting_eq_ok_iff.mpr ⟨ha.accounted, rfl⟩
  obtain ⟨avSync, hr₄, hl⟩ := exists_validateAndCollectAvSync hs ha acc₃.avSync
  have hr₅ := validateAvSyncDiagnostics_eq_ok hs ha
  obtain ⟨k, hk, hkl⟩ := countSession_within (playbackAccounting snapshot).derivedPlayback
    (hw₃ acc₃.playbackSessions (by simp [counters])) (by omega)
  obtain ⟨j, hj, hjl⟩ := countSession_within ((playbackAccounting snapshot).derivedPlayback &&
    snapshot.provenRequests = (playbackAccounting snapshot).playbackRequests)
    (hw₃ acc₃.avSyncSessions (by simp [counters])) (by omega)
  have hf : requireFlag snapshot.canonicalPlaybackProven (playbackAccounting snapshot).derivedPlayback = .ok () :=
    requireFlag_eq_ok_iff.mpr hf
  have hg : requireFlag snapshot.avSyncProven ((playbackAccounting snapshot).derivedPlayback &&
      snapshot.provenRequests = (playbackAccounting snapshot).playbackRequests) = .ok () :=
    requireFlag_eq_ok_iff.mpr hg
  refine ⟨{ acc₃ with playbackSessions := k, avSync, avSyncSessions := j }, ?_, ?_⟩
  · simp only [consumeSnapshot, hd, Except.ok_bind]
    rw [hr₁, Except.ok_bind]
    simp only
    rw [hr₂, Except.ok_bind]
    simp only
    rw [hr₃, Except.ok_bind, hp, Except.ok_bind, hf, Except.ok_bind, hk, Except.ok_bind, hr₄, Except.ok_bind]
    simp only
    rw [hr₅, Except.ok_bind, hg, Except.ok_bind, hj]
    rfl
  · have hl₃ := hw₃ acc₃.avSync.length (by simp [counters])
    exact hw₃.count (by omega) (by omega) (by omega) (by omega)

theorem exists_distribution {values : List Nat} (h : values.length ≤ u32Max) : ∃ d, distribution values = .ok d := by
  simp only [distribution, h, if_true]
  split
  case isTrue  => exact ⟨none, rfl⟩
  case isFalse => exact ⟨_, rfl⟩

theorem exists_finish (hw : acc.Within n) (hn : n ≤ u32Max) (sessions : Nat) : ∃ r, acc.finish sessions = .ok r := by
  have hd {values : List Nat} (h : values.length ∈ acc.counters) : ∃ d, distribution values = .ok d :=
    exists_distribution (Nat.le_trans (hw _ h) hn)
  simp only [finish]
  iterate 18 refine Except.exists_bind (hd (by simp [counters])) fun _ => ?_
  exact ⟨_, rfl⟩

theorem tallied_nil : Tallied {} [] where
  estimated := rfl
  charged   := rfl

theorem within_zero : Within {} 0 := by
  simp [Within, counters]

end SessionAggregateAccumulator

section Aggregate

variable {digest : SnapshotDigest} {snapshot : LabSessionEvidenceSnapshot} {snapshots : List LabSessionEvidenceSnapshot}

theorem aggregateNext_eq_ok {s s' : Aggregation} (h : aggregateNext digest s snapshot = .ok s') :
    ∃ acc, s.accumulator.consumeSnapshot snapshot = .ok acc := by
  obtain ⟨_, -, h⟩ := Except.bind_eq_ok h
  split at h
  case isTrue => cases h
  case isFalse =>
    obtain ⟨acc, hc, -⟩ := Except.bind_eq_ok h
    exact ⟨acc, hc⟩

-- Every snapshot of an aggregate has been consumed.
theorem aggregate_consumed {r : LabSessionEvidenceAggregate}
    (h : aggregateOwnerLabSessionEvidence digest snapshots = .ok r) (hm : snapshot ∈ snapshots) :
    ∃ acc acc', SessionAggregateAccumulator.consumeSnapshot acc snapshot = .ok acc' := by
  simp only [aggregateOwnerLabSessionEvidence] at h
  split at h
  case isTrue => cases h
  case isFalse =>
    split at h
    case isFalse => cases h
    case isTrue =>
      obtain ⟨s, hl, -⟩ := Except.bind_eq_ok h
      have h₀ : ∀ snapshot ∈ ([] : List LabSessionEvidenceSnapshot),
          ∃ acc acc', SessionAggregateAccumulator.consumeSnapshot acc snapshot = .ok acc' := by simp
      refine List.foldlM_ok_invariant (P := fun done _ => ∀ snapshot ∈ done,
        ∃ acc acc', SessionAggregateAccumulator.consumeSnapshot acc snapshot = .ok acc') ?_ h₀ hl snapshot hm
      intro done next s s' hp hn
      simp only [List.mem_append, List.mem_singleton]
      rintro snapshot (hm | rfl)
      · exact hp snapshot hm
      · exact ⟨s.accumulator, aggregateNext_eq_ok hn⟩

theorem aggregate_singleton_eq_ok_iff (hn : snapshot.size < u32Max)
    (hd : snapshot.sessionDurationMillis ≤ u64Max) :
    (∃ r, aggregateOwnerLabSessionEvidence digest [snapshot] = .ok r) ↔
      validateSnapshotHeader snapshot = .ok () ∧ snapshot.Admissible ∧ Affordable snapshot.usages ∧
      snapshot.canonicalPlaybackProven = snapshot.derivedPlayback ∧
      snapshot.avSyncProven = snapshot.derivedAvSync := by
  have he : aggregateOwnerLabSessionEvidence digest [snapshot] = (do
      validateSnapshotHeader snapshot
      let acc ← SessionAggregateAccumulator.consumeSnapshot {} snapshot
      acc.finish 1) := by
    simp [aggregateOwnerLabSessionEvidence, aggregateNext, u32Max]
  rw [he]
  constructor
  case mp =>
    rintro ⟨r, h⟩
    obtain ⟨_, hh, h⟩ := Except.bind_eq_ok h
    obtain ⟨acc, hc, -⟩ := Except.bind_eq_ok h
    obtain ⟨d, playback, requests, hp, hf, hg⟩ := SessionAggregateAccumulator.consumeSnapshot_eq_ok hc
    obtain ⟨ha, rfl, rfl⟩ := hp.admissible
    have ht := SessionAggregateAccumulator.tallied_nil
    exact ⟨hh, ha, hp.affordable (ht.of_eq rfl rfl), hf, hg⟩
  case mpr =>
    rintro ⟨hh, ha, hu, hf, hg⟩
    obtain ⟨acc, hc, hw⟩ := SessionAggregateAccumulator.exists_consumeSnapshot ha
      SessionAggregateAccumulator.tallied_nil hu SessionAggregateAccumulator.within_zero
      (by simpa using hn) (by simpa using hd) hf hg
    rw [hh, Except.ok_bind, hc, Except.ok_bind]
    exact SessionAggregateAccumulator.exists_finish hw (by omega) 1

end Aggregate
