import PersonaRuntime.Collections.Rank
import PersonaRuntime.Evaluation.Theorems.SessionTotals

open SessionAggregateAccumulator

def LabSessionEvidenceAggregate.latency (r : LabSessionEvidenceAggregate) :
    EvidenceSeries → Option LatencyDistributionMillis
  | .textFirstMeaningful             => r.textFirstMeaningfulResponse
  | .avSync                          => r.avSyncAbsoluteOffset
  | .stt                             => r.sttLatency
  | .llm                             => r.llmLatency
  | .llmFirstMeaningful              => r.llmFirstMeaningfulResponse
  | .voiceFirstText                  => r.voiceFirstTextResponse
  | .avatar                          => r.avatarSubmitLatency
  | .serverTotal                     => r.serverTotalLatency
  | .media .audio                    => r.firstMeaningfulAudio
  | .media .interruption             => r.interruptionStop
  | .media .video                    => r.firstUsefulVideo
  | .media .backendStart             => r.backendStartReady
  | .media .transportConnectStarted  => r.transportConnectStarted
  | .media .transportConnected       => r.transportConnected
  | .media .remoteVideoTrackReceived => r.remoteVideoTrackReceived
  | .media .remoteVideoAttached      => r.remoteVideoAttached
  | .media .endToEndVideo            => r.endToEndFirstUsefulVideo
  | .media .reconnect                => r.recoverableReconnect

section Distribution

variable {values values' : List Nat} {d d' : Option LatencyDistributionMillis}

-- The distribution of some values.
inductive Latency (values : List Nat) : Option LatencyDistributionMillis → Prop
  | empty (empty : values = []) : Latency values none
  | ranked {d : LatencyDistributionMillis} (samples : d.samples = values.length) (p50 : NearestRank values 50 d.p50)
    (p95 : NearestRank values 95 d.p95) (ordered : d.p50 ≤ d.p95) : Latency values (some d)

theorem Latency.perm (hp : values.Perm values') (h : Latency values d) : Latency values' d := by
  cases h
  case empty he                  => exact .empty (List.perm_nil.mp (he ▸ hp.symm))
  case ranked d hs h₅₀ h₉₅ hle   => exact .ranked (hs.trans hp.length_eq) (h₅₀.perm hp) (h₉₅.perm hp) hle

theorem Latency.unique (h : Latency values d) (h' : Latency values d') : d = d' := by
  cases h <;> cases h'
  case empty.empty => rfl
  case empty.ranked he d hs h₅₀ h₉₅ hle =>
    subst he
    exact absurd h₅₀.mem List.not_mem_nil
  case ranked.empty d hs h₅₀ h₉₅ hle he =>
    subst he
    exact absurd h₅₀.mem List.not_mem_nil
  case ranked.ranked d hs h₅₀ h₉₅ hle d' hs' h₅₀' h₉₅' hle' =>
    obtain ⟨samples, p50, p95⟩ := d
    obtain ⟨samples', p50', p95'⟩ := d'
    simp only at hs hs' h₅₀ h₅₀' h₉₅ h₉₅'
    rw [hs, hs', h₅₀.unique h₅₀', h₉₅.unique h₉₅']

theorem nearestRank_sorted {p : Nat} (hs : values.Pairwise (· ≤ ·)) (hn : values ≠ []) (hl : values.length ≤ u32Max)
    (hp₀ : 0 < p) (hp : p ≤ 100) : NearestRank values p (nearestRank values p) := by
  have hlen := List.length_pos_iff.mpr hn
  have hmul : values.length * p ≤ values.length * 100 := Nat.mul_le_mul_left _ hp
  have hpos : 0 < values.length * p := Nat.mul_pos hlen hp₀
  have hmin : min (values.length * p) u64Max = values.length * p := by
    refine Nat.min_eq_left (Nat.le_trans hmul ?_)
    simp only [u32Max] at hl
    simp only [u64Max]
    omega
  have hr : max ((min (values.length * p) u64Max + 99) / 100) 1 - 1 = (values.length * p - 1) / 100 := by
    rw [hmin]
    omega
  have hi : (values.length * p - 1) / 100 < values.length := by omega
  simp only [nearestRank, hr]
  rw [List.getD_eq_getElem?_getD, List.getElem?_eq_getElem hi, Option.getD_some]
  refine .of_sorted hs hi ?_ ?_
  · rw [Nat.mul_comm p]
    omega
  · rw [Nat.mul_comm p]
    omega

theorem distribution_latency (h : distribution values = .ok d) : Latency values d := by
  simp only [distribution] at h
  split at h
  case isTrue he =>
    cases h
    exact .empty (List.isEmpty_iff.mp he)
  case isFalse hn =>
    split at h
    case isFalse => cases h
    case isTrue hl =>
      cases h
      have hperm := List.perm_insertionSort (· ≤ ·) values
      have hsorted : (values.insertionSort (· ≤ ·)).Pairwise (· ≤ ·) := List.pairwise_insertionSort _ _
      have hne : values.insertionSort (· ≤ ·) ≠ [] := by
        intro he
        exact hn (List.isEmpty_iff.mpr (List.perm_nil.mp (he ▸ hperm.symm)))
      have hlen : (values.insertionSort (· ≤ ·)).length ≤ u32Max := by rwa [hperm.length_eq]
      have h₅₀ := nearestRank_sorted hsorted hne hlen (p := 50) (by decide) (by decide)
      have h₉₅ := nearestRank_sorted hsorted hne hlen (p := 95) (by decide) (by decide)
      exact .ranked hperm.length_eq (h₅₀.perm hperm) (h₉₅.perm hperm) (h₅₀.mono (by decide) h₉₅)

end Distribution

section Costs

variable {costs costs' : List (Option Nat)} {total total' : Option Nat}

-- The total of some costs.
structure CostTotal (costs : List (Option Nat)) (total : Option Nat) : Prop where
  unknown : total = none ↔ costs = [] ∨ none ∈ costs
  known   : ∀ n, total = some n → n = (costs.map (Option.getD · 0)).sum

theorem CostTotal.perm (hp : costs.Perm costs') (h : CostTotal costs total) : CostTotal costs' total where
  unknown   := by
    rw [h.unknown, hp.mem_iff, ← List.length_eq_zero_iff, hp.length_eq, List.length_eq_zero_iff]
  known n e := (h.known n e).trans (hp.map _).sum_nat

theorem CostTotal.unique (h : CostTotal costs total) (h' : CostTotal costs total') : total = total' := by
  cases ht : total <;> cases ht' : total'
  case none.none      => rfl
  case none.some n    => exact absurd (h'.unknown.mpr (h.unknown.mp ht)) (by simp [ht'])
  case some.none n    => exact absurd (h.unknown.mpr (h'.unknown.mp ht')) (by simp [ht])
  case some.some n n' => rw [h.known n ht, h'.known n' ht']

theorem foldlM_addCost_eq_ok {n : Nat} (h : costs.foldlM addCost (some n) = .ok total) :
    (total = none ↔ none ∈ costs) ∧ ∀ m, total = some m → m = n + (costs.map (Option.getD · 0)).sum := by
  induction costs generalizing n
  case nil =>
    cases h
    simp
  case cons c cs hi =>
    obtain ⟨total', hc, h⟩ := List.foldlM_ok_cons.mp h
    cases c
    case none =>
      cases hc
      rw [foldlM_addCost_none] at h
      cases h
      simp
    case some k =>
      obtain ⟨-, rfl⟩ := addCost_some.mp hc
      obtain ⟨hu, hk⟩ := hi h
      refine ⟨by simpa using hu, fun m hm => ?_⟩
      simp [hk m hm, Nat.add_assoc]

end Costs

section Snapshots

variable {snapshots snapshots' : List LabSessionEvidenceSnapshot} {r r' : LabSessionEvidenceAggregate}
variable {digest : SnapshotDigest}

def usagesOf (snapshots : List LabSessionEvidenceSnapshot) : List SessionUsageEvidence :=
  snapshots.flatMap (·.usages)

def samplesOf (snapshots : List LabSessionEvidenceSnapshot) (k : EvidenceSeries) : List Nat :=
  snapshots.flatMap (·.series k)

def countOf (snapshots : List LabSessionEvidenceSnapshot) (c : EvidenceCounter) : Nat :=
  (snapshots.map (·.count c)).sum

-- What is asked of the snapshots beside that their costs can be added up. None of it is about their order.
structure Acceptable (digest : SnapshotDigest) (snapshots : List LabSessionEvidenceSnapshot) : Prop where
  nonempty   : snapshots ≠ []
  length     : snapshots.length ≤ u32Max
  headers    : ∀ s ∈ snapshots, validateSnapshotHeader s = .ok ()
  sequences  : (snapshots.map (·.sessionSequence)).Nodup
  digests    : (snapshots.map digest).Nodup
  admissible : ∀ s ∈ snapshots, s.Admissible
  flagged    : ∀ s ∈ snapshots, Flagged s
  duration   : (snapshots.map (·.sessionDurationMillis)).sum ≤ u64Max
  counts     : ∀ c, countOf snapshots c ≤ u32Max
  samples    : ∀ k, (samplesOf snapshots k).length ≤ u32Max

theorem usagesOf_perm (hp : snapshots.Perm snapshots') : (usagesOf snapshots).Perm (usagesOf snapshots') :=
  hp.flatMap_right _

theorem collected_perm (hp : snapshots.Perm snapshots') (k : EvidenceSeries) :
    (samplesOf snapshots k).Perm (samplesOf snapshots' k) :=
  hp.flatMap_right _

theorem countOf_perm (hp : snapshots.Perm snapshots') (c : EvidenceCounter) : countOf snapshots c = countOf snapshots' c :=
  (hp.map _).sum_nat

theorem Acceptable.perm (hp : snapshots.Perm snapshots') (h : Acceptable digest snapshots) :
    Acceptable digest snapshots' where
  nonempty he       := h.nonempty (List.perm_nil.mp (he ▸ hp))
  length            := hp.length_eq ▸ h.length
  headers s hs      := h.headers s (hp.mem_iff.mpr hs)
  sequences         := (hp.map _).nodup_iff.mp h.sequences
  digests           := (hp.map _).nodup_iff.mp h.digests
  admissible s hs   := h.admissible s (hp.mem_iff.mpr hs)
  flagged s hs      := h.flagged s (hp.mem_iff.mpr hs)
  duration          := (hp.map _).sum_nat ▸ h.duration
  counts c          := countOf_perm hp c ▸ h.counts c
  samples k         := (collected_perm hp k).length_eq ▸ h.samples k

def LabSessionEvidenceSnapshot.HasCompleted (s : LabSessionEvidenceSnapshot) : Prop :=
  (∃ t ∈ s.textAttempts, t.status = .completed) ∨ ∃ a ∈ s.voiceAttempts, a.status = .completed

-- The aggregate of some snapshots, field by field.
structure Totals (snapshots : List LabSessionEvidenceSnapshot) (r : LabSessionEvidenceAggregate) : Prop where
  schemaVersion       : r.schemaVersion = sessionAggregateSchema
  sourceSchemaVersion : r.sourceSchemaVersion = sessionEvidenceSchema
  sessions            : r.sessions = snapshots.length
  duration            : r.sessionDurationMillis = (snapshots.map (·.sessionDurationMillis)).sum
  completedText       : r.completedTextAttempts = countOf snapshots .completedText
  failedText          : r.failedTextAttempts = countOf snapshots .failedText
  completedVoice      : r.completedVoiceAttempts = countOf snapshots .completedVoice
  failedVoice         : r.failedVoiceAttempts = countOf snapshots .failedVoice
  playback            : r.canonicalPlaybackProven = decide (countOf snapshots .completedVoice > 0 ∧
                          countOf snapshots .playbackSessions = snapshots.length)
  avSync              : r.avSyncProven = decide (countOf snapshots .completedVoice > 0 ∧
                          countOf snapshots .avSyncSessions = snapshots.length)
  latency             : ∀ k, Latency (samplesOf snapshots k) (r.latency k)
  estimated           : CostTotal ((usagesOf snapshots).map (·.estimatedCostMicrounits)) r.estimatedCostMicrounits
  charged             : CostTotal ((usagesOf snapshots).map (·.providerChargeMicrounits)) r.providerChargeMicrounits

theorem Totals.perm (hp : snapshots.Perm snapshots') (h : Totals snapshots r) : Totals snapshots' r where
  schemaVersion       := h.schemaVersion
  sourceSchemaVersion := h.sourceSchemaVersion
  sessions            := h.sessions.trans hp.length_eq
  duration            := h.duration.trans (hp.map _).sum_nat
  completedText       := h.completedText.trans (countOf_perm hp _)
  failedText          := h.failedText.trans (countOf_perm hp _)
  completedVoice      := h.completedVoice.trans (countOf_perm hp _)
  failedVoice         := h.failedVoice.trans (countOf_perm hp _)
  playback            := by rw [h.playback, countOf_perm hp, countOf_perm hp, hp.length_eq]
  avSync              := by rw [h.avSync, countOf_perm hp, countOf_perm hp, hp.length_eq]
  latency k           := (h.latency k).perm (collected_perm hp k)
  estimated           := h.estimated.perm ((usagesOf_perm hp).map _)
  charged             := h.charged.perm ((usagesOf_perm hp).map _)

theorem Totals.unique (h : Totals snapshots r) (h' : Totals snapshots r') : r = r' := by
  have hl (k : EvidenceSeries) : r.latency k = r'.latency k := (h.latency k).unique (h'.latency k)
  have he := h.estimated.unique h'.estimated
  have hc := h.charged.unique h'.charged
  have hp := h.playback.trans h'.playback.symm
  have ha := h.avSync.trans h'.avSync.symm
  have h₁ := h.schemaVersion.trans h'.schemaVersion.symm
  have h₂ := h.sourceSchemaVersion.trans h'.sourceSchemaVersion.symm
  have h₃ := h.sessions.trans h'.sessions.symm
  have h₄ := h.duration.trans h'.duration.symm
  have h₅ := h.completedText.trans h'.completedText.symm
  have h₆ := h.failedText.trans h'.failedText.symm
  have h₇ := h.completedVoice.trans h'.completedVoice.symm
  have h₈ := h.failedVoice.trans h'.failedVoice.symm
  have l₁ := hl .textFirstMeaningful
  have l₂ := hl .avSync
  have l₃ := hl .stt
  have l₄ := hl .llm
  have l₅ := hl .llmFirstMeaningful
  have l₆ := hl .voiceFirstText
  have l₇ := hl .avatar
  have l₈ := hl .serverTotal
  have m₁ := hl (.media .audio)
  have m₂ := hl (.media .interruption)
  have m₃ := hl (.media .video)
  have m₄ := hl (.media .backendStart)
  have m₅ := hl (.media .transportConnectStarted)
  have m₆ := hl (.media .transportConnected)
  have m₇ := hl (.media .remoteVideoTrackReceived)
  have m₈ := hl (.media .remoteVideoAttached)
  have m₉ := hl (.media .endToEndVideo)
  have m₁₀ := hl (.media .reconnect)
  cases r
  cases r'
  simp only [LabSessionEvidenceAggregate.latency] at *
  simp only [*]

-- What the loop over the snapshots has at hand.
structure Aggregated (digest : SnapshotDigest) (done : List LabSessionEvidenceSnapshot) (s : Aggregation) : Prop where
  digests   : s.digests = (done.map digest).toFinset
  sequences : s.sessionSequences = (done.map (·.sessionSequence)).toFinset
  duration  : s.accumulator.sessionDurationMillis = (done.map (·.sessionDurationMillis)).sum
  consumed  : Consumes { sessionDurationMillis := s.accumulator.sessionDurationMillis } s.accumulator (countOf done)
                (samplesOf done) (usagesOf done)

theorem SessionAggregateAccumulator.Consumes.withDuration {acc acc' : SessionAggregateAccumulator} {count : EvidenceCounter → Nat}
    {series : EvidenceSeries → List Nat} {us : List SessionUsageEvidence} (h : Consumes acc acc' count series us) (n : Nat) :
    Consumes { acc with sessionDurationMillis := n } { acc' with sessionDurationMillis := n } count series us := by
  have hcount (a : SessionAggregateAccumulator) (c : EvidenceCounter) :
      SessionAggregateAccumulator.count { a with sessionDurationMillis := n } c = a.count c := by
    cases c <;> rfl
  have hseries (a : SessionAggregateAccumulator) (k : EvidenceSeries) :
      SessionAggregateAccumulator.series { a with sessionDurationMillis := n } k = a.series k := by
    cases k
    case media m => cases m <;> rfl
    all_goals rfl
  refine ⟨⟨rfl, fun c => ?_, fun k => ?_⟩, fun hc c => ?_, fun us₀ hu => ?_⟩
  · rw [hcount, hcount, h.gains.count c]
  · rw [hseries, hseries, h.gains.series k]
  · rw [hcount]
    exact h.counted (fun c => hcount acc c ▸ hc c) c
  · have hu : acc.Costs us₀ := hu.of_eq rfl rfl rfl
    exact (h.costs us₀ hu).of_eq rfl rfl rfl

variable {done : List LabSessionEvidenceSnapshot} {x : LabSessionEvidenceSnapshot} {s s' : Aggregation}

theorem aggregated_nil : Aggregated digest [] { digests := ∅, sessionSequences := ∅, accumulator := {} } :=
  ⟨rfl, rfl, rfl, .refl⟩

theorem Aggregated.costs (h : Aggregated digest done s) : s.accumulator.Costs (usagesOf done) := by
  have h₀ : Costs { sessionDurationMillis := s.accumulator.sessionDurationMillis } [] :=
    ⟨⟨rfl, rfl⟩, by simp, fun _ => ⟨rfl, rfl⟩⟩
  simpa using h.consumed.costs [] h₀

theorem Aggregated.count (h : Aggregated digest done s) (c : EvidenceCounter) :
    s.accumulator.count c = countOf done c := by
  have h₀ : SessionAggregateAccumulator.count { sessionDurationMillis := s.accumulator.sessionDurationMillis } c = 0 := by
    cases c <;> rfl
  rw [h.consumed.gains.count c, h₀, Nat.zero_add]

theorem Aggregated.series (h : Aggregated digest done s) (k : EvidenceSeries) :
    s.accumulator.series k = samplesOf done k := by
  have h₀ : SessionAggregateAccumulator.series { sessionDurationMillis := s.accumulator.sessionDurationMillis } k = [] := by
    cases k
    case media m => cases m <;> rfl
    all_goals rfl
  rw [h.consumed.gains.series k, h₀, List.nil_append]

theorem Aggregated.counted (h : Aggregated digest done s) : s.accumulator.Counted := by
  refine h.consumed.counted fun c => ?_
  cases c <;> exact Nat.zero_le _

-- The state after one more snapshot.
def Aggregation.push (digest : SnapshotDigest) (s : Aggregation) (x : LabSessionEvidenceSnapshot)
    (accumulator : SessionAggregateAccumulator) : Aggregation where
  digests          := insert (digest x) s.digests
  sessionSequences := insert x.sessionSequence s.sessionSequences
  accumulator      := accumulator

theorem aggregateNext_eq_ok_iff (h : Aggregated digest done s) :
    aggregateNext digest s x = .ok s' ↔
      validateSnapshotHeader x = .ok () ∧ x.sessionSequence ∉ done.map (·.sessionSequence) ∧
      digest x ∉ done.map digest ∧
      ∃ acc, s.accumulator.consumeSnapshot x = .ok acc ∧ s' = s.push digest x acc := by
  have hseq : x.sessionSequence ∈ s.sessionSequences ↔ x.sessionSequence ∈ done.map (·.sessionSequence) := by
    rw [h.sequences, List.mem_toFinset]
  have hdig : digest x ∈ s.digests ↔ digest x ∈ done.map digest := by
    rw [h.digests, List.mem_toFinset]
  rw [← hseq, ← hdig, aggregateNext]
  constructor
  case mp =>
    intro hn
    obtain ⟨_, hh, hn⟩ := Except.bind_eq_ok hn
    split at hn
    case isTrue => cases hn
    case isFalse hd =>
      obtain ⟨acc, hc, hn⟩ := Except.bind_eq_ok hn
      cases hn
      exact ⟨hh, (not_or.mp hd).left, (not_or.mp hd).right, acc, hc, rfl⟩
  case mpr =>
    rintro ⟨hh, hs, hd, acc, hc, rfl⟩
    rw [hh, Except.ok_bind, if_neg (not_or.mpr ⟨hs, hd⟩), hc]
    rfl

theorem Aggregated.snoc (h : Aggregated digest done s) {acc : SessionAggregateAccumulator}
    (hc : s.accumulator.consumeSnapshot x = .ok acc) : Aggregated digest (done ++ [x]) (s.push digest x acc) := by
  obtain ⟨-, -, -, hcons⟩ := consumeSnapshot_consumes hc
  have hd := hcons.gains.duration
  have hall := (h.consumed.withDuration _).trans hcons
  have hcount : countOf (done ++ [x]) = fun c => countOf done c + x.count c := by
    funext c
    simp [countOf]
  have hseries : samplesOf (done ++ [x]) = fun k => samplesOf done k ++ x.series k := by
    funext k
    simp [samplesOf]
  have husages : usagesOf (done ++ [x]) = usagesOf done ++ x.usages := by
    simp [usagesOf]
  refine ⟨?_, ?_, ?_, ?_⟩
  · simp [Aggregation.push, h.digests]
  · simp [Aggregation.push, h.sequences]
  · simpa [Aggregation.push, h.duration] using hd
  · rw [hcount, hseries, husages]
    simp only [Aggregation.push, hd]
    exact hall

theorem usages_eq_nil_iff (ha : x.Admissible) : x.usages = [] ↔ ¬x.HasCompleted := by
  rw [LabSessionEvidenceSnapshot.usages, List.append_eq_nil_iff, List.flatMap_eq_nil_iff, List.flatMap_eq_nil_iff,
    LabSessionEvidenceSnapshot.HasCompleted, not_or]
  simp only [not_exists, not_and]
  refine and_congr (forall₂_congr fun t ht => ?_) (forall₂_congr fun a hm => ?_)
  · cases ha.texts t ht
    case failed hs hc                    => simp [LabTextAttemptEvidence.usages_failed hs, hs]
    case completed c hs hc _ _ _ _       => simp [LabTextAttemptEvidence.usages_completed hs hc, hs]
  · cases ha.voices a hm
    case failed hs hc                    => simp [LabVoiceAttemptEvidence.usages_failed hs, hs]
    case completed v hs hc _ _ _ _ _ _   => simp [LabVoiceAttemptEvidence.usages_completed hs hc, hs]

-- There are usages as soon as there is an attempt that completed.
theorem usagesOf_eq_nil_iff (ha : ∀ s ∈ snapshots, s.Admissible) :
    usagesOf snapshots = [] ↔ ∀ s ∈ snapshots, ¬s.HasCompleted := by
  rw [usagesOf, List.flatMap_eq_nil_iff]
  exact forall₂_congr fun s hs => usages_eq_nil_iff (ha s hs)

structure Entered (digest : SnapshotDigest) (done : List LabSessionEvidenceSnapshot) : Prop where
  headers    : ∀ s ∈ done, validateSnapshotHeader s = .ok ()
  sequences  : (done.map (·.sessionSequence)).Nodup
  digests    : (done.map digest).Nodup
  admissible : ∀ s ∈ done, s.Admissible
  flagged    : ∀ s ∈ done, Flagged s
  duration   : (done.map (·.sessionDurationMillis)).sum ≤ u64Max

theorem loop_eq_ok (h : snapshots.foldlM (aggregateNext digest)
      { digests := ∅, sessionSequences := ∅, accumulator := {} } = .ok s) :
    Entered digest snapshots ∧ Aggregated digest snapshots s := by
  have h₀ : Entered digest [] :=
    ⟨by simp, List.nodup_nil, List.nodup_nil, by simp, by simp, Nat.zero_le _⟩
  refine List.foldlM_ok_invariant (P := fun done s => Entered digest done ∧ Aggregated digest done s) ?_
    ⟨h₀, aggregated_nil⟩ h
  rintro done x s s' ⟨he, ha⟩ hx
  obtain ⟨hh, hs, hd, acc, hc, rfl⟩ := (aggregateNext_eq_ok_iff ha).mp hx
  obtain ⟨hadm, hflag, hdur, -⟩ := consumeSnapshot_consumes hc
  refine ⟨⟨?_, ?_, ?_, ?_, ?_, ?_⟩, ha.snoc hc⟩
  · exact List.forall_mem_append.mpr ⟨he.headers, by simpa using hh⟩
  · rw [List.map_append, List.nodup_append_comm]
    exact List.nodup_cons.mpr ⟨hs, he.sequences⟩
  · rw [List.map_append, List.nodup_append_comm]
    exact List.nodup_cons.mpr ⟨hd, he.digests⟩
  · exact List.forall_mem_append.mpr ⟨he.admissible, by simpa using hadm⟩
  · exact List.forall_mem_append.mpr ⟨he.flagged, by simpa using hflag⟩
  · rw [ha.duration] at hdur
    simpa using hdur

theorem exists_loop (h : Acceptable digest snapshots) (hu : Affordable (usagesOf snapshots)) :
    ∃ s, snapshots.foldlM (aggregateNext digest) { digests := ∅, sessionSequences := ∅, accumulator := {} } = .ok s := by
  suffices hl : ∃ s, snapshots.foldlM (aggregateNext digest)
      { digests := ∅, sessionSequences := ∅, accumulator := {} } = .ok s ∧ Aggregated digest snapshots s by
    obtain ⟨s, hs, -⟩ := hl
    exact ⟨s, hs⟩
  refine List.exists_foldlM_ok (P := fun done s => Aggregated digest done s) ?_ aggregated_nil
  intro done x s hp ha
  obtain ⟨rest, hx⟩ := hp
  have hm : x ∈ snapshots := by
    rw [← hx]
    simp
  have hseq := h.sequences
  have hdig := h.digests
  have hdur := h.duration
  have hcount := h.counts
  simp only [countOf] at hcount
  rw [← hx] at hseq hdig hdur hcount hu
  rw [List.map_append, List.map_append, List.map_singleton] at hseq hdig
  simp only [List.map_append, List.map_cons, List.map_nil, List.sum_append, List.sum_cons, List.sum_nil] at hdur hcount
  have hs := (List.nodup_append_comm.mp hseq.of_append_left)
  have hd := (List.nodup_append_comm.mp hdig.of_append_left)
  have hroom : ∀ c, s.accumulator.count c + x.count c ≤ u32Max := by
    intro c
    have hc := hcount c
    have := ha.count c
    simp only [countOf] at this
    omega
  have hafford : Affordable (usagesOf done ++ x.usages) := by
    have hafter : Affordable ((usagesOf done ++ x.usages) ++ usagesOf rest) := by
      simpa [usagesOf] using hu
    exact hafter.of_append
  have hduration : s.accumulator.sessionDurationMillis + x.sessionDurationMillis ≤ u64Max := by
    have := ha.duration
    omega
  obtain ⟨acc, hc⟩ := exists_consumeSnapshot_ok (h.admissible x hm) (h.flagged x hm) hduration hroom ha.costs hafford
  exact ⟨_, (aggregateNext_eq_ok_iff ha).mpr ⟨h.headers x hm, (List.nodup_cons.mp hs).left, (List.nodup_cons.mp hd).left,
    acc, hc, rfl⟩, ha.snoc hc⟩

section Finish

variable {acc : SessionAggregateAccumulator} {n : Nat}

theorem distribution_length {values : List Nat} {d : Option LatencyDistributionMillis} (h : distribution values = .ok d) :
    values.length ≤ u32Max := by
  simp only [distribution] at h
  split at h
  case isTrue he => simp [List.isEmpty_iff.mp he]
  case isFalse =>
    split at h
    case isTrue hl => exact hl
    case isFalse   => cases h

-- The fields of an aggregate that are no distributions.
structure Finished (acc : SessionAggregateAccumulator) (n : Nat) (r : LabSessionEvidenceAggregate) : Prop where
  schemaVersion       : r.schemaVersion = sessionAggregateSchema
  sourceSchemaVersion : r.sourceSchemaVersion = sessionEvidenceSchema
  sessions            : r.sessions = n
  duration            : r.sessionDurationMillis = acc.sessionDurationMillis
  completedText       : r.completedTextAttempts = acc.completedText
  failedText          : r.failedTextAttempts = acc.failedText
  completedVoice      : r.completedVoiceAttempts = acc.completedVoice
  failedVoice         : r.failedVoiceAttempts = acc.failedVoice
  playback            : r.canonicalPlaybackProven = decide (acc.completedVoice > 0 ∧ acc.playbackSessions = n)
  avSync              : r.avSyncProven = decide (acc.completedVoice > 0 ∧ acc.avSyncSessions = n)
  estimated           : r.estimatedCostMicrounits = acc.estimatedCost
  charged             : r.providerChargeMicrounits = acc.providerCharge

theorem finish_eq_ok (h : acc.finish n = .ok r) :
    (∀ k, distribution (acc.series k) = .ok (r.latency k)) ∧ Finished acc n r := by
  simp only [finish] at h
  obtain ⟨d₁, h₁, h⟩ := Except.bind_eq_ok h
  obtain ⟨d₂, h₂, h⟩ := Except.bind_eq_ok h
  obtain ⟨d₃, h₃, h⟩ := Except.bind_eq_ok h
  obtain ⟨d₄, h₄, h⟩ := Except.bind_eq_ok h
  obtain ⟨d₅, h₅, h⟩ := Except.bind_eq_ok h
  obtain ⟨d₆, h₆, h⟩ := Except.bind_eq_ok h
  obtain ⟨d₇, h₇, h⟩ := Except.bind_eq_ok h
  obtain ⟨d₈, h₈, h⟩ := Except.bind_eq_ok h
  obtain ⟨m₁, g₁, h⟩ := Except.bind_eq_ok h
  obtain ⟨m₂, g₂, h⟩ := Except.bind_eq_ok h
  obtain ⟨m₃, g₃, h⟩ := Except.bind_eq_ok h
  obtain ⟨m₄, g₄, h⟩ := Except.bind_eq_ok h
  obtain ⟨m₅, g₅, h⟩ := Except.bind_eq_ok h
  obtain ⟨m₆, g₆, h⟩ := Except.bind_eq_ok h
  obtain ⟨m₇, g₇, h⟩ := Except.bind_eq_ok h
  obtain ⟨m₈, g₈, h⟩ := Except.bind_eq_ok h
  obtain ⟨m₉, g₉, h⟩ := Except.bind_eq_ok h
  obtain ⟨m₁₀, g₁₀, h⟩ := Except.bind_eq_ok h
  cases h
  refine ⟨fun k => ?_, rfl, rfl, rfl, rfl, rfl, rfl, rfl, rfl, rfl, rfl, rfl, rfl⟩
  cases k
  case media m => cases m <;> assumption
  all_goals assumption

theorem exists_finish_ok (h : ∀ k, (acc.series k).length ≤ u32Max) (n : Nat) : ∃ r, acc.finish n = .ok r := by
  simp only [finish]
  refine Except.exists_bind (exists_distribution (h .textFirstMeaningful)) fun _ => ?_
  refine Except.exists_bind (exists_distribution (h .avSync)) fun _ => ?_
  refine Except.exists_bind (exists_distribution (h .stt)) fun _ => ?_
  refine Except.exists_bind (exists_distribution (h .llm)) fun _ => ?_
  refine Except.exists_bind (exists_distribution (h .llmFirstMeaningful)) fun _ => ?_
  refine Except.exists_bind (exists_distribution (h .voiceFirstText)) fun _ => ?_
  refine Except.exists_bind (exists_distribution (h .avatar)) fun _ => ?_
  refine Except.exists_bind (exists_distribution (h .serverTotal)) fun _ => ?_
  refine Except.exists_bind (exists_distribution (h (.media .audio))) fun _ => ?_
  refine Except.exists_bind (exists_distribution (h (.media .interruption))) fun _ => ?_
  refine Except.exists_bind (exists_distribution (h (.media .video))) fun _ => ?_
  refine Except.exists_bind (exists_distribution (h (.media .backendStart))) fun _ => ?_
  refine Except.exists_bind (exists_distribution (h (.media .transportConnectStarted))) fun _ => ?_
  refine Except.exists_bind (exists_distribution (h (.media .transportConnected))) fun _ => ?_
  refine Except.exists_bind (exists_distribution (h (.media .remoteVideoTrackReceived))) fun _ => ?_
  refine Except.exists_bind (exists_distribution (h (.media .remoteVideoAttached))) fun _ => ?_
  refine Except.exists_bind (exists_distribution (h (.media .endToEndVideo))) fun _ => ?_
  refine Except.exists_bind (exists_distribution (h (.media .reconnect))) fun _ => ?_
  exact ⟨_, rfl⟩

end Finish

theorem costTotal_of_loop {costs : List (Option Nat)} {total : Option Nat}
    (h : costs.foldlM addCost (some 0) = .ok total) (hn : costs ≠ []) : CostTotal costs total where
  unknown   := by simp [(foldlM_addCost_eq_ok h).left, hn]
  known n e := by simpa using (foldlM_addCost_eq_ok h).right n e

theorem costTotal_nil : CostTotal [] none :=
  ⟨by simp, by simp⟩

-- The costs of an accumulator are the totals of the costs of the attempts that completed.
theorem Costs.totals {acc : SessionAggregateAccumulator} {us : List SessionUsageEvidence} (hc : acc.Costs us) :
    CostTotal (us.map (·.estimatedCostMicrounits)) acc.estimatedCost ∧
    CostTotal (us.map (·.providerChargeMicrounits)) acc.providerCharge := by
  by_cases hn : us = []
  case pos =>
    obtain ⟨he, hp⟩ := hc.unset hn
    rw [he, hp, hn]
    exact ⟨costTotal_nil, costTotal_nil⟩
  case neg =>
    have hi := hc.initialized.mpr hn
    have he := hc.tallied.estimated
    have hp := hc.tallied.charged
    rw [estimated, if_pos hi] at he
    rw [charged, if_pos hi] at hp
    exact ⟨costTotal_of_loop he (by simpa using hn), costTotal_of_loop hp (by simpa using hn)⟩

theorem Aggregated.totals (h : Aggregated digest snapshots s) (hf : s.accumulator.finish snapshots.length = .ok r) :
    Totals snapshots r := by
  obtain ⟨hl, hr⟩ := finish_eq_ok hf
  obtain ⟨he, hc⟩ := Costs.totals h.costs
  have hv : s.accumulator.completedVoice = countOf snapshots .completedVoice := h.count .completedVoice
  constructor
  case schemaVersion       => exact hr.schemaVersion
  case sourceSchemaVersion => exact hr.sourceSchemaVersion
  case sessions            => exact hr.sessions
  case duration            => exact hr.duration.trans h.duration
  case completedText       => exact hr.completedText.trans (h.count .completedText)
  case failedText          => exact hr.failedText.trans (h.count .failedText)
  case completedVoice      => exact hr.completedVoice.trans hv
  case failedVoice         => exact hr.failedVoice.trans (h.count .failedVoice)
  case playback            => rw [hr.playback, hv, ← h.count .playbackSessions]; rfl
  case avSync              => rw [hr.avSync, hv, ← h.count .avSyncSessions]; rfl
  case latency             => exact fun k => h.series k ▸ distribution_latency (hl k)
  case estimated           => exact hr.estimated ▸ he
  case charged             => exact hr.charged ▸ hc

theorem aggregate_eq_ok (h : aggregateOwnerLabSessionEvidence digest snapshots = .ok r) :
    Acceptable digest snapshots ∧ Affordable (usagesOf snapshots) ∧ Totals snapshots r := by
  simp only [aggregateOwnerLabSessionEvidence] at h
  split at h
  case isTrue => cases h
  case isFalse hn =>
    split at h
    case isFalse => cases h
    case isTrue hlen =>
      obtain ⟨s, hl, hf⟩ := Except.bind_eq_ok h
      obtain ⟨he, ha⟩ := loop_eq_ok hl
      refine ⟨?_, ha.costs.tallied.affordable, ha.totals hf⟩
      have hk := (finish_eq_ok hf).left
      exact {
        nonempty   := by simpa using hn
        length     := hlen
        headers    := he.headers
        sequences  := he.sequences
        digests    := he.digests
        admissible := he.admissible
        flagged    := he.flagged
        duration   := he.duration
        counts c   := ha.count c ▸ ha.counted c
        samples k  := ha.series k ▸ distribution_length (hk k) }

-- The snapshots that can be aggregated.
theorem exists_aggregate_iff : (∃ r, aggregateOwnerLabSessionEvidence digest snapshots = .ok r) ↔
    Acceptable digest snapshots ∧ Affordable (usagesOf snapshots) := by
  constructor
  case mp =>
    rintro ⟨r, h⟩
    obtain ⟨ha, hu, -⟩ := aggregate_eq_ok h
    exact ⟨ha, hu⟩
  case mpr =>
    rintro ⟨ha, hu⟩
    obtain ⟨s, hs⟩ := exists_loop ha hu
    obtain ⟨-, hagg⟩ := loop_eq_ok hs
    obtain ⟨r, hr⟩ := exists_finish_ok (fun k => hagg.series k ▸ ha.samples k) snapshots.length
    refine ⟨r, ?_⟩
    have hn : ¬snapshots.isEmpty := by simpa using ha.nonempty
    rw [aggregateOwnerLabSessionEvidence, if_neg hn, if_pos ha.length, hs]
    exact hr

-- Aggregation does not depend on the order of the snapshots, and its result is what it says.
structure OrderFree (digest : SnapshotDigest) (snapshots snapshots' : List LabSessionEvidenceSnapshot) : Prop where
  success   : (∃ r, aggregateOwnerLabSessionEvidence digest snapshots = .ok r) ↔
                ∃ r, aggregateOwnerLabSessionEvidence digest snapshots' = .ok r
  equal     : ∀ r r', aggregateOwnerLabSessionEvidence digest snapshots = .ok r →
                aggregateOwnerLabSessionEvidence digest snapshots' = .ok r' → r = r'
  totals    : ∀ r, aggregateOwnerLabSessionEvidence digest snapshots = .ok r → Totals snapshots r
  estimated : ∀ r, aggregateOwnerLabSessionEvidence digest snapshots = .ok r → (r.estimatedCostMicrounits = none ↔
                (∀ s ∈ snapshots, ¬s.HasCompleted) ∨ ∃ u ∈ usagesOf snapshots, u.estimatedCostMicrounits = none)
  charged   : ∀ r, aggregateOwnerLabSessionEvidence digest snapshots = .ok r → (r.providerChargeMicrounits = none ↔
                (∀ s ∈ snapshots, ¬s.HasCompleted) ∨ ∃ u ∈ usagesOf snapshots, u.providerChargeMicrounits = none)

-- What holds in any case.
theorem orderFree_of_success (hp : snapshots.Perm snapshots')
    (hs : (∃ r, aggregateOwnerLabSessionEvidence digest snapshots = .ok r) ↔
      ∃ r, aggregateOwnerLabSessionEvidence digest snapshots' = .ok r) : OrderFree digest snapshots snapshots' where
  success := hs
  equal r r' h h' :=
    ((aggregate_eq_ok h).right.right.perm hp).unique (aggregate_eq_ok h').right.right
  totals r h := (aggregate_eq_ok h).right.right
  estimated r h := by
    obtain ⟨ha, -, ht⟩ := aggregate_eq_ok h
    rw [ht.estimated.unknown, ← usagesOf_eq_nil_iff ha.admissible]
    simp
  charged r h := by
    obtain ⟨ha, -, ht⟩ := aggregate_eq_ok h
    rw [ht.charged.unknown, ← usagesOf_eq_nil_iff ha.admissible]
    simp

theorem aggregate_order_free_iff (hp : snapshots.Perm snapshots') :
    OrderFree digest snapshots snapshots' ↔
      ¬Acceptable digest snapshots ∨ (Affordable (usagesOf snapshots) ↔ Affordable (usagesOf snapshots')) := by
  have ha : Acceptable digest snapshots ↔ Acceptable digest snapshots' := ⟨.perm hp, .perm hp.symm⟩
  constructor
  case mp =>
    intro h
    have hs := h.success
    rw [exists_aggregate_iff, exists_aggregate_iff, ← ha] at hs
    tauto
  case mpr =>
    intro h
    refine orderFree_of_success hp ?_
    rw [exists_aggregate_iff, exists_aggregate_iff, ← ha]
    tauto

-- A session with one text attempt.
def textSession (sequence : Nat) (cost : Option Nat) : LabSessionEvidenceSnapshot where
  schemaVersion           := sessionEvidenceSchema
  candidateSha            := "0123456789abcdef0123456789abcdef01234567"
  providerStateSha256     := "0123456789abcdef0123456789abcdef0123456789abcdef0123456789abcdef"
  scope                   := mediaEvidenceScope
  sessionSequence         := sequence
  participantRole         := .owner
  sessionDurationMillis   := 1000
  canonicalPlaybackProven := false
  avSyncProven            := false
  textAttempts            := [⟨1, some 1, some 1, .completed, none, some 200, some 300, some ⟨none, none, cost, none⟩⟩]
  voiceAttempts           := []
  mediaEvents             := []
  avSyncSamples           := []
  avSyncDiagnostics       := []

def sequenceDigest : SnapshotDigest :=
  fun s => toString s.sessionSequence

def costly : List LabSessionEvidenceSnapshot :=
  [textSession 1 none, textSession 2 (some u64Max), textSession 3 (some 1)]

theorem aggregate_order_free_two :
    OrderFree sequenceDigest [textSession 1 none, textSession 2 (some 5)] [textSession 2 (some 5), textSession 1 none] :=
  (aggregate_order_free_iff (.swap ..)).mpr (.inr (by decide))

-- The costs overflow unless the attempt without a cost comes first.
theorem aggregate_order_matters :
    ¬∀ digest (snapshots snapshots' : List LabSessionEvidenceSnapshot), snapshots.Perm snapshots' →
      OrderFree digest snapshots snapshots' := by
  intro h
  have hok : (aggregateOwnerLabSessionEvidence sequenceDigest costly).toOption.isSome = true := by decide +kernel
  have herr : (aggregateOwnerLabSessionEvidence sequenceDigest costly.reverse).toOption.isSome = false := by
    decide +kernel
  have hs := (h sequenceDigest costly costly.reverse (List.reverse_perm costly).symm).success
  cases hr : aggregateOwnerLabSessionEvidence sequenceDigest costly
  case error e =>
    rw [hr] at hok
    cases hok
  case ok r =>
    obtain ⟨r', hr'⟩ := hs.mp ⟨r, hr⟩
    rw [hr'] at herr
    cases herr

end Snapshots
