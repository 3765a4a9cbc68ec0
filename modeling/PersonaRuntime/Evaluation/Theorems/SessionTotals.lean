import Mathlib.Algebra.Order.BigOperators.Group.List
import Mathlib.Algebra.Order.Ring.Nat
import PersonaRuntime.Evaluation.Theorems.SessionEvidence

-- The events of which the times are aggregated.
inductive MediaSeries
  | audio
  | interruption
  | video
  | backendStart
  | transportConnectStarted
  | transportConnected
  | remoteVideoTrackReceived
  | remoteVideoAttached
  | endToEndVideo
  | reconnect

def MediaSeries.kind : MediaSeries → LabMediaEvidenceKind
  | audio                    => .audioStarted
  | interruption             => .interruptionStopped
  | video                    => .videoReady
  | backendStart             => .backendStartReady
  | transportConnectStarted  => .transportConnectStarted
  | transportConnected       => .transportConnected
  | remoteVideoTrackReceived => .remoteVideoTrackReceived
  | remoteVideoAttached      => .remoteVideoAttached
  | endToEndVideo            => .endToEndVideoReady
  | reconnect                => .reconnectRestored

-- The values of which an aggregate has the distribution.
inductive EvidenceSeries
  | textFirstMeaningful
  | avSync
  | stt
  | llm
  | llmFirstMeaningful
  | voiceFirstText
  | avatar
  | serverTotal
  | media (m : MediaSeries)

inductive EvidenceCounter
  | completedText
  | failedText
  | completedVoice
  | failedVoice
  | playbackSessions
  | avSyncSessions

def LabTextAttemptEvidence.count (a : LabTextAttemptEvidence) : EvidenceCounter → Nat
  | .completedText => if a.status = .completed then 1 else 0
  | .failedText    => if a.status = .failed then 1 else 0
  | _              => 0

def LabTextAttemptEvidence.series (a : LabTextAttemptEvidence) : EvidenceSeries → List Nat
  | .textFirstMeaningful => if a.status = .completed then a.firstMeaningfulResponseMillis.toList else []
  | _                    => []

def LabVoiceAttemptEvidence.count (a : LabVoiceAttemptEvidence) : EvidenceCounter → Nat
  | .completedVoice => if a.status = .completed then 1 else 0
  | .failedVoice    => if a.status = .failed then 1 else 0
  | _               => 0

def LabVoiceAttemptEvidence.series (a : LabVoiceAttemptEvidence) : EvidenceSeries → List Nat
  | .stt                => if a.status = .completed then a.sttMillis.toList else []
  | .llm                => if a.status = .completed then a.llmMillis.toList else []
  | .llmFirstMeaningful => if a.status = .completed then a.llmFirstMeaningfulMillis.toList else []
  | .voiceFirstText     => if a.status = .completed then a.voiceFirstTextMillis.toList else []
  | .avatar             => if a.status = .completed then a.avatarMillis.toList else []
  | .serverTotal        => if a.status = .completed then a.serverTotalMillis.toList else []
  | _                   => []

def LabMediaEvidence.series (e : LabMediaEvidence) : EvidenceSeries → List Nat
  | .media m => if e.kind = m.kind then [e.elapsedMillis] else []
  | _        => []

namespace LabSessionEvidenceSnapshot

-- What a snapshot proves as a whole.
def proven (s : LabSessionEvidenceSnapshot) : EvidenceCounter → Nat
  | .playbackSessions => if s.derivedPlayback then 1 else 0
  | .avSyncSessions   => if s.derivedAvSync then 1 else 0
  | _                 => 0

def count (s : LabSessionEvidenceSnapshot) (c : EvidenceCounter) : Nat :=
  (s.textAttempts.map (·.count c)).sum + (s.voiceAttempts.map (·.count c)).sum + s.proven c

-- The offsets of the requests of which the playback was confirmed.
def offsets (s : LabSessionEvidenceSnapshot) : EvidenceSeries → List Nat
  | .avSync =>
    (s.avSyncSamples.filter (·.requestSequence ∈ confirmedRequests s.voiceAttempts)).map (·.absoluteOffsetMillis)
  | _       => []

def series (s : LabSessionEvidenceSnapshot) (k : EvidenceSeries) : List Nat :=
  s.textAttempts.flatMap (·.series k) ++ s.voiceAttempts.flatMap (·.series k) ++
    s.mediaEvents.flatMap (·.series k) ++ s.offsets k

end LabSessionEvidenceSnapshot

namespace SessionAggregateAccumulator

variable {acc acc' acc'' : SessionAggregateAccumulator} {us us' : List SessionUsageEvidence}

def count (acc : SessionAggregateAccumulator) : EvidenceCounter → Nat
  | .completedText    => acc.completedText
  | .failedText       => acc.failedText
  | .completedVoice   => acc.completedVoice
  | .failedVoice      => acc.failedVoice
  | .playbackSessions => acc.playbackSessions
  | .avSyncSessions   => acc.avSyncSessions

def series (acc : SessionAggregateAccumulator) : EvidenceSeries → List Nat
  | .textFirstMeaningful             => acc.textFirstMeaningful
  | .avSync                          => acc.avSync
  | .stt                             => acc.stt
  | .llm                             => acc.llm
  | .llmFirstMeaningful              => acc.llmFirstMeaningful
  | .voiceFirstText                  => acc.voiceFirstText
  | .avatar                          => acc.avatar
  | .serverTotal                     => acc.serverTotal
  | .media .audio                    => acc.audio
  | .media .interruption             => acc.interruption
  | .media .video                    => acc.video
  | .media .backendStart             => acc.backendStart
  | .media .transportConnectStarted  => acc.transportConnectStarted
  | .media .transportConnected       => acc.transportConnected
  | .media .remoteVideoTrackReceived => acc.remoteVideoTrackReceived
  | .media .remoteVideoAttached      => acc.remoteVideoAttached
  | .media .endToEndVideo            => acc.endToEndVideo
  | .media .reconnect                => acc.reconnect

-- What a piece of evidence adds to an accumulator.
structure Gains (acc acc' : SessionAggregateAccumulator) (count : EvidenceCounter → Nat)
    (series : EvidenceSeries → List Nat) : Prop where
  duration : acc'.sessionDurationMillis = acc.sessionDurationMillis
  count    : ∀ c, acc'.count c = acc.count c + count c
  series   : ∀ k, acc'.series k = acc.series k ++ series k

variable {count count' : EvidenceCounter → Nat} {series series' : EvidenceSeries → List Nat}

theorem Gains.refl : Gains acc acc (fun _ => 0) (fun _ => []) :=
  ⟨rfl, fun _ => rfl, fun _ => (List.append_nil _).symm⟩

theorem Gains.trans (h : Gains acc acc' count series) (h' : Gains acc' acc'' count' series') :
    Gains acc acc'' (fun c => count c + count' c) (fun k => series k ++ series' k) where
  duration := h'.duration.trans h.duration
  count c  := by rw [h'.count, h.count, Nat.add_assoc]
  series k := by rw [h'.series, h.series, List.append_assoc]

-- No counter is greater than its type allows for.
def Counted (acc : SessionAggregateAccumulator) : Prop :=
  ∀ c, acc.count c ≤ u32Max

-- The costs of the attempts so far, and whether there have been any.
structure Costs (acc : SessionAggregateAccumulator) (us : List SessionUsageEvidence) : Prop where
  tallied     : acc.Tallied us
  initialized : acc.costInitialized = true ↔ us ≠ []
  unset       : us = [] → acc.estimatedCost = none ∧ acc.providerCharge = none

theorem charge_gains (h : acc.charge us = .ok acc') : Gains acc acc' (fun _ => 0) (fun _ => []) := by
  obtain ⟨e, -, h⟩ := Except.bind_eq_ok h
  obtain ⟨c, -, h⟩ := Except.bind_eq_ok h
  cases h
  refine ⟨rfl, fun c => ?_, fun k => ?_⟩
  · cases c <;> rfl
  · rw [List.append_nil]
    cases k
    case media m => cases m <;> rfl
    all_goals rfl

theorem charge_initialized (h : acc.charge us = .ok acc') : acc'.costInitialized = true := by
  obtain ⟨e, -, h⟩ := Except.bind_eq_ok h
  obtain ⟨c, -, h⟩ := Except.bind_eq_ok h
  cases h
  rfl

theorem Costs.charge (hc : acc.Costs us) (hn : us' ≠ []) (h : acc.charge us' = .ok acc') : acc'.Costs (us ++ us') where
  tallied     := hc.tallied.charge h
  initialized := by simp [charge_initialized h, hn]
  unset he    := absurd (List.append_eq_nil_iff.mp he).right hn

theorem Costs.of_eq (hc : acc.Costs us) (hi : acc'.costInitialized = acc.costInitialized)
    (he : acc'.estimatedCost = acc.estimatedCost) (hp : acc'.providerCharge = acc.providerCharge) : acc'.Costs us where
  tallied     := hc.tallied.of_eq (by rw [estimated, estimated, hi, he]) (by rw [charged, charged, hi, hp])
  initialized := hi ▸ hc.initialized
  unset hn    := ⟨he.trans (hc.unset hn).left, hp.trans (hc.unset hn).right⟩

-- What a piece of evidence does to the accumulator that it has been added to.
structure Consumes (acc acc' : SessionAggregateAccumulator) (count : EvidenceCounter → Nat)
    (series : EvidenceSeries → List Nat) (us : List SessionUsageEvidence) : Prop where
  gains   : Gains acc acc' count series
  counted : acc.Counted → acc'.Counted
  costs   : ∀ us₀, acc.Costs us₀ → acc'.Costs (us₀ ++ us)

theorem Consumes.refl : Consumes acc acc (fun _ => 0) (fun _ => []) [] :=
  ⟨.refl, id, fun us₀ hc => (List.append_nil us₀).symm ▸ hc⟩

theorem Consumes.trans (h : Consumes acc acc' count series us) (h' : Consumes acc' acc'' count' series' us') :
    Consumes acc acc'' (fun c => count c + count' c) (fun k => series k ++ series' k) (us ++ us') where
  gains        := h.gains.trans h'.gains
  counted hc   := h'.counted (h.counted hc)
  costs us₀ hc := List.append_assoc us₀ us us' ▸ h'.costs _ (h.costs us₀ hc)

theorem Tallied.exists_charge_ok (ht : acc.Tallied us) (ha : Affordable (us ++ us')) :
    ∃ acc', acc.charge us' = .ok acc' := by
  obtain ⟨e, he⟩ := fits_iff.mp ha.estimated
  obtain ⟨c, hc⟩ := fits_iff.mp ha.charged
  rw [List.map_append, List.foldlM_append, ht.estimated, Except.ok_bind] at he
  rw [List.map_append, List.foldlM_append, ht.charged, Except.ok_bind] at hc
  rw [SessionAggregateAccumulator.charge, he, Except.ok_bind, hc]
  exact ⟨_, rfl⟩

section Attempts

variable {t : LabTextAttemptEvidence} {a : LabVoiceAttemptEvidence} {c : TextCompletion} {v : VoiceCompletion}

theorem checkedAddU32_eq_ok_iff {n m : Nat} : orOverflow (checkedAddU32 n 1) = .ok m ↔ n + 1 ≤ u32Max ∧ m = n + 1 := by
  rw [orOverflow_eq_ok_iff, checkedAddU32]
  split <;> simp_all [eq_comm]

theorem consumeTextAttempt_failed (hs : t.status = .failed) (hc : t.Clean) :
    acc.consumeTextAttempt t = (do
      let failedText ← orOverflow (checkedAddU32 acc.failedText 1)
      return { acc with failedText }) := by
  simp only [consumeTextAttempt, consumeFailedText, hs, hc.code, hc.turn, hc.output, hc.first, hc.total, hc.usage]
  rfl

-- The accumulator with the values of a completed attempt.
def withText (acc : SessionAggregateAccumulator) (completedText first : Nat) : SessionAggregateAccumulator :=
  { acc with
    completedText
    textFirstMeaningful := acc.textFirstMeaningful ++ [first] }

theorem consumeTextAttempt_completed (hs : t.status = .completed) (hc : t.completion = some c) (ht : c.turn ≠ 0)
    (ho : c.output ≠ 0) (hf : c.first ≤ c.total) (hn : t.failureCode = none) :
    acc.consumeTextAttempt t = (do
      let completedText ← orOverflow (checkedAddU32 acc.completedText 1)
      (acc.withText completedText c.first).charge [c.llmUsage]) := by
  simp only [consumeTextAttempt, consumeCompletedText, hs, hc, ht, ho, hn, Nat.not_lt.mpr hf, addSingleUsageCost_eq]
  rfl

theorem completion_first (hc : t.completion = some c) : t.firstMeaningfulResponseMillis = some c.first := by
  simp only [LabTextAttemptEvidence.completion, Option.bind_eq_bind, Option.bind_eq_some_iff] at hc
  obtain ⟨_, -, _, -, first, hf, _, -, _, -, hc⟩ := hc
  cases hc
  exact hf

theorem withText_gains {n : Nat} (hs : t.status = .completed) (hc : t.completion = some c)
    (hn : n = acc.completedText + 1) : Gains acc (acc.withText n c.first) t.count t.series := by
  subst hn
  refine ⟨rfl, fun c => ?_, fun k => ?_⟩
  · cases c <;> simp [SessionAggregateAccumulator.count, LabTextAttemptEvidence.count, withText, hs]
  · cases k
    case media m => cases m <;> simp [SessionAggregateAccumulator.series, LabTextAttemptEvidence.series, withText]
    all_goals
      simp [SessionAggregateAccumulator.series, LabTextAttemptEvidence.series, withText, hs, completion_first hc]

theorem failed_gains {n : Nat} (hs : t.status = .failed) (hn : n = acc.failedText + 1) :
    Gains acc { acc with failedText := n } t.count t.series := by
  subst hn
  refine ⟨rfl, fun c => ?_, fun k => ?_⟩
  · cases c <;> simp [SessionAggregateAccumulator.count, LabTextAttemptEvidence.count, hs]
  · cases k
    case media m => cases m <;> simp [SessionAggregateAccumulator.series, LabTextAttemptEvidence.series]
    all_goals simp [SessionAggregateAccumulator.series, LabTextAttemptEvidence.series, hs]

-- Only the counter that an attempt adds to has to be looked at.
theorem Gains.counted (h : Gains acc acc' count series) (c₀ : EvidenceCounter) (hl : acc'.count c₀ ≤ u32Max)
    (hz : ∀ c ≠ c₀, count c = 0) (hc : acc.Counted) : acc'.Counted := by
  intro c
  by_cases he : c = c₀
  case pos => exact he ▸ hl
  case neg => simpa [h.count c, hz c he] using hc c

theorem consumeTextAttempt_consumes (h : acc.consumeTextAttempt t = .ok acc') :
    t.Admissible ∧ Consumes acc acc' t.count t.series t.usages := by
  have ha := (consumeTextAttempt_eq_ok h).left
  refine ⟨ha, ?_⟩
  cases ha
  case failed hs hc =>
    rw [consumeTextAttempt_failed hs hc] at h
    obtain ⟨n, hn, h⟩ := Except.bind_eq_ok h
    obtain ⟨hl, hn⟩ := checkedAddU32_eq_ok_iff.mp hn
    cases h
    have hg := failed_gains hs hn
    refine ⟨hg, hg.counted .failedText (hn ▸ hl) fun c hne => ?_, fun us₀ hu => ?_⟩
    · cases c <;> simp_all [LabTextAttemptEvidence.count]
    · rw [LabTextAttemptEvidence.usages_failed hs, List.append_nil]
      exact hu.of_eq rfl rfl rfl
  case completed c hs hc ht ho hf hm =>
    rw [consumeTextAttempt_completed hs hc ht ho hf hm] at h
    obtain ⟨n, hn, h⟩ := Except.bind_eq_ok h
    obtain ⟨hl, hn⟩ := checkedAddU32_eq_ok_iff.mp hn
    have hg := (withText_gains hs hc hn).trans (charge_gains h)
    simp only [Nat.add_zero, List.append_nil] at hg
    refine ⟨hg, hg.counted .completedText ?_ fun c hne => ?_, fun us₀ hu => ?_⟩
    · have hk := (charge_gains h).count .completedText
      simp only [SessionAggregateAccumulator.count, withText] at hk ⊢
      omega
    · cases c <;> simp_all [LabTextAttemptEvidence.count]
    · have hw : (acc.withText n c.first).Costs us₀ := hu.of_eq rfl rfl rfl
      rw [LabTextAttemptEvidence.usages_completed hs hc]
      exact hw.charge (List.cons_ne_nil _ _) h

theorem exists_consumeTextAttempt_ok (ha : t.Admissible) (hr : ∀ c, acc.count c + t.count c ≤ u32Max)
    (hu : acc.Costs us) (he : Affordable (us ++ t.usages)) : ∃ acc', acc.consumeTextAttempt t = .ok acc' := by
  cases ha
  case failed hs hc =>
    have hl := hr .failedText
    simp only [SessionAggregateAccumulator.count, LabTextAttemptEvidence.count, hs, if_true] at hl
    rw [consumeTextAttempt_failed hs hc, checkedAddU32_eq_ok_iff.mpr ⟨hl, rfl⟩]
    exact ⟨_, rfl⟩
  case completed c hs hc ht ho hf hm =>
    have hl := hr .completedText
    simp only [SessionAggregateAccumulator.count, LabTextAttemptEvidence.count, hs, if_true] at hl
    rw [LabTextAttemptEvidence.usages_completed hs hc] at he
    rw [consumeTextAttempt_completed hs hc ht ho hf hm, checkedAddU32_eq_ok_iff.mpr ⟨hl, rfl⟩, Except.ok_bind]
    have hw : (acc.withText (acc.completedText + 1) c.first).Costs us := hu.of_eq rfl rfl rfl
    exact hw.tallied.exists_charge_ok he

theorem consumeAttempt_failed (hs : a.status = .failed) (hc : a.Clean) :
    acc.consumeAttempt a = (do
      let failedVoice ← orOverflow (checkedAddU32 acc.failedVoice 1)
      return { acc with failedVoice }) := by
  simp only [consumeAttempt, consumeFailedAttempt, hs, hc.code, hc.turn, hc.output, hc.confirmed, hc.stt, hc.llm,
    hc.llmFirstMeaningful, hc.voiceFirstText, hc.avatar, hc.total, hc.sttUsage, hc.llmUsage]
  rfl

-- The accumulator with the values of a completed attempt.
def withVoice (acc : SessionAggregateAccumulator) (completedVoice : Nat) (v : VoiceCompletion) (first : List Nat) :
    SessionAggregateAccumulator :=
  { acc with
    completedVoice
    stt                := acc.stt ++ [v.stt]
    llm                := acc.llm ++ [v.llm]
    llmFirstMeaningful := acc.llmFirstMeaningful ++ [v.llmFirstMeaningful]
    voiceFirstText     := acc.voiceFirstText ++ first
    avatar             := acc.avatar ++ [v.avatar]
    serverTotal        := acc.serverTotal ++ [v.total] }

theorem consumeAttempt_completed (hs : a.status = .completed) (hc : a.completion = some v) (ht : v.turn ≠ 0)
    (ho : v.output ≠ 0) (hl : v.llmFirstMeaningful ≤ v.llm) (hm : v.llmFirstMeaningful ≤ v.total)
    (hf : ∀ ms ∈ a.voiceFirstTextMillis, v.llmFirstMeaningful ≤ ms ∧ ms ≤ v.total) (hn : a.failureCode = none) :
    acc.consumeAttempt a = (do
      let completedVoice ← orOverflow (checkedAddU32 acc.completedVoice 1)
      (acc.withVoice completedVoice v a.voiceFirstTextMillis.toList).charge [v.sttUsage, v.llmUsage]) := by
  have hv : a.voiceFirstTextMillis.any (fun ms => ms > v.total || ms < v.llmFirstMeaningful) = false := by
    simp only [Option.any_eq_false, Bool.or_eq_false_iff, decide_eq_false_iff_not, Nat.not_lt]
    exact fun ms h => (hf ms h).symm
  simp only [consumeAttempt, consumeCompletedAttempt, hs, hc, ht, ho, hn, Nat.not_lt.mpr hl, Nat.not_lt.mpr hm, hv,
    addUsageCosts_eq]
  rfl

structure Completion (a : LabVoiceAttemptEvidence) (v : VoiceCompletion) : Prop where
  stt                : a.sttMillis = some v.stt
  llm                : a.llmMillis = some v.llm
  llmFirstMeaningful : a.llmFirstMeaningfulMillis = some v.llmFirstMeaningful
  avatar             : a.avatarMillis = some v.avatar
  total              : a.serverTotalMillis = some v.total

theorem completion_values (hc : a.completion = some v) : Completion a v := by
  simp only [LabVoiceAttemptEvidence.completion, Option.bind_eq_bind, Option.bind_eq_some_iff] at hc
  obtain ⟨_, -, _, -, _, h₁, _, h₂, _, h₃, _, h₄, _, h₅, _, -, _, -, hc⟩ := hc
  cases hc
  exact ⟨h₁, h₂, h₃, h₄, h₅⟩

theorem withVoice_gains {n : Nat} (hs : a.status = .completed) (hc : a.completion = some v)
    (hn : n = acc.completedVoice + 1) :
    Gains acc (acc.withVoice n v a.voiceFirstTextMillis.toList) a.count a.series := by
  subst hn
  have hv := completion_values hc
  refine ⟨rfl, fun c => ?_, fun k => ?_⟩
  · cases c <;> simp [SessionAggregateAccumulator.count, LabVoiceAttemptEvidence.count, withVoice, hs]
  · cases k
    case media m => cases m <;> simp [SessionAggregateAccumulator.series, LabVoiceAttemptEvidence.series, withVoice]
    all_goals
      simp [SessionAggregateAccumulator.series, LabVoiceAttemptEvidence.series, withVoice, hs, hv.stt, hv.llm,
        hv.llmFirstMeaningful, hv.avatar, hv.total]

theorem failedVoice_gains {n : Nat} (hs : a.status = .failed) (hn : n = acc.failedVoice + 1) :
    Gains acc { acc with failedVoice := n } a.count a.series := by
  subst hn
  refine ⟨rfl, fun c => ?_, fun k => ?_⟩
  · cases c <;> simp [SessionAggregateAccumulator.count, LabVoiceAttemptEvidence.count, hs]
  · cases k
    case media m => cases m <;> simp [SessionAggregateAccumulator.series, LabVoiceAttemptEvidence.series]
    all_goals simp [SessionAggregateAccumulator.series, LabVoiceAttemptEvidence.series, hs]

theorem consumeAttempt_consumes (h : acc.consumeAttempt a = .ok acc') :
    a.Admissible ∧ Consumes acc acc' a.count a.series a.usages := by
  have ha := (consumeAttempt_eq_ok h).left
  refine ⟨ha, ?_⟩
  cases ha
  case failed hs hc =>
    rw [consumeAttempt_failed hs hc] at h
    obtain ⟨n, hn, h⟩ := Except.bind_eq_ok h
    obtain ⟨hl, hn⟩ := checkedAddU32_eq_ok_iff.mp hn
    cases h
    have hg := failedVoice_gains hs hn
    refine ⟨hg, hg.counted .failedVoice (hn ▸ hl) fun c hne => ?_, fun us₀ hu => ?_⟩
    · cases c <;> simp_all [LabVoiceAttemptEvidence.count]
    · rw [LabVoiceAttemptEvidence.usages_failed hs, List.append_nil]
      exact hu.of_eq rfl rfl rfl
  case completed v hs hc ht ho hl' hm hf hn' =>
    rw [consumeAttempt_completed hs hc ht ho hl' hm hf hn'] at h
    obtain ⟨n, hn, h⟩ := Except.bind_eq_ok h
    obtain ⟨hl, hn⟩ := checkedAddU32_eq_ok_iff.mp hn
    have hg := (withVoice_gains hs hc hn).trans (charge_gains h)
    simp only [Nat.add_zero, List.append_nil] at hg
    refine ⟨hg, hg.counted .completedVoice ?_ fun c hne => ?_, fun us₀ hu => ?_⟩
    · have hk := (charge_gains h).count .completedVoice
      simp only [SessionAggregateAccumulator.count, withVoice] at hk ⊢
      omega
    · cases c <;> simp_all [LabVoiceAttemptEvidence.count]
    · have hw : (acc.withVoice n v a.voiceFirstTextMillis.toList).Costs us₀ := hu.of_eq rfl rfl rfl
      rw [LabVoiceAttemptEvidence.usages_completed hs hc]
      exact hw.charge (List.cons_ne_nil _ _) h

theorem exists_consumeAttempt_ok (ha : a.Admissible) (hr : ∀ c, acc.count c + a.count c ≤ u32Max)
    (hu : acc.Costs us) (he : Affordable (us ++ a.usages)) : ∃ acc', acc.consumeAttempt a = .ok acc' := by
  cases ha
  case failed hs hc =>
    have hl := hr .failedVoice
    simp only [SessionAggregateAccumulator.count, LabVoiceAttemptEvidence.count, hs, if_true] at hl
    rw [consumeAttempt_failed hs hc, checkedAddU32_eq_ok_iff.mpr ⟨hl, rfl⟩]
    exact ⟨_, rfl⟩
  case completed v hs hc ht ho hl' hm hf hn' =>
    have hl := hr .completedVoice
    simp only [SessionAggregateAccumulator.count, LabVoiceAttemptEvidence.count, hs, if_true] at hl
    rw [LabVoiceAttemptEvidence.usages_completed hs hc] at he
    rw [consumeAttempt_completed hs hc ht ho hl' hm hf hn', checkedAddU32_eq_ok_iff.mpr ⟨hl, rfl⟩, Except.ok_bind]
    have hw : (acc.withVoice (acc.completedVoice + 1) v a.voiceFirstTextMillis.toList).Costs us := hu.of_eq rfl rfl rfl
    exact hw.tallied.exists_charge_ok he

end Attempts

section Loops

variable {α σ : Type} {f : SessionAggregateAccumulator × σ → α → Aggregating (SessionAggregateAccumulator × σ)}
variable (itemCount : α → EvidenceCounter → Nat) (itemSeries : α → EvidenceSeries → List Nat)
variable (itemUsages : α → List SessionUsageEvidence) {xs : List α} {z : σ} {r : SessionAggregateAccumulator × σ}

-- A loop adds what its items add one after the other.
theorem loop_consumes
    (hf : ∀ {s x s'}, f s x = .ok s' → Consumes s.1 s'.1 (itemCount x) (itemSeries x) (itemUsages x))
    (h : xs.foldlM f (acc, z) = .ok r) :
    Consumes acc r.1 (fun c => (xs.map (itemCount · c)).sum) (fun k => xs.flatMap (itemSeries · k))
      (xs.flatMap itemUsages) := by
  refine List.foldlM_ok_invariant (P := fun done s => Consumes acc s.1 (fun c => (done.map (itemCount · c)).sum)
    (fun k => done.flatMap (itemSeries · k)) (done.flatMap itemUsages)) ?_ .refl h
  intro done x s s' hd hx
  simpa using hd.trans (hf hx)

-- It does not stop as long as there is room for what it adds.
theorem exists_loop_ok {g : SessionAggregateAccumulator → α → Aggregating SessionAggregateAccumulator} {Q : List α → σ → Prop}
    (hf : ∀ {s x s'}, f s x = .ok s' → Consumes s.1 s'.1 (itemCount x) (itemSeries x) (itemUsages x))
    (hq : ∀ {done x} {s : SessionAggregateAccumulator × σ} {acc'}, (done ++ [x]) <+: xs → Q done s.2 → g s.1 x = .ok acc' →
      ∃ s', f s x = .ok s' ∧ Q (done ++ [x]) s'.2)
    (hg : ∀ {acc x us}, x ∈ xs → (∀ c, acc.count c + itemCount x c ≤ u32Max) → acc.Costs us →
      Affordable (us ++ itemUsages x) → ∃ acc', g acc x = .ok acc')
    (hz : Q [] z) (hr : ∀ c, acc.count c + (xs.map (itemCount · c)).sum ≤ u32Max) (hu : acc.Costs us)
    (he : Affordable (us ++ xs.flatMap itemUsages)) : ∃ r, xs.foldlM f (acc, z) = .ok r := by
  obtain ⟨r, hr, -⟩ : ∃ r, xs.foldlM f (acc, z) = .ok r ∧ Q xs r.2 ∧ Consumes acc r.1
      (fun c => (xs.map (itemCount · c)).sum) (fun k => xs.flatMap (itemSeries · k)) (xs.flatMap itemUsages) := by
    refine List.exists_foldlM_ok (P := fun done (s : SessionAggregateAccumulator × σ) => Q done s.2 ∧ Consumes acc s.1
      (fun c => (done.map (itemCount · c)).sum) (fun k => done.flatMap (itemSeries · k)) (done.flatMap itemUsages)) ?_
      ⟨hz, .refl⟩
    intro done x s hp hd
    have hc := hd.2
    have hroom : ∀ c, s.1.count c + itemCount x c ≤ u32Max := by
      intro c
      obtain ⟨rest, hx⟩ := hp
      have hc := hc.gains.count c
      have hr := hr c
      rw [← hx] at hr
      simp only [List.map_append, List.sum_append, List.map_cons, List.map_nil, List.sum_cons, List.sum_nil] at hr
      omega
    have hafford : Affordable ((us ++ done.flatMap itemUsages) ++ itemUsages x) := by
      obtain ⟨rest, hx⟩ := hp
      rw [← hx] at he
      have hafter : Affordable (((us ++ done.flatMap itemUsages) ++ itemUsages x) ++ rest.flatMap itemUsages) := by
        simpa using he
      exact hafter.of_append
    obtain ⟨acc', ha⟩ := hg (hp.subset (by simp)) hroom (hc.costs us hu) hafford
    obtain ⟨s', hs, hq⟩ := hq hp hd.1 ha
    exact ⟨s', hs, hq, by simpa using hc.trans (hf hs)⟩
  exact ⟨r, hr⟩

end Loops

section Snapshot

variable {snapshot : LabSessionEvidenceSnapshot} {texts : List LabTextAttemptEvidence}
  {voices : List LabVoiceAttemptEvidence} {events : List LabMediaEvidence} {status : RequestStatus} {audio : Finset Nat}

theorem consumeNextText_consumes {s s' : SessionAggregateAccumulator × Finset Nat} {t : LabTextAttemptEvidence}
    (h : consumeNextText s t = .ok s') : Consumes s.1 s'.1 t.count t.series t.usages := by
  simp only [consumeNextText] at h
  split at h
  case isTrue => cases h
  case isFalse =>
    obtain ⟨acc', hc, h⟩ := Except.bind_eq_ok h
    cases h
    exact (consumeTextAttempt_consumes hc).right

theorem consumeNextAttempt_consumes {s s' : SessionAggregateAccumulator × RequestStatus} {a : LabVoiceAttemptEvidence}
    (h : consumeNextAttempt s a = .ok s') : Consumes s.1 s'.1 a.count a.series a.usages := by
  simp only [consumeNextAttempt] at h
  split at h
  case isTrue => cases h
  case isFalse =>
    obtain ⟨acc', hc, h⟩ := Except.bind_eq_ok h
    cases h
    exact (consumeAttempt_consumes hc).right

theorem collectMedia_consumes (e : LabMediaEvidence) :
    Consumes acc (acc.collectMedia e) (fun _ => 0) e.series [] := by
  obtain ⟨request, kind, ms⟩ := e
  have hg : Gains acc (acc.collectMedia ⟨request, kind, ms⟩) (fun _ => 0) (LabMediaEvidence.series ⟨request, kind, ms⟩) := by
    refine ⟨?_, fun c => ?_, fun k => ?_⟩
    · cases kind <;> rfl
    · cases kind <;> cases c <;> rfl
    · cases k
      case media m => cases m <;> cases kind <;> first | rfl | exact (List.append_nil _).symm
      all_goals cases kind <;> exact (List.append_nil _).symm
  refine ⟨hg, fun hc c => ?_, fun us₀ hu => ?_⟩
  · rw [hg.count c]
    exact hc c
  · rw [List.append_nil]
    cases kind <;> exact hu.of_eq rfl rfl rfl

theorem collectNextMedia_consumes {s s' : SessionAggregateAccumulator × Finset (Option Nat × LabMediaEvidenceKind)}
    {e : LabMediaEvidence} (h : collectNextMedia status audio s e = .ok s') :
    Consumes s.1 s'.1 (fun _ => 0) e.series [] := by
  have hs : s'.1 = s.1.collectMedia e := by
    simp only [collectNextMedia] at h
    split at h
    case isTrue => cases h
    split at h
    case isTrue => cases h
    split at h
    case isTrue => cases h
    split at h
    case isTrue => cases h
    split at h
    case isTrue => cases h; rfl
    split at h
    case isTrue  => cases h
    case isFalse => cases h; rfl
  exact hs ▸ collectMedia_consumes e

theorem exists_texts_ok (hk : Keyed (·.requestSequence) texts) (ha : ∀ t ∈ texts, t.Admissible)
    (hr : ∀ c, acc.count c + (texts.map (·.count c)).sum ≤ u32Max) (hu : acc.Costs us)
    (he : Affordable (us ++ texts.flatMap (·.usages))) : ∃ r, texts.foldlM consumeNextText (acc, ∅) = .ok r := by
  refine exists_loop_ok LabTextAttemptEvidence.count LabTextAttemptEvidence.series LabTextAttemptEvidence.usages
    (g := consumeTextAttempt) (Q := fun done seen => seen = (done.map (·.requestSequence)).toFinset)
    consumeNextText_consumes ?_ (fun hx hc hu he => exists_consumeTextAttempt_ok (ha _ hx) hc hu he) rfl hr hu he
  rintro done t ⟨acc₁, seen⟩ acc₂ hp rfl hc
  obtain ⟨-, hz, hx⟩ := keyed_snoc.mp (hk.of_prefix hp)
  refine ⟨(acc₂, insert t.requestSequence (done.map (·.requestSequence)).toFinset), ?_, by simp⟩
  simp only [consumeNextText, List.mem_toFinset, hz, hx, or_self, if_false, hc]
  rfl

theorem exists_voices_ok (hk : Keyed (·.requestSequence) voices) (ha : ∀ a ∈ voices, a.Admissible)
    (hr : ∀ c, acc.count c + (voices.map (·.count c)).sum ≤ u32Max) (hu : acc.Costs us)
    (he : Affordable (us ++ voices.flatMap (·.usages))) : ∃ r, voices.foldlM consumeNextAttempt (acc, ∅) = .ok r := by
  refine exists_loop_ok LabVoiceAttemptEvidence.count LabVoiceAttemptEvidence.series LabVoiceAttemptEvidence.usages
    (g := consumeAttempt) (Q := fun done status => Statuses status done)
    consumeNextAttempt_consumes ?_ (fun hx hc hu he => exists_consumeAttempt_ok (ha _ hx) hc hu he) .nil hr hu he
  rintro done a ⟨acc₁, status⟩ acc₂ hp hs hc
  obtain ⟨-, hz, hx⟩ := keyed_snoc.mp (hk.of_prefix hp)
  have hx := hs.mem_iff.not.mpr hx
  refine ⟨(acc₂, status.insert a.requestSequence a.status), ?_, hs.snoc_of_notMem hx⟩
  simp only [consumeNextAttempt, hz, hx, or_self, if_false, hc]
  rfl

theorem exists_within (acc : SessionAggregateAccumulator) : ∃ n, acc.Within n :=
  ⟨acc.counters.sum, List.single_le_sum fun _ _ => Nat.zero_le _⟩

theorem collectNextSample_offsets {samples : List LabAvSyncEvidence} {playback : Finset Nat} {s₀ s : AvSyncSamples}
    (h : samples.foldlM (collectNextSample status audio playback) s₀ = .ok s) :
    s.offsets = s₀.offsets ++ (samples.filter (·.requestSequence ∈ playback)).map (·.absoluteOffsetMillis) := by
  refine List.foldlM_ok_invariant (P := fun done (s : AvSyncSamples) => s.offsets = s₀.offsets ++
    (done.filter (·.requestSequence ∈ playback)).map (·.absoluteOffsetMillis)) ?_ (by simp) h
  intro done x s s' hd hx
  simp only [collectNextSample] at hx
  split at hx
  case isTrue => cases hx
  split at hx
  case isTrue => cases hx
  split at hx
  case isTrue => cases hx
  case isFalse =>
    cases hx
    simp only [List.filter_append, List.filter_cons, List.filter_nil, List.map_append]
    by_cases hp : x.requestSequence ∈ playback <;> simp [hp, hd]

theorem countSession_eq_ok {proven : Bool} {n m : Nat} (h : countSession proven n = .ok m) :
    m = n + (if proven then 1 else 0) ∧ (n ≤ u32Max → m ≤ u32Max) := by
  cases proven
  case false =>
    cases h
    exact ⟨rfl, id⟩
  case true =>
    obtain ⟨hl, rfl⟩ := checkedAddU32_eq_ok_iff.mp h
    exact ⟨rfl, fun _ => hl⟩

theorem exists_countSession {proven : Bool} {n : Nat} (h : n + (if proven then 1 else 0) ≤ u32Max) :
    ∃ m, countSession proven n = .ok m := by
  cases proven
  case false => exact ⟨n, rfl⟩
  case true  => exact ⟨n + 1, checkedAddU32_eq_ok_iff.mpr ⟨h, rfl⟩⟩

-- What the two flags of a snapshot have to say.
structure Flagged (snapshot : LabSessionEvidenceSnapshot) : Prop where
  playback : snapshot.canonicalPlaybackProven = snapshot.derivedPlayback
  avSync   : snapshot.avSyncProven = snapshot.derivedAvSync

-- The last steps of a snapshot.
theorem counted_consumes {playbackSessions avSyncSessions : Nat} {avSync : List Nat}
    (hp : countSession snapshot.derivedPlayback acc.playbackSessions = .ok playbackSessions)
    (ha : countSession snapshot.derivedAvSync acc.avSyncSessions = .ok avSyncSessions)
    (ho : avSync = acc.avSync ++ snapshot.offsets .avSync) :
    Consumes acc { acc with playbackSessions, avSync, avSyncSessions } snapshot.proven snapshot.offsets [] := by
  obtain ⟨rfl, hp⟩ := countSession_eq_ok hp
  obtain ⟨rfl, ha⟩ := countSession_eq_ok ha
  subst ho
  refine ⟨⟨rfl, fun c => ?_, fun k => ?_⟩, fun hc c => ?_, fun us₀ hu => ?_⟩
  · cases c <;> rfl
  · cases k
    case avSync  => rfl
    case media m => cases m <;> exact (List.append_nil _).symm
    all_goals exact (List.append_nil _).symm
  · cases c
    case playbackSessions => exact hp (hc .playbackSessions)
    case avSyncSessions   => exact ha (hc .avSyncSessions)
    case completedText    => exact hc .completedText
    case failedText       => exact hc .failedText
    case completedVoice   => exact hc .completedVoice
    case failedVoice      => exact hc .failedVoice
  · rw [List.append_nil]
    exact hu.of_eq rfl rfl rfl

theorem consumeSnapshot_consumes (h : acc.consumeSnapshot snapshot = .ok acc') :
    snapshot.Admissible ∧ Flagged snapshot ∧ acc.sessionDurationMillis + snapshot.sessionDurationMillis ≤ u64Max ∧
    Consumes { acc with sessionDurationMillis := acc.sessionDurationMillis + snapshot.sessionDurationMillis } acc'
      snapshot.count snapshot.series snapshot.usages := by
  obtain ⟨d, hadd, h⟩ := Except.bind_eq_ok h
  obtain ⟨hd, rfl⟩ := checkedAdd_eq_some_iff.mp (orOverflow_eq_ok_iff.mp hadd)
  obtain ⟨⟨acc₁, sequences⟩, ht, h⟩ := Except.bind_eq_ok h
  obtain ⟨⟨acc₂, status⟩, hv, h⟩ := Except.bind_eq_ok h
  obtain ⟨acc₃, hm, h⟩ := Except.bind_eq_ok h
  obtain ⟨playback, hp, h⟩ := Except.bind_eq_ok h
  obtain ⟨_, hf, h⟩ := Except.bind_eq_ok h
  obtain ⟨k, hk, h⟩ := Except.bind_eq_ok h
  obtain ⟨⟨requests, avSync⟩, ha, h⟩ := Except.bind_eq_ok h
  obtain ⟨_, hg, h⟩ := Except.bind_eq_ok h
  obtain ⟨_, hi, h⟩ := Except.bind_eq_ok h
  obtain ⟨j, hj, h⟩ := Except.bind_eq_ok h
  cases h
  have hpass : snapshot.Passes
      { acc with sessionDurationMillis := acc.sessionDurationMillis + snapshot.sessionDurationMillis } playback requests :=
    ⟨acc₁, sequences, acc₂, status, acc₃, avSync, ht, hv, hm, hp, ha, hg⟩
  obtain ⟨hadm, rfl, rfl⟩ := hpass.admissible
  refine ⟨hadm, ⟨requireFlag_eq_ok_iff.mp hf, requireFlag_eq_ok_iff.mp hi⟩, hd, ?_⟩
  have htexts := loop_consumes LabTextAttemptEvidence.count LabTextAttemptEvidence.series LabTextAttemptEvidence.usages
    consumeNextText_consumes ht
  have hvoices := loop_consumes LabVoiceAttemptEvidence.count LabVoiceAttemptEvidence.series
    LabVoiceAttemptEvidence.usages consumeNextAttempt_consumes hv
  obtain ⟨⟨acc₃', keys⟩, hl, hm⟩ := Except.bind_eq_ok hm
  cases hm
  have hmedia := loop_consumes (fun _ _ => 0) LabMediaEvidence.series (fun _ => []) collectNextMedia_consumes hl
  obtain ⟨samples, hs, ha⟩ := Except.bind_eq_ok ha
  obtain ⟨-, rfl⟩ := Prod.mk.inj (Except.ok.inj ha)
  have hcount := counted_consumes hk hj (collectNextSample_offsets hs)
  have hall := ((htexts.trans hvoices).trans hmedia).trans hcount
  refine ⟨⟨hall.gains.duration, fun c => ?_, hall.gains.series⟩, hall.counted, fun us₀ hu => ?_⟩
  · simpa [LabSessionEvidenceSnapshot.count] using hall.gains.count c
  · have hnil : (snapshot.mediaEvents.flatMap fun _ => ([] : List SessionUsageEvidence)) = [] :=
      List.flatMap_eq_nil_iff.mpr fun _ _ => rfl
    simpa [LabSessionEvidenceSnapshot.usages, hnil] using hall.costs us₀ hu

theorem exists_consumeSnapshot_ok (ha : snapshot.Admissible) (hf : Flagged snapshot)
    (hd : acc.sessionDurationMillis + snapshot.sessionDurationMillis ≤ u64Max)
    (hr : ∀ c, acc.count c + snapshot.count c ≤ u32Max) (hu : acc.Costs us) (he : Affordable (us ++ snapshot.usages)) :
    ∃ acc', acc.consumeSnapshot snapshot = .ok acc' := by
  let acc₀ := { acc with sessionDurationMillis := acc.sessionDurationMillis + snapshot.sessionDurationMillis }
  have hd : orOverflow (checkedAdd acc.sessionDurationMillis snapshot.sessionDurationMillis) =
      .ok acc₀.sessionDurationMillis := orOverflow_eq_ok_iff.mpr (checkedAdd_eq_some_iff.mpr ⟨hd, rfl⟩)
  have hu₀ : acc₀.Costs us := hu.of_eq rfl rfl rfl
  have hr₀ : ∀ c, acc₀.count c + (snapshot.textAttempts.map (·.count c)).sum +
      (snapshot.voiceAttempts.map (·.count c)).sum + snapshot.proven c ≤ u32Max := by
    intro c
    have hc : acc₀.count c = acc.count c := by cases c <;> rfl
    simpa [hc, LabSessionEvidenceSnapshot.count, Nat.add_assoc] using hr c
  rw [LabSessionEvidenceSnapshot.usages, ← List.append_assoc] at he
  obtain ⟨⟨acc₁, sequences⟩, hr₁⟩ := exists_texts_ok ha.textKeys ha.texts (fun c => by have := hr₀ c; omega) hu₀
    he.of_append
  have htexts := loop_consumes LabTextAttemptEvidence.count LabTextAttemptEvidence.series LabTextAttemptEvidence.usages
    consumeNextText_consumes hr₁
  have hroom₁ : ∀ c, acc₁.count c + (snapshot.voiceAttempts.map (·.count c)).sum ≤ u32Max := by
    intro c
    have hc : acc₁.count c = acc₀.count c + (snapshot.textAttempts.map (·.count c)).sum := htexts.gains.count c
    have := hr₀ c
    omega
  obtain ⟨⟨acc₂, status⟩, hr₂⟩ := exists_voices_ok ha.voiceKeys ha.voices hroom₁ (htexts.costs us hu₀) he
  have hvoices := htexts.trans (loop_consumes LabVoiceAttemptEvidence.count LabVoiceAttemptEvidence.series
    LabVoiceAttemptEvidence.usages consumeNextAttempt_consumes hr₂)
  obtain ⟨-, -, -, hs⟩ := consumeNextAttempt_loop_eq_ok hr₂
  obtain ⟨n, hw⟩ := exists_within acc₂
  obtain ⟨acc₃, hr₃, -⟩ := LabSessionEvidenceSnapshot.exists_validateAndCollectMedia hs ha hw
  obtain ⟨⟨acc₃', keys⟩, hl, hm⟩ := Except.bind_eq_ok hr₃
  cases hm
  have hmedia := hvoices.trans (loop_consumes (fun _ _ => 0) LabMediaEvidence.series (fun _ => [])
    collectNextMedia_consumes hl)
  have hp := validatePlaybackAccounting_eq_ok_iff.mpr ⟨ha.accounted, rfl⟩
  obtain ⟨avSync, hr₄, -⟩ := LabSessionEvidenceSnapshot.exists_validateAndCollectAvSync hs ha acc₃.avSync
  have hr₅ := LabSessionEvidenceSnapshot.validateAvSyncDiagnostics_eq_ok hs ha
  have hroom₃ : ∀ c, acc₃.count c + snapshot.proven c ≤ u32Max := by
    intro c
    have hz : (snapshot.mediaEvents.map fun _ => 0).sum = 0 := by simp
    have hc : acc₃.count c = acc₀.count c + (snapshot.textAttempts.map (·.count c)).sum +
        (snapshot.voiceAttempts.map (·.count c)).sum + (snapshot.mediaEvents.map fun _ => 0).sum := by
      simpa [Nat.add_assoc] using hmedia.gains.count c
    have := hr₀ c
    omega
  obtain ⟨k, hk⟩ := exists_countSession (hroom₃ .playbackSessions)
  obtain ⟨j, hj⟩ := exists_countSession (hroom₃ .avSyncSessions)
  have hplayback : requireFlag snapshot.canonicalPlaybackProven (playbackAccounting snapshot).derivedPlayback = .ok () :=
    requireFlag_eq_ok_iff.mpr hf.playback
  have havSync : requireFlag snapshot.avSyncProven ((playbackAccounting snapshot).derivedPlayback &&
      snapshot.provenRequests = (playbackAccounting snapshot).playbackRequests) = .ok () :=
    requireFlag_eq_ok_iff.mpr hf.avSync
  have hk : countSession (playbackAccounting snapshot).derivedPlayback acc₃.playbackSessions = .ok k := hk
  have hj : countSession ((playbackAccounting snapshot).derivedPlayback &&
      snapshot.provenRequests = (playbackAccounting snapshot).playbackRequests) acc₃.avSyncSessions = .ok j := hj
  refine ⟨{ acc₃ with playbackSessions := k, avSync, avSyncSessions := j }, ?_⟩
  simp only [consumeSnapshot, hd, Except.ok_bind]
  rw [hr₁, Except.ok_bind]
  simp only
  rw [hr₂, Except.ok_bind]
  simp only
  rw [hr₃, Except.ok_bind, hp, Except.ok_bind, hplayback, Except.ok_bind, hk, Except.ok_bind, hr₄, Except.ok_bind]
  simp only
  rw [hr₅, Except.ok_bind, havSync, Except.ok_bind, hj]
  rfl

end Snapshot

end SessionAggregateAccumulator
