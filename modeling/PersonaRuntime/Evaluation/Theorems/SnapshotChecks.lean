import Mathlib.Algebra.Ring.Nat
import PersonaRuntime.Collections.Index
import PersonaRuntime.Evaluation.SessionEvidence
import PersonaRuntime.Machine.Loop
import PersonaRuntime.Machine.Mutation

theorem orOverflow_eq_ok_iff {α : Type} {x : Option α} {a : α} : orOverflow x = .ok a ↔ x = some a := by
  cases x <;> simp [orOverflow]

theorem checkedAddU32_of_lt {n : Nat} (h : n < u32Max) : checkedAddU32 n 1 = some (n + 1) :=
  if_pos h

-- Costs are added up to the first one that is not known.
def Fits (costs : List (Option Nat)) : Prop :=
  ((costs.takeWhile Option.isSome).map (Option.getD · 0)).sum ≤ u64Max

instance {costs : List (Option Nat)} : Decidable (Fits costs) :=
  inferInstanceAs (Decidable (_ ≤ _))

theorem addCost_some {n m : Nat} {total : Option Nat} :
    addCost (some n) (some m) = .ok total ↔ n + m ≤ u64Max ∧ total = some (n + m) := by
  simp only [addCost, orOverflow_eq_ok_iff, Option.map_eq_some_iff, checkedAdd_eq_some_iff]
  constructor
  case mp =>
    rintro ⟨k, ⟨hk, rfl⟩, rfl⟩
    exact ⟨hk, rfl⟩
  case mpr =>
    rintro ⟨hk, rfl⟩
    exact ⟨_, ⟨hk, rfl⟩, rfl⟩

theorem foldlM_addCost_none (costs : List (Option Nat)) : costs.foldlM addCost none = .ok none := by
  induction costs
  case nil            => rfl
  case cons c cs hi   => exact List.foldlM_ok_cons.mpr ⟨none, rfl, hi⟩

theorem exists_foldlM_addCost {costs : List (Option Nat)} {n : Nat} (hn : n ≤ u64Max) :
    (∃ total, costs.foldlM addCost (some n) = .ok total) ↔
      n + ((costs.takeWhile Option.isSome).map (Option.getD · 0)).sum ≤ u64Max := by
  induction costs generalizing n
  case nil => simpa [pure, Except.pure] using hn
  case cons c cs hi =>
    cases c
    case none =>
      simp only [List.takeWhile_cons, Option.isSome_none, Bool.false_eq_true, if_false]
      refine ⟨fun _ => by simpa using hn, fun _ => ⟨none, ?_⟩⟩
      exact List.foldlM_ok_cons.mpr ⟨none, rfl, foldlM_addCost_none cs⟩
    case some m =>
      simp only [List.takeWhile_cons, Option.isSome_some, if_true, List.map_cons, Option.getD_some,
        List.sum_cons, ← Nat.add_assoc]
      constructor
      case mp =>
        rintro ⟨total, h⟩
        obtain ⟨_, ha, h⟩ := List.foldlM_ok_cons.mp h
        obtain ⟨hm, rfl⟩ := addCost_some.mp ha
        exact (hi hm).mp ⟨total, h⟩
      case mpr =>
        intro h
        have hm : n + m ≤ u64Max := Nat.le_trans (Nat.le_add_right _ _) h
        obtain ⟨total, h⟩ := (hi hm).mpr h
        exact ⟨total, List.foldlM_ok_cons.mpr ⟨_, addCost_some.mpr ⟨hm, rfl⟩, h⟩⟩

theorem fits_iff {costs : List (Option Nat)} : Fits costs ↔ ∃ total, costs.foldlM addCost (some 0) = .ok total := by
  rw [exists_foldlM_addCost (Nat.zero_le _), Fits, Nat.zero_add]

theorem Fits.of_append {costs costs' : List (Option Nat)} (h : Fits (costs ++ costs')) : Fits costs := by
  obtain ⟨_, h⟩ := fits_iff.mp h
  rw [List.foldlM_append] at h
  obtain ⟨total, h, -⟩ := Except.bind_eq_ok h
  exact fits_iff.mpr ⟨total, h⟩

-- The costs of these usages can be added up.
structure Affordable (us : List SessionUsageEvidence) : Prop where
  estimated : Fits (us.map (·.estimatedCostMicrounits))
  charged   : Fits (us.map (·.providerChargeMicrounits))

instance {us : List SessionUsageEvidence} : Decidable (Affordable us) :=
  decidable_of_iff (Fits (us.map (·.estimatedCostMicrounits)) ∧ Fits (us.map (·.providerChargeMicrounits)))
    ⟨fun h => ⟨h.1, h.2⟩, fun h => ⟨h.1, h.2⟩⟩

theorem Affordable.of_append {us us' : List SessionUsageEvidence} (h : Affordable (us ++ us')) : Affordable us where
  estimated := Fits.of_append (by simpa using h.estimated)
  charged   := Fits.of_append (by simpa using h.charged)

namespace SessionAggregateAccumulator

variable {acc acc' : SessionAggregateAccumulator} {us us' : List SessionUsageEvidence} {n : Nat}

-- The costs before the first attempt are zero.
def estimated (acc : SessionAggregateAccumulator) : Option Nat :=
  if acc.costInitialized then acc.estimatedCost else some 0

def charged (acc : SessionAggregateAccumulator) : Option Nat :=
  if acc.costInitialized then acc.providerCharge else some 0

-- The costs of the attempts so far.
structure Tallied (acc : SessionAggregateAccumulator) (us : List SessionUsageEvidence) : Prop where
  estimated : (us.map (·.estimatedCostMicrounits)).foldlM addCost (some 0) = .ok acc.estimated
  charged   : (us.map (·.providerChargeMicrounits)).foldlM addCost (some 0) = .ok acc.charged

def charge (acc : SessionAggregateAccumulator) (us : List SessionUsageEvidence) :
    Aggregating SessionAggregateAccumulator := do
  let estimatedCost ← (us.map (·.estimatedCostMicrounits)).foldlM addCost acc.estimated
  let providerCharge ← (us.map (·.providerChargeMicrounits)).foldlM addCost acc.charged
  return { acc with estimatedCost, providerCharge, costInitialized := true }

theorem addSingleUsageCost_eq (usage : SessionUsageEvidence) : acc.addSingleUsageCost usage = acc.charge [usage] := by
  simp only [addSingleUsageCost, charge, initializeCosts, estimated, charged, List.map_cons, List.map_nil,
    List.foldlM_cons, List.foldlM_nil]
  cases h : acc.costInitialized <;> simp [h]

theorem addUsageCosts_eq (stt llm : SessionUsageEvidence) : acc.addUsageCosts stt llm = acc.charge [stt, llm] := by
  simp only [addUsageCosts, charge, initializeCosts, estimated, charged, List.map_cons, List.map_nil,
    List.foldlM_cons, List.foldlM_nil]
  cases h : acc.costInitialized <;> simp [h]

-- What must not overflow.
def counters (acc : SessionAggregateAccumulator) : List Nat :=
  [acc.completedText, acc.failedText, acc.completedVoice, acc.failedVoice, acc.playbackSessions,
    acc.avSyncSessions, acc.textFirstMeaningful.length, acc.avSync.length, acc.stt.length, acc.llm.length,
    acc.llmFirstMeaningful.length, acc.voiceFirstText.length, acc.avatar.length, acc.serverTotal.length,
    acc.audio.length, acc.interruption.length, acc.video.length, acc.backendStart.length,
    acc.transportConnectStarted.length, acc.transportConnected.length, acc.remoteVideoTrackReceived.length,
    acc.remoteVideoAttached.length, acc.endToEndVideo.length, acc.reconnect.length]

def Within (acc : SessionAggregateAccumulator) (n : Nat) : Prop :=
  ∀ m ∈ acc.counters, m ≤ n

theorem Within.step (hw : acc.Within n)
    (h : List.Forall₂ (fun m m' => m' ≤ m + 1) acc.counters acc'.counters) : acc'.Within (n + 1) := by
  simp only [Within] at hw ⊢
  generalize acc.counters = l at hw h
  generalize acc'.counters = l' at h
  induction h
  case nil => simp
  case cons hm _ hi =>
    simp only [List.forall_mem_cons] at hw ⊢
    exact ⟨Nat.le_trans hm (Nat.succ_le_succ hw.left), hi hw.right⟩

theorem Within.checkedAdd (hw : acc.Within n) (hn : n < u32Max) {m : Nat} (hm : m ∈ acc.counters) :
    orOverflow (checkedAddU32 m 1) = .ok (m + 1) :=
  orOverflow_eq_ok_iff.mpr (checkedAddU32_of_lt (Nat.lt_of_le_of_lt (hw m hm) hn))

theorem charge_eq_ok (h : acc.charge us = .ok acc') :
    (us.map (·.estimatedCostMicrounits)).foldlM addCost acc.estimated = .ok acc'.estimated ∧
    (us.map (·.providerChargeMicrounits)).foldlM addCost acc.charged = .ok acc'.charged := by
  obtain ⟨e, he, h⟩ := Except.bind_eq_ok h
  obtain ⟨c, hc, h⟩ := Except.bind_eq_ok h
  cases h
  exact ⟨he, hc⟩

theorem Tallied.of_eq (ht : acc.Tallied us) (he : acc'.estimated = acc.estimated)
    (hc : acc'.charged = acc.charged) : acc'.Tallied us :=
  ⟨he ▸ ht.estimated, hc ▸ ht.charged⟩

theorem Tallied.charge (ht : acc.Tallied us) (h : acc.charge us' = .ok acc') : acc'.Tallied (us ++ us') where
  estimated := by
    rw [List.map_append, List.foldlM_append, ht.estimated]
    exact (charge_eq_ok h).left
  charged := by
    rw [List.map_append, List.foldlM_append, ht.charged]
    exact (charge_eq_ok h).right

theorem Tallied.affordable (ht : acc.Tallied us) : Affordable us :=
  ⟨fits_iff.mpr ⟨_, ht.estimated⟩, fits_iff.mpr ⟨_, ht.charged⟩⟩

theorem Tallied.exists_charge (ht : acc.Tallied us) (hw : acc.Within n) (ha : Affordable (us ++ us')) :
    ∃ acc', acc.charge us' = .ok acc' ∧ acc'.Within n ∧ acc'.Tallied (us ++ us') := by
  obtain ⟨e, he⟩ := fits_iff.mp ha.estimated
  obtain ⟨c, hc⟩ := fits_iff.mp ha.charged
  rw [List.map_append, List.foldlM_append, ht.estimated] at he
  rw [List.map_append, List.foldlM_append, ht.charged] at hc
  have h : acc.charge us' = .ok { acc with estimatedCost := e, providerCharge := c, costInitialized := true } := by
    rw [Except.ok_bind] at he hc
    simp only [SessionAggregateAccumulator.charge, he, hc]
    rfl
  exact ⟨_, h, hw, ht.charge h⟩

end SessionAggregateAccumulator

namespace LabTextAttemptEvidence

-- An attempt that failed has nothing but its code.
structure Clean (a : LabTextAttemptEvidence) : Prop where
  code   : a.failureCode.all isBlank = false
  turn   : a.canonicalTurnSequence = none
  output : a.canonicalOutputSequence = none
  first  : a.firstMeaningfulResponseMillis = none
  total  : a.serverTotalMillis = none
  usage  : a.llmUsage = none

-- The attempts that are aggregated.
inductive Admissible (a : LabTextAttemptEvidence) : Prop
  | failed (status : a.status = .failed) (clean : a.Clean)
  | completed {c : TextCompletion} (status : a.status = .completed) (completion : a.completion = some c)
      (turn : c.turn ≠ 0) (output : c.output ≠ 0) (first : c.first ≤ c.total) (code : a.failureCode = none)

def usages (a : LabTextAttemptEvidence) : List SessionUsageEvidence :=
  match a.status with
  | .completed => a.llmUsage.toList
  | _          => []

variable {a : LabTextAttemptEvidence} {c : TextCompletion}

theorem usages_completed (hs : a.status = .completed) (hc : a.completion = some c) :
    a.usages = [c.llmUsage] := by
  simp only [completion, Option.bind_eq_bind, Option.bind_eq_some_iff] at hc
  obtain ⟨_, -, _, -, _, -, _, -, u, hu, hc⟩ := hc
  cases hc
  simp [usages, hs, hu]

theorem usages_failed (hs : a.status = .failed) : a.usages = [] := by
  simp [usages, hs]

end LabTextAttemptEvidence

namespace LabVoiceAttemptEvidence

structure Clean (a : LabVoiceAttemptEvidence) : Prop where
  code               : a.failureCode.all isBlank = false
  turn               : a.canonicalTurnSequence = none
  output             : a.canonicalOutputSequence = none
  confirmed          : a.canonicalPlaybackConfirmed = false
  stt                : a.sttMillis = none
  llm                : a.llmMillis = none
  llmFirstMeaningful : a.llmFirstMeaningfulMillis = none
  voiceFirstText     : a.voiceFirstTextMillis = none
  avatar             : a.avatarMillis = none
  total              : a.serverTotalMillis = none
  sttUsage           : a.sttUsage = none
  llmUsage           : a.llmUsage = none

inductive Admissible (a : LabVoiceAttemptEvidence) : Prop
  | failed (status : a.status = .failed) (clean : a.Clean)
  | completed {c : VoiceCompletion} (status : a.status = .completed) (completion : a.completion = some c)
      (turn : c.turn ≠ 0) (output : c.output ≠ 0) (llm : c.llmFirstMeaningful ≤ c.llm)
      (total : c.llmFirstMeaningful ≤ c.total)
      (first : ∀ ms ∈ a.voiceFirstTextMillis, c.llmFirstMeaningful ≤ ms ∧ ms ≤ c.total)
      (code : a.failureCode = none)

def usages (a : LabVoiceAttemptEvidence) : List SessionUsageEvidence :=
  match a.status with
  | .completed => a.sttUsage.toList ++ a.llmUsage.toList
  | _          => []

variable {a : LabVoiceAttemptEvidence} {c : VoiceCompletion}

theorem usages_completed (hs : a.status = .completed) (hc : a.completion = some c) :
    a.usages = [c.sttUsage, c.llmUsage] := by
  simp only [completion, Option.bind_eq_bind, Option.bind_eq_some_iff] at hc
  obtain ⟨_, -, _, -, _, -, _, -, _, -, _, -, _, -, u, hu, v, hv, hc⟩ := hc
  cases hc
  simp [usages, hs, hu, hv]

theorem usages_failed (hs : a.status = .failed) : a.usages = [] := by
  simp [usages, hs]

end LabVoiceAttemptEvidence

namespace SessionAggregateAccumulator

variable {acc acc' : SessionAggregateAccumulator} {us : List SessionUsageEvidence} {n : Nat}
  {t : LabTextAttemptEvidence} {a : LabVoiceAttemptEvidence}

theorem consumeTextAttempt_eq_ok (h : acc.consumeTextAttempt t = .ok acc') :
    t.Admissible ∧ ∀ us, acc.Tallied us → acc'.Tallied (us ++ t.usages) := by
  simp only [consumeTextAttempt] at h
  split at h
  case h_1 => cases h
  case h_2 hs =>
    simp only [consumeFailedText] at h
    split at h
    case isTrue => cases h
    case isFalse hc =>
      simp only [not_or, Bool.not_eq_true, Option.isSome_eq_false_iff, Option.isNone_iff_eq_none] at hc
      obtain ⟨hb, ht, ho, hf, hm, hu⟩ := hc
      obtain ⟨_, -, h⟩ := Except.bind_eq_ok h
      cases h
      refine ⟨.failed hs ⟨hb, ht, ho, hf, hm, hu⟩, fun _ hu => ?_⟩
      rw [LabTextAttemptEvidence.usages_failed hs, List.append_nil]
      exact hu.of_eq rfl rfl
  case h_3 hs =>
    simp only [consumeCompletedText] at h
    split at h
    case h_1 => cases h
    case h_2 c hc =>
      split at h
      case isTrue => cases h
      case isFalse hv =>
        simp only [not_or, Bool.not_eq_true, Option.isSome_eq_false_iff, Option.isNone_iff_eq_none,
          Nat.not_lt, gt_iff_lt] at hv
        obtain ⟨ht, ho, hf, hn⟩ := hv
        obtain ⟨_, -, h⟩ := Except.bind_eq_ok h
        rw [addSingleUsageCost_eq] at h
        refine ⟨.completed hs hc ht ho hf hn, fun _ hu => ?_⟩
        rw [LabTextAttemptEvidence.usages_completed hs hc]
        refine Tallied.charge ?_ h
        exact hu.of_eq rfl rfl

theorem consumeAttempt_eq_ok (h : acc.consumeAttempt a = .ok acc') :
    a.Admissible ∧ ∀ us, acc.Tallied us → acc'.Tallied (us ++ a.usages) := by
  simp only [consumeAttempt] at h
  split at h
  case h_1 => cases h
  case h_2 hs =>
    simp only [consumeFailedAttempt] at h
    split at h
    case isTrue => cases h
    case isFalse hc =>
      simp only [not_or, Bool.not_eq_true, Option.isSome_eq_false_iff, Option.isNone_iff_eq_none] at hc
      obtain ⟨hb, ht, ho, hp, h₁, h₂, h₃, h₄, h₅, h₆, h₇, h₈⟩ := hc
      obtain ⟨_, -, h⟩ := Except.bind_eq_ok h
      cases h
      refine ⟨.failed hs ⟨hb, ht, ho, hp, h₁, h₂, h₃, h₄, h₅, h₆, h₇, h₈⟩, fun _ hu => ?_⟩
      rw [LabVoiceAttemptEvidence.usages_failed hs, List.append_nil]
      exact hu.of_eq rfl rfl
  case h_3 hs =>
    simp only [consumeCompletedAttempt] at h
    split at h
    case h_1 => cases h
    case h_2 c hc =>
      split at h
      case isTrue => cases h
      case isFalse hv =>
        simp only [not_or, Bool.not_eq_true, Option.isSome_eq_false_iff, Option.isNone_iff_eq_none,
          Nat.not_lt, gt_iff_lt, Option.any_eq_false, Bool.or_eq_false_iff, decide_eq_false_iff_not] at hv
        obtain ⟨ht, ho, hl, hm, hf, hn⟩ := hv
        obtain ⟨_, -, h⟩ := Except.bind_eq_ok h
        rw [addUsageCosts_eq] at h
        refine ⟨.completed hs hc ht ho hl hm (fun ms h => (hf ms h).symm) hn, fun _ hu => ?_⟩
        rw [LabVoiceAttemptEvidence.usages_completed hs hc]
        refine Tallied.charge ?_ h
        exact hu.of_eq rfl rfl

theorem exists_consumeTextAttempt (ha : t.Admissible) (hw : acc.Within n) (hn : n < u32Max)
    (ht : acc.Tallied us) (he : Affordable (us ++ t.usages)) :
    ∃ acc', acc.consumeTextAttempt t = .ok acc' ∧ acc'.Within (n + 1) ∧ acc'.Tallied (us ++ t.usages) := by
  cases ha
  case failed hs hc =>
    have hf : acc.consumeTextAttempt t = .ok { acc with failedText := acc.failedText + 1 } := by
      simp only [consumeTextAttempt, consumeFailedText, hs, hc.code, hc.turn, hc.output, hc.first, hc.total,
        hc.usage, hw.checkedAdd hn (m := acc.failedText) (by simp [counters])]
      rfl
    rw [LabTextAttemptEvidence.usages_failed hs, List.append_nil]
    refine ⟨_, hf, hw.step ?_, ht.of_eq rfl rfl⟩
    simp [counters]
  case completed c hs hc ht' ho hf hm =>
    rw [LabTextAttemptEvidence.usages_completed hs hc] at he ⊢
    let acc₁ : SessionAggregateAccumulator := { acc with
      completedText       := acc.completedText + 1
      textFirstMeaningful := acc.textFirstMeaningful ++ [c.first] }
    have hf : acc.consumeTextAttempt t = acc₁.charge [c.llmUsage] := by
      simp only [consumeTextAttempt, consumeCompletedText, hs, hc, ht', ho, hm, Nat.not_lt.mpr hf,
        hw.checkedAdd hn (m := acc.completedText) (by simp [counters]), addSingleUsageCost_eq]
      rfl
    rw [hf]
    have hw₁ : acc₁.Within (n + 1) := hw.step (by simp [counters, acc₁])
    have ht₁ : acc₁.Tallied us := ht.of_eq rfl rfl
    exact ht₁.exists_charge hw₁ he

theorem exists_consumeAttempt (ha : a.Admissible) (hw : acc.Within n) (hn : n < u32Max)
    (ht : acc.Tallied us) (he : Affordable (us ++ a.usages)) :
    ∃ acc', acc.consumeAttempt a = .ok acc' ∧ acc'.Within (n + 1) ∧ acc'.Tallied (us ++ a.usages) := by
  cases ha
  case failed hs hc =>
    have hf : acc.consumeAttempt a = .ok { acc with failedVoice := acc.failedVoice + 1 } := by
      simp only [consumeAttempt, consumeFailedAttempt, hs, hc.code, hc.turn, hc.output, hc.confirmed, hc.stt,
        hc.llm, hc.llmFirstMeaningful, hc.voiceFirstText, hc.avatar, hc.total, hc.sttUsage, hc.llmUsage,
        hw.checkedAdd hn (m := acc.failedVoice) (by simp [counters])]
      rfl
    rw [LabVoiceAttemptEvidence.usages_failed hs, List.append_nil]
    refine ⟨_, hf, hw.step ?_, ht.of_eq rfl rfl⟩
    simp [counters]
  case completed c hs hc ht' ho hl hm hf hn' =>
    rw [LabVoiceAttemptEvidence.usages_completed hs hc] at he ⊢
    let acc₁ : SessionAggregateAccumulator := { acc with
      completedVoice     := acc.completedVoice + 1
      stt                := acc.stt ++ [c.stt]
      llm                := acc.llm ++ [c.llm]
      llmFirstMeaningful := acc.llmFirstMeaningful ++ [c.llmFirstMeaningful]
      voiceFirstText     := acc.voiceFirstText ++ a.voiceFirstTextMillis.toList
      avatar             := acc.avatar ++ [c.avatar]
      serverTotal        := acc.serverTotal ++ [c.total] }
    have hv : a.voiceFirstTextMillis.any (fun ms => ms > c.total || ms < c.llmFirstMeaningful) = false := by
      simp only [Option.any_eq_false, Bool.or_eq_false_iff, decide_eq_false_iff_not, Nat.not_lt]
      exact fun ms h => (hf ms h).symm
    have hf : acc.consumeAttempt a = acc₁.charge [c.sttUsage, c.llmUsage] := by
      simp only [consumeAttempt, consumeCompletedAttempt, hs, hc, ht', ho, hn', Nat.not_lt.mpr hl,
        Nat.not_lt.mpr hm, hv, hw.checkedAdd hn (m := acc.completedVoice) (by simp [counters]), addUsageCosts_eq]
      rfl
    rw [hf]
    have hw₁ : acc₁.Within (n + 1) := by
      refine hw.step ?_
      cases a.voiceFirstTextMillis <;> simp [counters, acc₁]
    have ht₁ : acc₁.Tallied us := ht.of_eq rfl rfl
    exact ht₁.exists_charge hw₁ he

end SessionAggregateAccumulator

-- Evidence that is identified by the sequence of a request.
structure Keyed {α : Type} (key : α → Nat) (xs : List α) : Prop where
  nonzero : ∀ {x}, x ∈ xs → key x ≠ 0
  nodup   : (xs.map key).Nodup

theorem Keyed.nil {α : Type} {key : α → Nat} : Keyed key [] where
  nonzero := by simp
  nodup   := List.nodup_nil

theorem keyed_snoc {α : Type} {key : α → Nat} {xs : List α} {x : α} :
    Keyed key (xs ++ [x]) ↔ Keyed key xs ∧ key x ≠ 0 ∧ key x ∉ xs.map key := by
  have hn : ((xs ++ [x]).map key).Nodup ↔ (xs.map key).Nodup ∧ key x ∉ xs.map key := by
    rw [List.map_append, List.map_singleton, List.nodup_append_comm, List.singleton_append, List.nodup_cons,
      and_comm]
  constructor
  case mp =>
    intro h
    obtain ⟨hd, hx⟩ := hn.mp h.nodup
    exact ⟨⟨fun hm => h.nonzero (List.mem_append_left _ hm), hd⟩, h.nonzero (by simp), hx⟩
  case mpr =>
    rintro ⟨h, hz, hx⟩
    refine ⟨fun hm => ?_, hn.mpr ⟨h.nodup, hx⟩⟩
    obtain hm | hm := List.mem_append.mp hm
    case inl => exact h.nonzero hm
    case inr => exact List.mem_singleton.mp hm ▸ hz

theorem Keyed.of_prefix {α : Type} {key : α → Nat} {xs ys : List α} (h : Keyed key ys) (hp : xs <+: ys) :
    Keyed key xs where
  nonzero hx := h.nonzero (hp.subset hx)
  nodup      := h.nodup.sublist (hp.sublist.map key)

section Loops

variable {acc : SessionAggregateAccumulator} {us : List SessionUsageEvidence} {n : Nat}
  {texts : List LabTextAttemptEvidence} {voices : List LabVoiceAttemptEvidence}

theorem consumeNextText_loop_eq_ok {r : SessionAggregateAccumulator × Finset Nat}
    (h : texts.foldlM consumeNextText (acc, ∅) = .ok r) :
    Keyed (·.requestSequence) texts ∧ (∀ t ∈ texts, t.Admissible) ∧
    ∀ us, acc.Tallied us → r.1.Tallied (us ++ texts.flatMap (·.usages)) := by
  let P (done : List LabTextAttemptEvidence) (s : SessionAggregateAccumulator × Finset Nat) : Prop :=
    Keyed (·.requestSequence) done ∧ (∀ t ∈ done, t.Admissible) ∧
    (∀ us, acc.Tallied us → s.1.Tallied (us ++ done.flatMap (·.usages))) ∧ s.2 = (done.map (·.requestSequence)).toFinset
  have h₀ : P [] (acc, ∅) := ⟨.nil, by simp, by simp, rfl⟩
  have hl : P texts r := by
    refine List.foldlM_ok_invariant (P := P) ?_ h₀ h
    rintro done t ⟨acc₁, seen⟩ s' ⟨hk, ha, hu, hs⟩ h
    simp only at hs
    subst hs
    simp only [consumeNextText] at h
    split at h
    case isTrue => cases h
    case isFalse hz =>
      obtain ⟨acc₂, hc, h⟩ := Except.bind_eq_ok h
      cases h
      simp only [not_or, List.mem_toFinset] at hz
      obtain ⟨ht, hc⟩ := SessionAggregateAccumulator.consumeTextAttempt_eq_ok hc
      refine ⟨keyed_snoc.mpr ⟨hk, hz⟩, ?_, ?_, by simp⟩
      · simp only [List.mem_append, List.mem_singleton]
        rintro t' (hm | rfl)
        · exact ha t' hm
        · exact ht
      · intro us ht
        simpa using hc _ (hu us ht)
  exact ⟨hl.1, hl.2.1, hl.2.2.1⟩

theorem exists_consumeNextText_loop (hk : Keyed (·.requestSequence) texts) (ha : ∀ t ∈ texts, t.Admissible)
    (hw : acc.Within n) (hn : n + texts.length ≤ u32Max) (ht : acc.Tallied us)
    (he : Affordable (us ++ texts.flatMap (·.usages))) :
    ∃ r, texts.foldlM consumeNextText (acc, ∅) = .ok r ∧ r.1.Within (n + texts.length) ∧
      r.1.Tallied (us ++ texts.flatMap (·.usages)) := by
  let P (done : List LabTextAttemptEvidence) (s : SessionAggregateAccumulator × Finset Nat) : Prop :=
    (s.1.Within (n + done.length) ∧ s.1.Tallied (us ++ done.flatMap (·.usages))) ∧
    s.2 = (done.map (·.requestSequence)).toFinset
  have h₀ : P [] (acc, ∅) := ⟨⟨hw, by simpa using ht⟩, rfl⟩
  obtain ⟨r, hr, hp, -⟩ : ∃ r, texts.foldlM consumeNextText (acc, ∅) = .ok r ∧ P texts r := by
    refine List.exists_foldlM_ok ?_ h₀
    rintro done t ⟨acc₁, seen⟩ hp ⟨⟨hw, ht⟩, hs⟩
    simp only at hs
    subst hs
    obtain ⟨-, hz, hx⟩ := keyed_snoc.mp (hk.of_prefix hp)
    obtain ⟨rest, rfl⟩ := hp
    have he : Affordable (((us ++ done.flatMap (·.usages)) ++ t.usages) ++ rest.flatMap (·.usages)) := by
      simpa using he
    have hl : n + done.length < u32Max := by
      simp only [List.length_append, List.length_singleton] at hn
      omega
    obtain ⟨acc₂, hc, hw, ht⟩ := SessionAggregateAccumulator.exists_consumeTextAttempt (ha t (by simp)) hw hl ht
      he.of_append
    have hs : consumeNextText (acc₁, (done.map (·.requestSequence)).toFinset) t =
        .ok (acc₂, insert t.requestSequence (done.map (·.requestSequence)).toFinset) := by
      simp only [consumeNextText, List.mem_toFinset, hz, hx, or_self, if_false, hc]
      rfl
    exact ⟨_, hs, ⟨by simpa [Nat.add_assoc] using hw, by simpa using ht⟩, by simp⟩
  exact ⟨r, hr, hp⟩

-- The status of a request by the attempts.
abbrev Statuses (status : RequestStatus) (voices : List LabVoiceAttemptEvidence) : Prop :=
  Indexes (·.requestSequence) (·.status) status voices

theorem consumeNextAttempt_loop_eq_ok {r : SessionAggregateAccumulator × RequestStatus}
    (h : voices.foldlM consumeNextAttempt (acc, ∅) = .ok r) :
    Keyed (·.requestSequence) voices ∧ (∀ a ∈ voices, a.Admissible) ∧
    (∀ us, acc.Tallied us → r.1.Tallied (us ++ voices.flatMap (·.usages))) ∧ Statuses r.2 voices := by
  let P (done : List LabVoiceAttemptEvidence) (s : SessionAggregateAccumulator × RequestStatus) : Prop :=
    Keyed (·.requestSequence) done ∧ (∀ a ∈ done, a.Admissible) ∧
    (∀ us, acc.Tallied us → s.1.Tallied (us ++ done.flatMap (·.usages))) ∧ Statuses s.2 done
  have h₀ : P [] (acc, ∅) := ⟨.nil, by simp, by simp, .nil⟩
  refine List.foldlM_ok_invariant (P := P) ?_ h₀ h
  rintro done a ⟨acc₁, status⟩ s' ⟨hk, ha, hu, hs⟩ h
  simp only [consumeNextAttempt] at h
  split at h
  case isTrue => cases h
  case isFalse hz =>
    obtain ⟨acc₂, hc, h⟩ := Except.bind_eq_ok h
    cases h
    simp only [not_or] at hz
    obtain ⟨hz, hx⟩ := hz
    obtain ⟨ht, hc⟩ := SessionAggregateAccumulator.consumeAttempt_eq_ok hc
    refine ⟨keyed_snoc.mpr ⟨hk, hz, hs.mem_iff.not.mp hx⟩, ?_, ?_, hs.snoc_of_notMem hx⟩
    · simp only [List.mem_append, List.mem_singleton]
      rintro b (hb | rfl)
      · exact ha b hb
      · exact ht
    · intro us ht
      simpa using hc _ (hu us ht)

theorem exists_consumeNextAttempt_loop (hk : Keyed (·.requestSequence) voices) (ha : ∀ a ∈ voices, a.Admissible)
    (hw : acc.Within n) (hn : n + voices.length ≤ u32Max) (ht : acc.Tallied us)
    (he : Affordable (us ++ voices.flatMap (·.usages))) :
    ∃ r, voices.foldlM consumeNextAttempt (acc, ∅) = .ok r ∧ r.1.Within (n + voices.length) := by
  let P (done : List LabVoiceAttemptEvidence) (s : SessionAggregateAccumulator × RequestStatus) : Prop :=
    s.1.Within (n + done.length) ∧ s.1.Tallied (us ++ done.flatMap (·.usages)) ∧ Statuses s.2 done
  have h₀ : P [] (acc, ∅) := ⟨hw, by simpa using ht, .nil⟩
  obtain ⟨r, hr, hp, -⟩ : ∃ r, voices.foldlM consumeNextAttempt (acc, ∅) = .ok r ∧ P voices r := by
    refine List.exists_foldlM_ok ?_ h₀
    rintro done a ⟨acc₁, status⟩ hp ⟨hw, ht, hs⟩
    obtain ⟨-, hz, hx⟩ := keyed_snoc.mp (hk.of_prefix hp)
    obtain ⟨rest, rfl⟩ := hp
    have hx := hs.mem_iff.not.mpr hx
    have he : Affordable (((us ++ done.flatMap (·.usages)) ++ a.usages) ++ rest.flatMap (·.usages)) := by
      simpa using he
    have hl : n + done.length < u32Max := by
      simp only [List.length_append, List.length_singleton] at hn
      omega
    obtain ⟨acc₂, hc, hw, ht⟩ := SessionAggregateAccumulator.exists_consumeAttempt (ha a (by simp)) hw hl ht
      he.of_append
    have h : consumeNextAttempt (acc₁, status) a = .ok (acc₂, status.insert a.requestSequence a.status) := by
      simp only [consumeNextAttempt, hz, hx, or_self, if_false, hc]
      rfl
    exact ⟨_, h, by simpa [Nat.add_assoc] using hw, by simpa using ht, hs.snoc_of_notMem hx⟩
  exact ⟨r, hr, hp⟩

-- Only a request that completed has evidence.
def Completed (voices : List LabVoiceAttemptEvidence) (k : Nat) : Prop :=
  ∃ a ∈ voices, a.requestSequence = k ∧ a.status = .completed

structure LabMediaEvidence.Admissible (voices : List LabVoiceAttemptEvidence) (audio : Finset Nat)
    (e : LabMediaEvidence) : Prop where
  elapsed   : e.elapsedMillis ≤ maxMediaElapsedMillis
  request   : e.kind.requiresRequestSequence = e.requestSequence.isSome
  completed : ∀ k, e.requestSequence = some k → Completed voices k
  audio     : ∀ k, e.requestSequence = some k → e.kind = .interruptionStopped → k ∈ audio

-- What identifies the events that may not be repeated.
def mediaKeys (events : List LabMediaEvidence) : List (Option Nat × LabMediaEvidenceKind) :=
  (events.filter (·.kind ≠ .reconnectRestored)).map fun e => (e.requestSequence, e.kind)

variable {status : RequestStatus} {audio playback proven : Finset Nat} {events : List LabMediaEvidence}
  {e : LabMediaEvidence}

theorem mediaKeys_snoc_restored (h : e.kind = .reconnectRestored) : mediaKeys (events ++ [e]) = mediaKeys events := by
  simp [mediaKeys, h]

theorem mediaKeys_snoc (h : e.kind ≠ .reconnectRestored) :
    mediaKeys (events ++ [e]) = mediaKeys events ++ [(e.requestSequence, e.kind)] := by
  simp [mediaKeys, h]

theorem collectMedia_within (hw : acc.Within n) : (acc.collectMedia e).Within (n + 1) := by
  refine hw.step ?_
  simp only [SessionAggregateAccumulator.collectMedia]
  cases e.kind <;> simp [SessionAggregateAccumulator.counters]

-- An event passes the checks of the loop exactly when it is admissible.
theorem collectNextMedia_eq (hs : Statuses status voices)
    (s : SessionAggregateAccumulator × Finset (Option Nat × LabMediaEvidenceKind)) (h : e.Admissible voices audio) :
    collectNextMedia status audio s e =
      if e.kind = .reconnectRestored then .ok (s.1.collectMedia e, s.2)
      else if (e.requestSequence, e.kind) ∈ s.2 then .error .invalidMediaEvidence
      else .ok (s.1.collectMedia e, insert (e.requestSequence, e.kind) s.2) := by
  have hc : (e.requestSequence.any fun request => status[request]? ≠ some .completed) = false := by
    simp only [Option.any_eq_false, decide_eq_false_iff_not, not_not]
    exact fun k hk => (hs k _).mpr (h.completed k hk)
  have ha : (e.requestSequence.any fun request => e.kind = .interruptionStopped ∧ request ∉ audio) = false := by
    simp only [Option.any_eq_false, decide_eq_false_iff_not, not_and, not_not]
    exact fun k hk => h.audio k hk
  simp only [collectNextMedia, Nat.not_lt.mpr h.elapsed, h.request, hc, ha, if_false, ne_eq, not_true_eq_false,
    Bool.false_eq_true]

theorem collectNextMedia_admissible (hs : Statuses status voices)
    {s s' : SessionAggregateAccumulator × Finset (Option Nat × LabMediaEvidenceKind)}
    (h : collectNextMedia status audio s e = .ok s') : e.Admissible voices audio := by
  simp only [collectNextMedia] at h
  split at h
  case isTrue => cases h
  case isFalse hl =>
    split at h
    case isTrue => cases h
    case isFalse hr =>
      split at h
      case isTrue => cases h
      case isFalse hc =>
        split at h
        case isTrue => cases h
        case isFalse ha =>
          simp only [Bool.not_eq_true, Option.any_eq_false, decide_eq_false_iff_not, not_and, not_not] at hc ha
          exact ⟨Nat.not_lt.mp hl, by simpa using hr, fun k hk => (hs k _).mp (hc k hk), fun k hk => ha k hk⟩

theorem collectNextMedia_loop_eq_ok (hs : Statuses status voices)
    {r : SessionAggregateAccumulator × Finset (Option Nat × LabMediaEvidenceKind)}
    (h : events.foldlM (collectNextMedia status audio) (acc, ∅) = .ok r) :
    (∀ e ∈ events, e.Admissible voices audio) ∧ (mediaKeys events).Nodup := by
  let P (done : List LabMediaEvidence)
      (s : SessionAggregateAccumulator × Finset (Option Nat × LabMediaEvidenceKind)) : Prop :=
    ((∀ e ∈ done, e.Admissible voices audio) ∧ (mediaKeys done).Nodup) ∧ s.2 = (mediaKeys done).toFinset
  have h₀ : P [] (acc, ∅) := ⟨⟨by simp, List.nodup_nil⟩, rfl⟩
  refine (List.foldlM_ok_invariant (P := P) ?_ h₀ h).left
  rintro done e ⟨acc₁, seen⟩ s' ⟨⟨ha, hn⟩, hu⟩ h
  have he := collectNextMedia_admissible hs h
  have ha : ∀ e' ∈ done ++ [e], e'.Admissible voices audio := by
    simp only [List.mem_append, List.mem_singleton]
    rintro e' (hm | rfl)
    · exact ha e' hm
    · exact he
  simp only at hu
  subst hu
  rw [collectNextMedia_eq hs _ he] at h
  split at h
  case isTrue hk =>
    cases h
    exact ⟨⟨ha, by rwa [mediaKeys_snoc_restored hk]⟩, by rw [mediaKeys_snoc_restored hk]⟩
  case isFalse hk =>
    split at h
    case isTrue => cases h
    case isFalse hm =>
      cases h
      rw [List.mem_toFinset] at hm
      refine ⟨⟨ha, ?_⟩, by simp [mediaKeys_snoc hk]⟩
      rw [mediaKeys_snoc hk, List.nodup_append_comm]
      exact List.nodup_cons.mpr ⟨hm, hn⟩

theorem exists_collectNextMedia_loop (hs : Statuses status voices) (ha : ∀ e ∈ events, e.Admissible voices audio)
    (hd : (mediaKeys events).Nodup) (hw : acc.Within n) :
    ∃ r, events.foldlM (collectNextMedia status audio) (acc, ∅) = .ok r ∧ r.1.Within (n + events.length) := by
  let P (done : List LabMediaEvidence)
      (s : SessionAggregateAccumulator × Finset (Option Nat × LabMediaEvidenceKind)) : Prop :=
    s.1.Within (n + done.length) ∧ s.2 = (mediaKeys done).toFinset
  have h₀ : P [] (acc, ∅) := ⟨hw, rfl⟩
  obtain ⟨r, hr, hp, -⟩ : ∃ r, events.foldlM (collectNextMedia status audio) (acc, ∅) = .ok r ∧ P events r := by
    refine List.exists_foldlM_ok ?_ h₀
    rintro done e ⟨acc₁, seen⟩ ⟨rest, rfl⟩ ⟨hw, hu⟩
    simp only at hu
    subst hu
    have hw : (acc₁.collectMedia e).Within (n + (done ++ [e]).length) := by
      simpa [Nat.add_assoc] using collectMedia_within hw
    rw [collectNextMedia_eq hs _ (ha e (by simp))]
    split
    case isTrue hk => exact ⟨_, rfl, hw, by rw [mediaKeys_snoc_restored hk]⟩
    case isFalse hk =>
      have hm : (e.requestSequence, e.kind) ∉ mediaKeys done := by
        have hd : (mediaKeys (done ++ [e])).Nodup := by
          refine hd.sublist ?_
          rw [mediaKeys, mediaKeys, List.filter_append (done ++ [e]), List.map_append]
          exact List.sublist_append_left _ _
        rw [mediaKeys_snoc hk, List.nodup_append_comm] at hd
        exact (List.nodup_cons.mp hd).left
      rw [if_neg (by rwa [List.mem_toFinset])]
      exact ⟨_, rfl, hw, by simp [mediaKeys_snoc hk]⟩
  exact ⟨r, hr, hp⟩

-- The playback of a request that was confirmed was heard to the end, and that of a request that was
-- interrupted was not.
structure Accounted (snapshot : LabSessionEvidenceSnapshot) : Prop where
  confirmed   : confirmedRequests snapshot.voiceAttempts = mediaRequests .playbackCompleted snapshot.mediaEvents
  playback    : confirmedRequests snapshot.voiceAttempts ⊆ mediaRequests .audioStarted snapshot.mediaEvents
  interrupted :
    mediaRequests .interruptionStopped snapshot.mediaEvents ⊆ mediaRequests .audioStarted snapshot.mediaEvents
  disjoint    : Disjoint (confirmedRequests snapshot.voiceAttempts)
    (mediaRequests .interruptionStopped snapshot.mediaEvents)

def playbackAccounting (snapshot : LabSessionEvidenceSnapshot) : PlaybackAccounting where
  playbackRequests := confirmedRequests snapshot.voiceAttempts
  audioRequests    := mediaRequests .audioStarted snapshot.mediaEvents
  derivedPlayback  := completedRequests snapshot.voiceAttempts ≠ ∅ ∧
    confirmedRequests snapshot.voiceAttempts ≠ ∅ ∧
    confirmedRequests snapshot.voiceAttempts ∪ mediaRequests .interruptionStopped snapshot.mediaEvents =
      completedRequests snapshot.voiceAttempts

theorem validatePlaybackAccounting_eq_ok_iff {snapshot : LabSessionEvidenceSnapshot} {p : PlaybackAccounting} :
    validatePlaybackAccounting snapshot (completedRequests snapshot.voiceAttempts) = .ok p ↔
      Accounted snapshot ∧ p = playbackAccounting snapshot := by
  simp only [validatePlaybackAccounting]
  split
  case isTrue h =>
    simp only [reduceCtorEq, false_iff, not_and]
    intro ha
    simp [ha.confirmed.symm, ha.playback, ha.interrupted, ha.disjoint] at h
  case isFalse h =>
    simp only [ne_eq, not_or, not_not] at h
    obtain ⟨hc, hp, hi, hd⟩ := h
    simp only [Except.ok.injEq, playbackAccounting, eq_comm, iff_and_self]
    exact fun _ => ⟨hc, hp, hi, hd⟩

variable {samples : List LabAvSyncEvidence} {x : LabAvSyncEvidence}

structure LabAvSyncEvidence.Admissible (voices : List LabVoiceAttemptEvidence) (audio playback : Finset Nat)
    (x : LabAvSyncEvidence) : Prop where
  request   : x.requestSequence ≠ 0
  sample    : 1 ≤ x.sampleSequence ∧ x.sampleSequence ≤ avSyncSamplesPerRequest
  offset    : x.absoluteOffsetMillis ≤ maxMediaElapsedMillis
  completed : Completed voices x.requestSequence
  audio     : x.requestSequence ∈ audio
  reference : x.requestSequence ∈ playback → x.reference = .webRtcEstimatedPlayoutTimestamp

def sampleKey (x : LabAvSyncEvidence) : Nat × Nat :=
  (x.requestSequence, x.sampleSequence)

-- The samples of a request have one reference.
def Referenced (samples : List LabAvSyncEvidence) : Prop :=
  ∀ x ∈ samples, ∀ y ∈ samples, x.requestSequence = y.requestSequence → x.reference = y.reference

instance : Decidable (Referenced samples) :=
  inferInstanceAs (Decidable (∀ x ∈ samples, ∀ y ∈ samples, _ → _))

-- The loop over the samples after it has passed some of them.
structure Sampled (done : List LabAvSyncEvidence) (s : AvSyncSamples) : Prop where
  unique     : s.unique = (done.map sampleKey).toFinset
  sequences  : ∀ k m, m ∈ s.sequences.getD k ∅ ↔ (k, m) ∈ done.map sampleKey
  references : Indexes (·.requestSequence) (·.reference) s.references done

theorem Sampled.nil {offsets : List Nat} : Sampled [] ⟨∅, ∅, ∅, offsets⟩ where
  unique     := rfl
  sequences  := by simp
  references := .nil

theorem Sampled.snoc {s : AvSyncSamples} {offsets : List Nat} (h : Sampled samples s)
    (hr : ∀ y ∈ samples, y.requestSequence = x.requestSequence → y.reference = x.reference) :
    Sampled (samples ++ [x]) {
      unique     := insert (x.requestSequence, x.sampleSequence) s.unique
      sequences  := s.sequences.insert x.requestSequence
        (insert x.sampleSequence (s.sequences.getD x.requestSequence ∅))
      references := s.references.insert x.requestSequence x.reference
      offsets } where
  unique := by
    simp [h.unique, sampleKey]
  sequences k m := by
    simp only [Std.TreeMap.getD_insert, Std.LawfulEqCmp.compare_eq_iff_eq]
    split
    case isTrue hk =>
      subst hk
      simp only [Finset.mem_insert, h.sequences, List.map_append, List.mem_append, List.map_singleton,
        List.mem_singleton, sampleKey, Prod.mk.injEq, true_and]
      exact or_comm
    case isFalse hk =>
      simp [h.sequences, sampleKey, Ne.symm hk]
  references := h.references.snoc hr

-- What the loop has at hand after one more sample.
def AvSyncSamples.next (playback : Finset Nat) (s : AvSyncSamples) (x : LabAvSyncEvidence) : AvSyncSamples where
  unique     := insert (x.requestSequence, x.sampleSequence) s.unique
  sequences  := s.sequences.insert x.requestSequence
    (insert x.sampleSequence (s.sequences.getD x.requestSequence ∅))
  references := s.references.insert x.requestSequence x.reference
  offsets    := if x.requestSequence ∈ playback then s.offsets ++ [x.absoluteOffsetMillis] else s.offsets

theorem Sampled.reference_iff {s : AvSyncSamples} (h : Sampled samples s) :
    s.references[x.requestSequence]?.any (· ≠ x.reference) = false ↔
      ∀ y ∈ samples, y.requestSequence = x.requestSequence → y.reference = x.reference := by
  simp only [Option.any_eq_false, decide_eq_false_iff_not, not_not, ne_eq]
  constructor
  case mp  => exact fun hr y hy hk => hr _ ((h.references _ _).mpr ⟨y, hy, hk, rfl⟩)
  case mpr =>
    intro hr r hm
    obtain ⟨y, hy, hk, rfl⟩ := (h.references _ _).mp hm
    exact hr y hy hk

theorem collectNextSample_eq_ok_iff (hs : Statuses status voices) {s s' : AvSyncSamples} (h : Sampled samples s) :
    collectNextSample status audio playback s x = .ok s' ↔
      x.Admissible voices audio playback ∧ sampleKey x ∉ samples.map sampleKey ∧
      (∀ y ∈ samples, y.requestSequence = x.requestSequence → y.reference = x.reference) ∧ s' = s.next playback x := by
  have hu : (x.requestSequence, x.sampleSequence) ∈ s.unique ↔ sampleKey x ∈ samples.map sampleKey := by
    rw [h.unique, List.mem_toFinset, sampleKey]
  simp only [collectNextSample, hu]
  split
  case isTrue hc =>
    simp only [reduceCtorEq, false_iff, not_and]
    intro ha hk
    have hst := (hs x.requestSequence .completed).mpr ha.completed
    simp [ha.request, ha.sample, Nat.not_lt.mpr ha.offset, hst, ha.audio, hk] at hc
  case isFalse hc =>
    simp only [not_or, not_not, Nat.not_lt, gt_iff_lt, ne_eq] at hc
    obtain ⟨hz, hq, ho, hst, ha, hk⟩ := hc
    rw [← h.reference_iff]
    split
    case isTrue hr => simp only [hr, reduceCtorEq, Bool.true_eq_false, false_and, and_false]
    case isFalse hr =>
      split
      case isTrue hp =>
        simp only [reduceCtorEq, false_iff, not_and]
        exact fun ha => absurd (ha.reference hp.left) hp.right
      case isFalse hp =>
        simp only [not_and, not_not, ne_eq] at hp
        have hx : x.Admissible voices audio playback := ⟨hz, hq, ho, (hs _ _).mp hst, ha, hp⟩
        rw [Bool.not_eq_true] at hr
        simp only [hx, hk, hr, not_false_iff, true_and, Except.ok.injEq, AvSyncSamples.next]
        exact eq_comm

theorem Referenced.snoc_iff : Referenced (samples ++ [x]) ↔
    Referenced samples ∧ ∀ y ∈ samples, y.requestSequence = x.requestSequence → y.reference = x.reference := by
  simp only [Referenced, List.mem_append, List.mem_singleton]
  constructor
  case mp  => exact fun h => ⟨fun y hy z hz => h y (.inl hy) z (.inl hz), fun y hy => h y (.inl hy) x (.inr rfl)⟩
  case mpr =>
    rintro ⟨h, hx⟩ y (hy | rfl) z (hz | rfl) hk
    · exact h y hy z hz hk
    · exact hx y hy hk
    · exact (hx z hz hk.symm).symm
    · rfl

theorem collectNextSample_loop_eq_ok (hs : Statuses status voices) {offsets : List Nat} {s : AvSyncSamples}
    (h : samples.foldlM (collectNextSample status audio playback) ⟨∅, ∅, ∅, offsets⟩ = .ok s) :
    (∀ x ∈ samples, x.Admissible voices audio playback) ∧ (samples.map sampleKey).Nodup ∧ Referenced samples ∧
    Sampled samples s := by
  let P (done : List LabAvSyncEvidence) (s : AvSyncSamples) : Prop :=
    (∀ x ∈ done, x.Admissible voices audio playback) ∧ (done.map sampleKey).Nodup ∧ Referenced done ∧ Sampled done s
  have h₀ : P [] ⟨∅, ∅, ∅, offsets⟩ := ⟨by simp, List.nodup_nil, by simp [Referenced], .nil⟩
  refine List.foldlM_ok_invariant (P := P) ?_ h₀ h
  rintro done x s s' ⟨ha, hn, hr, hd⟩ h
  obtain ⟨hx, hk, hf, rfl⟩ := (collectNextSample_eq_ok_iff hs hd).mp h
  refine ⟨?_, ?_, Referenced.snoc_iff.mpr ⟨hr, hf⟩, hd.snoc hf⟩
  · simp only [List.mem_append, List.mem_singleton]
    rintro y (hy | rfl)
    · exact ha y hy
    · exact hx
  · rw [List.map_append, List.nodup_append_comm]
    exact List.nodup_cons.mpr ⟨hk, hn⟩

theorem exists_collectNextSample_loop (hs : Statuses status voices) {offsets : List Nat}
    (ha : ∀ x ∈ samples, x.Admissible voices audio playback) (hn : (samples.map sampleKey).Nodup)
    (hr : Referenced samples) :
    ∃ s, samples.foldlM (collectNextSample status audio playback) ⟨∅, ∅, ∅, offsets⟩ = .ok s ∧
      Sampled samples s ∧ s.offsets.length ≤ offsets.length + samples.length := by
  refine List.exists_foldlM_ok (P := fun done s => Sampled done s ∧ s.offsets.length ≤ offsets.length + done.length) ?_
    ⟨.nil, Nat.le_refl _⟩
  rintro done x s ⟨rest, rfl⟩ ⟨hd, hl⟩
  have hk : sampleKey x ∉ done.map sampleKey := by
    have hn : ((done ++ [x]).map sampleKey).Nodup := hn.sublist ((List.sublist_append_left _ _).map _)
    rw [List.map_append, List.nodup_append_comm] at hn
    exact (List.nodup_cons.mp hn).left
  have hf : ∀ y ∈ done, y.requestSequence = x.requestSequence → y.reference = x.reference :=
    fun y hy => hr y (by simp [hy]) x (by simp)
  refine ⟨_, (collectNextSample_eq_ok_iff hs hd).mpr ⟨ha x (by simp), hk, hf, rfl⟩, hd.snoc hf, ?_⟩
  simp only [AvSyncSamples.next, List.length_append, List.length_singleton]
  split
  case isTrue  => simpa [← Nat.add_assoc] using hl
  case isFalse => exact Nat.le_succ_of_le hl

-- The requests of which all samples are there.
theorem Sampled.mem_complete_iff {s : AvSyncSamples} (h : Sampled samples s)
    (hl : ∀ x ∈ samples, 1 ≤ x.sampleSequence ∧ x.sampleSequence ≤ avSyncSamplesPerRequest) {k : Nat} :
    k ∈ ((s.sequences.toList.filter fun (request, sequences) =>
        request ∈ playback ∧ sequences.card = avSyncSamplesPerRequest).map Prod.fst).toFinset ↔
      k ∈ playback ∧ ∀ m ∈ List.range' 1 avSyncSamplesPerRequest, (k, m) ∈ samples.map sampleKey := by
  let full : Finset Nat := (List.range' 1 avSyncSamplesPerRequest).toFinset
  have hf : full.card = avSyncSamplesPerRequest := rfl
  have hs : s.sequences.getD k ∅ ⊆ full := by
    intro m hm
    obtain ⟨x, hx, he⟩ := List.mem_map.mp ((h.sequences k m).mp hm)
    obtain ⟨-, rfl⟩ := Prod.mk.inj he
    have hx := hl x hx
    simp only [full, List.mem_toFinset, List.mem_range'_1]
    omega
  have hc : (s.sequences.getD k ∅).card = avSyncSamplesPerRequest ↔
      ∀ m ∈ List.range' 1 avSyncSamplesPerRequest, (k, m) ∈ samples.map sampleKey := by
    simp only [← h.sequences, ← List.mem_toFinset]
    constructor
    case mp =>
      intro hc m hm
      exact Finset.eq_of_subset_of_card_le hs (by rw [hc, hf]) ▸ hm
    case mpr =>
      intro hm
      rw [← hf, Finset.Subset.antisymm hs hm]
  rw [← hc]
  simp only [List.mem_toFinset, List.mem_map, List.mem_filter, decide_eq_true_eq, Prod.exists,
    Std.TreeMap.mem_toList_iff_getElem?_eq_some]
  constructor
  case mp =>
    rintro ⟨k, set, ⟨hm, hp, he⟩, rfl⟩
    refine ⟨hp, ?_⟩
    rw [Std.TreeMap.getD_eq_getD_getElem?, hm]
    exact he
  case mpr =>
    rintro ⟨hp, he⟩
    cases hm : s.sequences[k]?
    case none =>
      rw [Std.TreeMap.getD_eq_getD_getElem?, hm] at he
      cases he
    case some set =>
      rw [Std.TreeMap.getD_eq_getD_getElem?, hm] at he
      exact ⟨k, set, ⟨hm, hp, he⟩, rfl⟩

variable {diagnostics : List LabAvSyncDiagnostic} {d : LabAvSyncDiagnostic}

structure LabAvSyncDiagnostic.Admissible (voices : List LabVoiceAttemptEvidence) (audio proven : Finset Nat)
    (d : LabAvSyncDiagnostic) : Prop where
  attempts  : d.attempts ≠ 0
  issue     : ¬(d.audioIssue = none ∧ d.videoIssue = none)
  completed : Completed voices d.requestSequence
  audio     : d.requestSequence ∈ audio
  unproven  : d.requestSequence ∉ proven

theorem validateNextDiagnostic_eq_ok_iff (hs : Statuses status voices) {seen : Finset Nat} :
    validateNextDiagnostic status audio proven (diagnostics.map (·.requestSequence)).toFinset d = .ok seen ↔
      d.Admissible voices audio proven ∧ d.requestSequence ≠ 0 ∧
      d.requestSequence ∉ diagnostics.map (·.requestSequence) ∧
      seen = ((diagnostics ++ [d]).map (·.requestSequence)).toFinset := by
  simp only [validateNextDiagnostic, List.mem_toFinset]
  split
  case isTrue hc =>
    simp only [reduceCtorEq, false_iff, not_and]
    intro ha hz hk
    have hst := (hs d.requestSequence .completed).mpr ha.completed
    simp [hz, ha.attempts, ha.issue, hst, ha.audio, ha.unproven, hk] at hc
  case isFalse hc =>
    simp only [not_or, not_not, ne_eq, Option.isNone_iff_eq_none] at hc
    obtain ⟨hz, hn, hi, hst, ha, hp, hk⟩ := hc
    have hd : d.Admissible voices audio proven := ⟨hn, hi, (hs _ _).mp hst, ha, hp⟩
    have hi : insert d.requestSequence (diagnostics.map (·.requestSequence)).toFinset =
        ((diagnostics ++ [d]).map (·.requestSequence)).toFinset := by simp
    simp only [hd, hz, hk, hi, ne_eq, not_false_iff, true_and, Except.ok.injEq]
    exact eq_comm

theorem validateNextDiagnostic_loop_iff (hs : Statuses status voices) :
    (∃ seen, diagnostics.foldlM (validateNextDiagnostic status audio proven) ∅ = .ok seen) ↔
      Keyed (·.requestSequence) diagnostics ∧ ∀ d ∈ diagnostics, d.Admissible voices audio proven := by
  constructor
  case mp =>
    rintro ⟨seen, h⟩
    let P (done : List LabAvSyncDiagnostic) (seen : Finset Nat) : Prop :=
      (Keyed (·.requestSequence) done ∧ ∀ d ∈ done, d.Admissible voices audio proven) ∧
      seen = (done.map (·.requestSequence)).toFinset
    have h₀ : P [] ∅ := ⟨⟨.nil, by simp⟩, rfl⟩
    refine (List.foldlM_ok_invariant (P := P) ?_ h₀ h).left
    rintro done d seen seen' ⟨⟨hk, ha⟩, rfl⟩ h
    obtain ⟨hd, hz, hx, rfl⟩ := (validateNextDiagnostic_eq_ok_iff hs).mp h
    refine ⟨⟨keyed_snoc.mpr ⟨hk, hz, hx⟩, ?_⟩, rfl⟩
    simp only [List.mem_append, List.mem_singleton]
    rintro d' (hm | rfl)
    · exact ha d' hm
    · exact hd
  case mpr =>
    rintro ⟨hk, ha⟩
    obtain ⟨seen, h, -⟩ : ∃ seen, diagnostics.foldlM (validateNextDiagnostic status audio proven) ∅ = .ok seen ∧
        seen = (diagnostics.map (·.requestSequence)).toFinset := by
      refine List.exists_foldlM_ok
        (P := fun (done : List LabAvSyncDiagnostic) seen => seen = (done.map (·.requestSequence)).toFinset) ?_ rfl
      rintro done d seen hp rfl
      obtain ⟨-, hz, hx⟩ := keyed_snoc.mp (hk.of_prefix hp)
      exact ⟨_, (validateNextDiagnostic_eq_ok_iff hs).mpr ⟨ha d (hp.subset (by simp)), hz, hx, rfl⟩, rfl⟩
    exact ⟨seen, h⟩

end Loops
