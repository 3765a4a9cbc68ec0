import PersonaRuntime.OwnerLab.Theorems.Evidence

namespace LabTextAttemptEvidence

variable {k : Nat} {a : LabTextAttemptEvidence}

-- The attempts that a recorder can have of a request.
inductive Recorded (k : Nat) : LabTextAttemptEvidence → Prop
  | pending : Recorded k (begin k)
  | failed {code : String} (nonblank : isBlank code = false) : Recorded k ((begin k).fail code)
  | completed {result : LabTextResult} (valid : result.malformed = false) : Recorded k ((begin k).complete result)

theorem Recorded.request (h : Recorded k a) : a.requestSequence = k := by
  cases h <;> rfl

theorem Recorded.eq_begin (h : Recorded k a) (hs : a.status = .pending) : a = begin k := by
  cases h
  case pending => rfl
  all_goals cases hs

theorem Recorded.admissible (h : Recorded k a) (hs : a.status ≠ .pending) : a.Admissible := by
  cases h
  case pending => exact absurd rfl hs
  case failed code hb => exact .failed rfl ⟨by simpa [fail] using hb, rfl, rfl, rfl, rfl, rfl⟩
  case completed result hv =>
    simp only [LabTextResult.malformed, Bool.or_eq_false_iff, decide_eq_false_iff_not, Nat.not_lt] at hv
    obtain ⟨⟨⟨⟨ht, ho⟩, -⟩, -⟩, hf⟩ := hv
    exact .completed rfl rfl ht ho hf rfl

end LabTextAttemptEvidence

namespace LabVoiceAttemptEvidence

variable {k : Nat} {a : LabVoiceAttemptEvidence}

-- An attempt before it completes or fails: what its first segment has bound and whether its playback
-- is confirmed.
def opened (k : Nat) (binding : Option (Nat × Nat)) (confirmed : Bool) : LabVoiceAttemptEvidence :=
  { begin k with
    canonicalTurnSequence      := binding.map Prod.fst
    canonicalOutputSequence    := binding.map Prod.snd
    canonicalPlaybackConfirmed := confirmed }

inductive Recorded (k : Nat) : LabVoiceAttemptEvidence → Prop
  | pending {b : Option (Nat × Nat)} {p : Bool} (bound : p = true → b.isSome = true) : Recorded k (opened k b p)
  | failed {b : Option (Nat × Nat)} {p : Bool} {code : String} (bound : p = true → b.isSome = true)
      (nonblank : isBlank code = false) : Recorded k ((opened k b p).fail code)
  | completed {b : Option (Nat × Nat)} {p : Bool} {result : LabVoiceResult}
      (turn : result.evidenceTurnSequence ≠ 0) (output : result.evidenceOutputSequence ≠ 0)
      (valid : result.malformed = false) : Recorded k ((opened k b p).complete result)

namespace Recorded

theorem begin : Recorded k (begin k) :=
  pending (b := none) (p := false) (by simp)

theorem request (h : Recorded k a) : a.requestSequence = k := by
  cases h <;> rfl

theorem bind (h : Recorded k a) (hs : a.status = .pending) (segment : LabVoiceSegment) :
    Recorded k (a.bind segment) := by
  cases h
  case pending p _ =>
    exact pending (b := some (segment.evidenceTurnSequence, segment.evidenceOutputSequence)) (p := p) (by simp)
  all_goals cases hs

theorem fail (h : Recorded k a) (hs : a.status = .pending) {code : String} (hc : isBlank code = false) :
    Recorded k (a.fail code) := by
  cases h
  case pending hb => exact failed hb hc
  all_goals cases hs

theorem complete (h : Recorded k a) (hs : a.status = .pending) {result : LabVoiceResult}
    (ht : result.evidenceTurnSequence ≠ 0) (ho : result.evidenceOutputSequence ≠ 0)
    (hv : result.malformed = false) : Recorded k (a.complete result) := by
  cases h
  case pending => exact completed ht ho hv
  all_goals cases hs

theorem confirm (h : Recorded k a) (hs : a.status ≠ .failed) (hb : a.canonicalTurnSequence.isSome = true) :
    Recorded k a.confirm := by
  cases h
  case failed => exact absurd rfl hs
  case pending b _ _ => exact pending (b := b) (p := true) fun _ => by simpa [opened] using hb
  case completed b _ _ ht ho hv => exact completed (b := b) (p := true) ht ho hv

end Recorded

-- A request that failed did so before it had a segment.
def Unbound (a : LabVoiceAttemptEvidence) : Prop :=
  a.status = .failed → a.canonicalTurnSequence = none

-- The first text of a reply is not there before the first of the language model.
def Ordered (a : LabVoiceAttemptEvidence) : Prop :=
  ∀ first ∈ a.llmFirstMeaningfulMillis, ∀ text ∈ a.voiceFirstTextMillis, first ≤ text

instance : Decidable a.Unbound :=
  inferInstanceAs (Decidable (_ → _))

instance : Decidable a.Ordered :=
  inferInstanceAs (Decidable (∀ first ∈ a.llmFirstMeaningfulMillis, ∀ text ∈ a.voiceFirstTextMillis, _ ≤ _))

theorem Recorded.admissible_iff (h : Recorded k a) (hs : a.status ≠ .pending) :
    a.Admissible ↔ a.Unbound ∧ a.Ordered := by
  cases h
  case pending => exact absurd rfl hs
  case failed b p code hb hc =>
    constructor
    case mp =>
      rintro (⟨-, ha⟩ | ⟨hs, -⟩)
      · exact ⟨fun _ => ha.turn, fun first hf => (by cases hf)⟩
      · cases hs
    case mpr =>
      rintro ⟨hu, -⟩
      obtain rfl : b = none := by simpa [opened, LabVoiceAttemptEvidence.fail] using hu rfl
      obtain rfl : p = false := by simpa using hb
      exact .failed rfl ⟨by simpa [LabVoiceAttemptEvidence.fail] using hc, rfl, rfl, rfl, rfl, rfl, rfl, rfl, rfl,
        rfl, rfl, rfl⟩
  case completed b p result ht ho hv =>
    simp only [LabVoiceResult.malformed, Bool.or_eq_false_iff, decide_eq_false_iff_not, Nat.not_lt] at hv
    obtain ⟨⟨⟨⟨⟨⟨⟨⟨⟨-, -⟩, hl⟩, -⟩, -⟩, -⟩, -⟩, -⟩, -⟩, hx⟩ := hv
    constructor
    case mp =>
      rintro (⟨hs, -⟩ | ⟨-, hc, -, -, -, -, hf, -⟩)
      · cases hs
      · cases hc
        refine ⟨fun hs => (by cases hs), fun first hm text ht => ?_⟩
        cases hm
        exact (hf text ht).left
    case mpr =>
      rintro ⟨-, hf⟩
      have hf := hf _ rfl _ rfl
      refine .completed rfl rfl ht ho hl (Nat.le_trans hf hx) (fun ms hm => ?_) rfl
      cases hm
      exact ⟨hf, hx⟩

end LabVoiceAttemptEvidence

-- What is recorded of an input.
def LabMediaEvidenceInput.event (input : LabMediaEvidenceInput) : LabMediaEvidence :=
  ⟨input.requestSequence, input.kind, input.elapsedMillis⟩

namespace LabSessionEvidenceRecorder

variable {r r' : LabSessionEvidenceRecorder} {k : Nat}

-- What holds of a recorder after any calls once its provenance is bound.
structure Consistent (r : LabSessionEvidenceRecorder) : Prop where
  provenance     : validGitSha r.candidateSha = true ∧ validProviderStateSha256 r.providerStateSha256 = true
  texts          : ∀ {k t}, r.textAttempts[k]? = some t → k ≠ 0 ∧ t.Recorded k
  voices         : ∀ {k a}, r.voiceAttempts[k]? = some a → k ≠ 0 ∧ a.Recorded k
  capacity       : r.textAttempts.size + r.voiceAttempts.size ≤ maxSessionAttempts
  media          : ∀ {e}, e ∈ r.mediaEvents → e.elapsedMillis ≤ maxMediaElapsedMillis ∧
    e.kind.requiresRequestSequence = e.requestSequence.isSome
  observed       : ∀ {e k}, e ∈ r.mediaEvents → e.requestSequence = some k → k ∈ r.voiceAttempts
  mediaNodup     : (mediaKeys r.mediaEvents).Nodup
  mediaLength    : r.mediaEvents.length ≤ maxMediaEvents
  confirmed      : ∀ {k}, (∃ a, r.voiceAttempts[k]? = some a ∧ a.canonicalPlaybackConfirmed = true) ↔
    ∃ e ∈ r.mediaEvents, e.kind = .playbackCompleted ∧ e.requestSequence = some k
  samples        : ∀ {x}, x ∈ r.avSyncSamples → x.requestSequence ≠ 0 ∧
    (1 ≤ x.sampleSequence ∧ x.sampleSequence ≤ avSyncSamplesPerRequest) ∧
    x.absoluteOffsetMillis ≤ maxMediaElapsedMillis ∧ r.audioStarted x.requestSequence = true
  sampleNodup    : (r.avSyncSamples.map sampleKey).Nodup
  sampleLength   : r.avSyncSamples.length ≤ maxAvSyncSamples
  diagnosticKeys : Keyed (·.requestSequence) r.avSyncDiagnostics
  diagnostics    : ∀ {d}, d ∈ r.avSyncDiagnostics → d.attempts ≠ 0 ∧
    ¬(d.audioIssue = none ∧ d.videoIssue = none) ∧ r.audioStarted d.requestSequence = true ∧
    r.completeSamples d.requestSequence = false
  session        : ∀ {n}, r.sessionSequence = some n →
    n ≠ 0 ∧ r.participantRole.isSome = true ∧ r.sessionStarted.isSome = true
  sealing        : r.isSealed = true → r.sessionSequence.isSome = true ∧ r.sealedDurationMillis.isSome = true
  duration       : ∀ {n}, r.sealedDurationMillis = some n → n ≠ 0 ∧ n ≤ u64Max

section Attempts

variable {t : LabTextAttemptEvidence} {a a' : LabVoiceAttemptEvidence}

theorem sessionAttemptCount_lt (h : ¬r.sessionAttemptCount ≥ maxSessionAttempts) :
    r.textAttempts.size + r.voiceAttempts.size < maxSessionAttempts := by
  simp only [sessionAttemptCount, maxSessionAttempts, u64Max] at *
  omega

theorem Consistent.setText (h : r.Consistent) (hk : k ≠ 0) (ht : t.Recorded k)
    (hc : (r.textAttempts.insert k t).size + r.voiceAttempts.size ≤ maxSessionAttempts) :
    Consistent { r with textAttempts := r.textAttempts.insert k t } :=
  { h with texts := forall_insert h.texts ⟨hk, ht⟩, capacity := hc }

theorem Consistent.setVoice (h : r.Consistent) (hk : k ≠ 0) (ha : a.Recorded k)
    (hc : r.textAttempts.size + (r.voiceAttempts.insert k a).size ≤ maxSessionAttempts)
    (hp : a.canonicalPlaybackConfirmed = true ↔
      ∃ a', r.voiceAttempts[k]? = some a' ∧ a'.canonicalPlaybackConfirmed = true) :
    Consistent { r with voiceAttempts := r.voiceAttempts.insert k a } := by
  refine { h with
    voices        := forall_insert h.voices ⟨hk, ha⟩
    capacity      := hc
    observed      := fun he hr => Std.TreeMap.mem_insert.mpr (.inr (h.observed he hr))
    confirmed     := fun {k'} => ?_ }
  rw [← h.confirmed]
  simp only [Std.TreeMap.getElem?_insert, Std.LawfulEqCmp.compare_eq_iff_eq]
  split
  case isTrue he =>
    subst he
    rw [← hp]
    simp
  case isFalse => rfl

-- An attempt changes, but not whether its playback is confirmed.
theorem Consistent.changeVoice (h : r.Consistent) (hg : r.voiceAttempts[k]? = some a) (ha : a'.Recorded k)
    (hp : a'.canonicalPlaybackConfirmed = a.canonicalPlaybackConfirmed) :
    Consistent { r with voiceAttempts := r.voiceAttempts.insert k a' } := by
  apply h.setVoice (h.voices hg).left ha
  · rw [size_insert_of_some hg]
    exact h.capacity
  · simp [hg, hp]

end Attempts

section Calls

open Except

theorem Consistent.beginText (h : r.Consistent) (hr : r.beginTextRequest k = .ok r') : r'.Consistent := by
  simp only [beginTextRequest, ite_error_eq_ok_iff, ok.injEq] at hr
  obtain ⟨-, hk, hn, hc, rfl⟩ := hr
  apply h.setText hk .pending
  have hc := sessionAttemptCount_lt hc
  rw [size_insert_of_notMem hn]
  omega

theorem Consistent.completeText {result : LabTextResult} (h : r.Consistent)
    (hr : r.completeTextRequest k result = .ok r') : r'.Consistent := by
  simp only [completeTextRequest] at hr
  split at hr
  case h_1 => cases hr
  case h_2 t hg =>
    simp only [ite_error_eq_ok_iff, ok.injEq, not_not, ne_eq, Bool.not_eq_true] at hr
    obtain ⟨hs, hv, rfl⟩ := hr
    obtain ⟨hk, ht⟩ := h.texts hg
    obtain rfl := ht.eq_begin hs
    apply h.setText hk (.completed hv)
    rw [size_insert_of_some hg]
    exact h.capacity

theorem Consistent.failText {code : String} (h : r.Consistent) (hr : r.failTextRequest k code = .ok r') :
    r'.Consistent := by
  simp only [failTextRequest] at hr
  split at hr
  case h_1 => cases hr
  case h_2 t hg =>
    simp only [ite_error_eq_ok_iff, ok.injEq, not_or, not_not, ne_eq, Bool.not_eq_true] at hr
    obtain ⟨⟨hs, hv⟩, rfl⟩ := hr
    obtain ⟨hk, ht⟩ := h.texts hg
    obtain rfl := ht.eq_begin hs
    apply h.setText hk (.failed hv)
    rw [size_insert_of_some hg]
    exact h.capacity

theorem Consistent.beginVoice (h : r.Consistent) (hr : r.beginVoiceRequest k = .ok r') : r'.Consistent := by
  simp only [beginVoiceRequest, ite_error_eq_ok_iff, ok.injEq] at hr
  obtain ⟨-, hk, hn, hc, rfl⟩ := hr
  apply h.setVoice hk .begin
  · have hc := sessionAttemptCount_lt hc
    rw [size_insert_of_notMem hn]
    omega
  · simp [Std.TreeMap.getElem?_eq_none hn, LabVoiceAttemptEvidence.begin]

theorem Consistent.bindVoiceSegment {segment : LabVoiceSegment} (h : r.Consistent)
    (hr : r.bindVoiceSegment k segment = .ok r') : r'.Consistent := by
  simp only [LabSessionEvidenceRecorder.bindVoiceSegment, ite_error_eq_ok_iff] at hr
  obtain ⟨-, hr⟩ := hr
  split at hr
  case h_1 => cases hr
  case h_2 a hg =>
    simp only [ite_error_eq_ok_iff, not_not, ne_eq] at hr
    obtain ⟨hs, hr⟩ := hr
    split at hr
    case h_1 =>
      cases hr
      exact h.changeVoice hg ((h.voices hg).right.bind hs segment) rfl
    case h_2 =>
      split at hr
      case isTrue  => exact ok.inj hr ▸ h
      case isFalse => cases hr
    case h_3 => cases hr

theorem Consistent.completeVoice {result : LabVoiceResult} (h : r.Consistent)
    (hr : r.completeVoiceRequest k result = .ok r') : r'.Consistent := by
  simp only [completeVoiceRequest] at hr
  split at hr
  case h_1 => cases hr
  case h_2 a hg =>
    simp only [ite_error_eq_ok_iff, ok.injEq, not_or, not_not, ne_eq, Bool.not_eq_true] at hr
    obtain ⟨hs, ⟨ht, ho, -, hv⟩, rfl⟩ := hr
    exact h.changeVoice hg ((h.voices hg).right.complete hs ht ho hv) rfl

theorem Consistent.failVoice {code : String} (h : r.Consistent) (hr : r.failVoiceRequest k code = .ok r') :
    r'.Consistent := by
  simp only [failVoiceRequest] at hr
  split at hr
  case h_1 => cases hr
  case h_2 a hg =>
    simp only [ite_error_eq_ok_iff, ok.injEq, not_or, not_not, ne_eq, Bool.not_eq_true] at hr
    obtain ⟨⟨hs, hc⟩, rfl⟩ := hr
    exact h.changeVoice hg ((h.voices hg).right.fail hs hc) rfl

variable {input : LabMediaEvidenceInput}

theorem validateMedia_eq_ok (h : r.validateMedia input = .ok ()) :
    input.elapsedMillis ≤ maxMediaElapsedMillis ∧
    input.kind.requiresRequestSequence = input.requestSequence.isSome ∧
    (∀ k, input.requestSequence = some k → k ∈ r.voiceAttempts) ∧
    (input.kind ≠ .reconnectRestored → (input.requestSequence, input.kind) ∉ mediaKeys r.mediaEvents) ∧
    r.mediaEvents.length < maxMediaEvents := by
  simp only [validateMedia, ite_error_eq_ok_iff, and_true, Nat.not_lt, not_not, ne_eq, Bool.not_eq_true,
    Option.any_eq_false, decide_eq_false_iff_not, List.any_eq_false, decide_eq_true_eq, not_and, Nat.not_le,
    gt_iff_lt, ge_iff_le] at h
  obtain ⟨-, he, hr, hk, hd, hl⟩ := h
  refine ⟨he, hr, hk, fun hn hm => ?_, hl⟩
  simp only [mediaKeys, List.mem_map, List.mem_filter, Prod.mk.injEq] at hm
  obtain ⟨e, ⟨he, -⟩, hr, hk⟩ := hm
  exact hn (hd e he hk hr)

theorem audioStarted_append {events : List LabMediaEvidence} (h : r.audioStarted k = true) :
    audioStarted { r with mediaEvents := r.mediaEvents ++ events } k = true := by
  simp only [audioStarted, List.any_append, Bool.or_eq_true] at h ⊢
  exact .inl h

-- One more event, with what it makes of the attempts.
theorem Consistent.observe {voices : Std.TreeMap Nat LabVoiceAttemptEvidence} (h : r.Consistent)
    (hv : r.validateMedia input = .ok ())
    (hr : ∀ {k a}, voices[k]? = some a → k ≠ 0 ∧ a.Recorded k)
    (hc : r.textAttempts.size + voices.size ≤ maxSessionAttempts) (hm : ∀ {k}, k ∈ r.voiceAttempts → k ∈ voices)
    (hp : ∀ {k}, (∃ a, voices[k]? = some a ∧ a.canonicalPlaybackConfirmed = true) ↔
      ∃ e ∈ r.mediaEvents ++ [input.event], e.kind = .playbackCompleted ∧ e.requestSequence = some k) :
    Consistent { r with voiceAttempts := voices, mediaEvents := r.mediaEvents ++ [input.event] } := by
  obtain ⟨he, hq, hk, hd, hl⟩ := validateMedia_eq_ok hv
  refine { h with
    voices        := hr
    capacity      := hc
    media         := fun {e} hm => ?media
    observed      := fun {e k} hm' hs => ?requests
    mediaNodup    := ?nodup
    mediaLength   := ?length
    confirmed     := hp
    samples       := fun hx => ?samples
    diagnostics   := fun hd => ?diagnostics }
  case media =>
    obtain hm | hm := List.mem_append.mp hm
    case inl => exact h.media hm
    case inr =>
      obtain rfl := List.mem_singleton.mp hm
      exact ⟨he, hq⟩
  case requests =>
    obtain hm' | hm' := List.mem_append.mp hm'
    case inl => exact hm (h.observed hm' hs)
    case inr =>
      obtain rfl := List.mem_singleton.mp hm'
      exact hm (hk k hs)
  case nodup =>
    by_cases hn : input.event.kind = .reconnectRestored
    case pos =>
      rw [mediaKeys_snoc_restored hn]
      exact h.mediaNodup
    case neg =>
      rw [mediaKeys_snoc hn, List.nodup_append_comm]
      exact List.nodup_cons.mpr ⟨hd hn, h.mediaNodup⟩
  case length =>
    rw [List.length_append]
    exact hl
  case samples =>
    obtain ⟨hz, hq, ho, ha⟩ := h.samples hx
    exact ⟨hz, hq, ho, audioStarted_append ha⟩
  case diagnostics =>
    obtain ⟨hz, hi, ha, hs⟩ := h.diagnostics hd
    exact ⟨hz, hi, audioStarted_append ha, hs⟩

theorem Consistent.recordMedia (h : r.Consistent) (hr : r.recordMedia input = .ok r') : r'.Consistent := by
  simp only [LabSessionEvidenceRecorder.recordMedia, ite_error_eq_ok_iff] at hr
  obtain ⟨hk, hr⟩ := hr
  obtain ⟨_, hv, hr⟩ := bind_eq_ok hr
  cases hr
  refine h.observe hv h.voices h.capacity id ?_
  intro k
  rw [h.confirmed]
  simp [LabMediaEvidenceInput.event, hk]

theorem completedPlaybackBinding_eq_ok {b : Nat × Nat} (h : r.completedPlaybackBinding k = .ok b) :
    ∃ a, r.voiceAttempts[k]? = some a ∧ a.status ≠ .failed ∧ a.canonicalTurnSequence.isSome = true := by
  simp only [completedPlaybackBinding, ite_error_eq_ok_iff] at h
  obtain ⟨-, h⟩ := h
  split at h
  case h_1 => cases h
  case h_2 a hg =>
    simp only [ite_error_eq_ok_iff] at h
    obtain ⟨hs, h⟩ := h
    split at h
    case h_1 ht _ => exact ⟨a, hg, hs, by simp [ht]⟩
    case h_2      => cases h

theorem Consistent.recordCanonicalPlayback {turn output : Nat} (h : r.Consistent)
    (hr : r.recordCanonicalPlayback input turn output = .ok r') : r'.Consistent := by
  simp only [LabSessionEvidenceRecorder.recordCanonicalPlayback, ite_error_eq_ok_iff, not_not, ne_eq] at hr
  obtain ⟨hk, hr⟩ := hr
  obtain ⟨_, hv, hr⟩ := bind_eq_ok hr
  split at hr
  case h_1 => cases hr
  case h_2 k hq =>
    obtain ⟨b, hb, hr⟩ := bind_eq_ok hr
    simp only [ite_error_eq_ok_iff] at hr
    obtain ⟨-, hr⟩ := hr
    obtain ⟨a, hg, hs, ht⟩ := completedPlaybackBinding_eq_ok hb
    rw [hg] at hr
    cases hr
    have ha := (h.voices hg).right.confirm hs ht
    have hc : r.textAttempts.size + (r.voiceAttempts.insert k a.confirm).size ≤ maxSessionAttempts := by
      rw [size_insert_of_some hg]
      exact h.capacity
    refine h.observe hv (forall_insert h.voices ⟨(h.voices hg).left, ha⟩) hc ?_ ?_
    · exact fun hm => Std.TreeMap.mem_insert.mpr (.inr hm)
    · intro k'
      simp only [Std.TreeMap.getElem?_insert, Std.LawfulEqCmp.compare_eq_iff_eq, List.mem_append,
        List.mem_singleton, or_and_right, exists_or, ← h.confirmed, exists_eq_left, LabMediaEvidenceInput.event, hk,
        hq, true_and, Option.some.injEq]
      split
      case isTrue he  => simp [he, LabVoiceAttemptEvidence.confirm]
      case isFalse he => simp [he]

-- A playback that is reconciled with the binding that was prepared for it is recorded.
theorem prepareCanonicalPlayback_eq_ok_iff {turn output : Nat} :
    r.prepareCanonicalPlayback input = .ok (turn, output) ↔
      ∃ r', r.recordCanonicalPlayback input turn output = .ok r' := by
  simp only [prepareCanonicalPlayback, LabSessionEvidenceRecorder.recordCanonicalPlayback, ite_error_eq_ok_iff,
    exists_and_left]
  refine and_congr_right fun _ => ⟨fun h => ?mp, fun h => ?mpr⟩
  case mp =>
    obtain ⟨_, hv, h⟩ := bind_eq_ok h
    rw [hv, ok_bind]
    split at h
    case h_1 => cases h
    case h_2 k hq =>
      obtain ⟨a, hg, -⟩ := completedPlaybackBinding_eq_ok h
      simp only [h, hg, ok_bind, ne_eq, not_true_eq_false, if_false]
      exact ⟨_, rfl⟩
  case mpr =>
    obtain ⟨r', h⟩ := h
    obtain ⟨_, hv, h⟩ := bind_eq_ok h
    rw [hv, ok_bind]
    split at h
    case h_1 => cases h
    case h_2 k hq =>
      obtain ⟨b, hb, h⟩ := bind_eq_ok h
      simp only [ite_error_eq_ok_iff, not_not, ne_eq] at h
      exact h.left ▸ hb

theorem Consistent.recordAvSync {input : LabAvSyncEvidenceInput} (h : r.Consistent)
    (hr : r.recordAvSync input = .ok r') : r'.Consistent := by
  simp only [LabSessionEvidenceRecorder.recordAvSync, ite_error_eq_ok_iff] at hr
  obtain ⟨-, hi, hr⟩ := hr
  simp only [not_or, not_not, Nat.not_lt, gt_iff_lt] at hi
  obtain ⟨hz, hq, ho⟩ := hi
  split at hr
  case h_1 => cases hr
  case h_2 a hg =>
    simp only [ite_error_eq_ok_iff, ok.injEq, not_or, Bool.not_eq_true, Bool.not_eq_false', Nat.not_le, ge_iff_le] at hr
    obtain ⟨⟨-, ha⟩, hd, hn, hl, rfl⟩ := hr
    refine { h with
      samples      := fun {x} hx => ?samples
      sampleNodup  := ?nodup
      sampleLength := ?length
      diagnostics  := fun {d} hm => ?diagnostics }
    case samples =>
      obtain hx | hx := List.mem_append.mp hx
      case inl => exact h.samples hx
      case inr =>
        obtain rfl := List.mem_singleton.mp hx
        exact ⟨hz, hq, ho, ha⟩
    case nodup =>
      rw [List.map_append, List.nodup_append_comm]
      refine List.nodup_cons.mpr ⟨?_, h.sampleNodup⟩
      exact sampled_iff.not.mp (Bool.not_eq_true _ ▸ hn)
    case length =>
      rw [List.length_append]
      exact hl
    case diagnostics =>
      obtain ⟨hz, hi, ha, hc⟩ := h.diagnostics hm
      refine ⟨hz, hi, ha, ?_⟩
      -- The sample is of a request that has no diagnostic.
      have hne : d.requestSequence ≠ input.requestSequence := by
        simp only [diagnosed, List.any_eq_false, decide_eq_true_eq] at hd
        exact hd d hm
      rw [← Bool.not_eq_true, completeSamples_iff] at hc ⊢
      intro hall
      refine hc fun m hm => ?_
      obtain hm | hm := List.mem_append.mp (List.map_append ▸ hall m hm)
      case inl => exact hm
      case inr => simp [sampleKey, hne] at hm

theorem Consistent.recordAvSyncDiagnostic {input : LabAvSyncDiagnosticInput} (h : r.Consistent)
    (hr : r.recordAvSyncDiagnostic input = .ok r') : r'.Consistent := by
  simp only [LabSessionEvidenceRecorder.recordAvSyncDiagnostic, ite_error_eq_ok_iff] at hr
  obtain ⟨-, hi, hr⟩ := hr
  simp only [not_or, Option.isNone_iff_eq_none] at hi
  obtain ⟨hz, hn, hi⟩ := hi
  split at hr
  case h_1 => cases hr
  case h_2 a hg =>
    simp only [ite_error_eq_ok_iff, ok.injEq, not_or, Bool.not_eq_true, Bool.not_eq_false', Nat.not_le, ge_iff_le] at hr
    obtain ⟨⟨-, ha⟩, hc, hd, -, rfl⟩ := hr
    refine { h with
      diagnosticKeys := keyed_snoc.mpr ⟨h.diagnosticKeys, hz, ?keys⟩
      diagnostics    := fun {d} hm => ?diagnostics }
    case keys =>
      simpa [diagnosed] using hd
    case diagnostics =>
      obtain hm | hm := List.mem_append.mp hm
      case inl => exact h.diagnostics hm
      case inr =>
        obtain rfl := List.mem_singleton.mp hm
        exact ⟨hn, hi, ha, hc⟩

theorem Consistent.empty {candidate provider : String}
    (h : validGitSha candidate = true ∧ validProviderStateSha256 provider = true) :
    Consistent { candidateSha := candidate, providerStateSha256 := provider } where
  provenance     := h
  texts          := by simp
  voices         := by simp
  capacity       := by simp
  media          := by simp
  observed       := by simp
  mediaNodup     := List.nodup_nil
  mediaLength    := by simp
  confirmed      := by simp
  samples        := by simp
  sampleNodup    := List.nodup_nil
  sampleLength   := by simp
  diagnosticKeys := .nil
  diagnostics    := by simp
  session        := by simp
  sealing        := by simp
  duration       := by simp

theorem elapsedMillis_bounds (started now : Instant) :
    elapsedMillis started now ≠ 0 ∧ elapsedMillis started now ≤ u64Max := by
  simp only [elapsedMillis, u64Max]
  omega

theorem Consistent.beginSession {n : Nat} {role : ParticipantRole} {now : Instant} (h : r.Consistent)
    (hr : r.beginSession n role now = .ok r') : r'.Consistent := by
  simp only [LabSessionEvidenceRecorder.beginSession, ite_error_eq_ok_iff, ok.injEq] at hr
  obtain ⟨hn, rfl⟩ := hr
  refine { Consistent.empty h.provenance with session := fun hs => ?_, sealing := by simp }
  cases hs
  exact ⟨hn, rfl, rfl⟩

theorem Consistent.sealSession (h : r.Consistent) (now : Instant) : (r.sealSession now).Consistent := by
  simp only [LabSessionEvidenceRecorder.sealSession]
  split
  case isFalse => exact h
  case isTrue hs =>
    refine { h with sealing := fun _ => ⟨hs.left, ?_⟩, duration := fun hd => ?_ }
    · obtain ⟨n, hn⟩ := Option.isSome_iff_exists.mp hs.left
      simpa using (h.session hn).right.right
    · obtain ⟨started, -, rfl⟩ := Option.map_eq_some_iff.mp hd
      exact elapsedMillis_bounds started now

theorem bindProvenance_eq_ok {candidate provider : String} (h : r.bindProvenance candidate provider = .ok r') :
    (validGitSha candidate = true ∧ validProviderStateSha256 provider = true) ∧
    r' = { r with candidateSha := candidate, providerStateSha256 := provider } := by
  simp only [LabSessionEvidenceRecorder.bindProvenance, ite_error_eq_ok_iff, ok.injEq, not_or, Bool.not_eq_true,
    Bool.not_eq_false'] at h
  obtain ⟨-, hv, rfl⟩ := h
  exact ⟨hv, rfl⟩

theorem Consistent.bindProvenance {candidate provider : String} (h : r.Consistent)
    (hr : r.bindProvenance candidate provider = .ok r') : r'.Consistent := by
  obtain ⟨hv, rfl⟩ := bindProvenance_eq_ok hr
  exact { h with provenance := hv }

theorem Consistent.call {e : RecorderCall} (h : r.Consistent) (hr : r.call e = .ok r') : r'.Consistent := by
  cases e
  case bindProvenance          => exact h.bindProvenance hr
  case beginSession            => exact h.beginSession hr
  case sealSession now         => exact ok.inj hr ▸ h.sealSession now
  case beginText               => exact h.beginText hr
  case completeText            => exact h.completeText hr
  case failText                => exact h.failText hr
  case beginVoice              => exact h.beginVoice hr
  case bindVoiceSegment        => exact h.bindVoiceSegment hr
  case completeVoice           => exact h.completeVoice hr
  case failVoice               => exact h.failVoice hr
  case recordMedia             => exact h.recordMedia hr
  case recordCanonicalPlayback => exact h.recordCanonicalPlayback hr
  case recordAvSync            => exact h.recordAvSync hr
  case recordAvSyncDiagnostic  => exact h.recordAvSyncDiagnostic hr

end Calls

theorem step_consistent {e : RecorderCall} {o : List (Recording Unit)} (h : r.Consistent)
    (hs : machine.step r e = some (r', o)) : r'.Consistent := by
  simp only [machine] at hs
  split at hs
  case h_1 r₁ hr =>
    cases hs
    exact h.call hr
  case h_2 =>
    cases hs
    exact h

theorem steps_consistent {t : List (Recording Unit)} (h : r.Consistent) (hs : machine.Steps r t r') :
    r'.Consistent :=
  hs.stable step_consistent h

section Snapshot

variable {a : LabVoiceAttemptEvidence} {t : LabTextAttemptEvidence} {snapshot : LabSessionEvidenceSnapshot}
  {now : Instant}

theorem Consistent.texts_keyed (h : r.Consistent) : Keyed (·.requestSequence) r.texts where
  nonzero ht := by
    obtain ⟨k, hk⟩ := mem_map_toList.mp ht
    obtain ⟨hz, hr⟩ := h.texts hk
    exact hr.request ▸ hz
  nodup := nodup_map_toList fun hk => (h.texts hk).right.request

theorem Consistent.voices_keyed (h : r.Consistent) : Keyed (·.requestSequence) r.voices where
  nonzero ha := by
    obtain ⟨k, hk⟩ := mem_map_toList.mp ha
    obtain ⟨hz, hr⟩ := h.voices hk
    exact hr.request ▸ hz
  nodup := nodup_map_toList fun hk => (h.voices hk).right.request

theorem Consistent.recorded_of_mem (h : r.Consistent) (ha : a ∈ r.voices) :
    r.voiceAttempts[a.requestSequence]? = some a ∧ a.Recorded a.requestSequence := by
  obtain ⟨k, hk⟩ := mem_map_toList.mp ha
  have hr := (h.voices hk).right
  exact hr.request ▸ ⟨hk, hr⟩

theorem Consistent.confirmedRequests_eq (h : r.Consistent) :
    confirmedRequests r.voices = mediaRequests .playbackCompleted r.mediaEvents := by
  ext k
  rw [mem_confirmedRequests, mem_mediaRequests, ← h.confirmed]
  constructor
  case mp =>
    rintro ⟨a, ha, hc, rfl⟩
    exact ⟨a, (h.recorded_of_mem ha).left, hc⟩
  case mpr =>
    rintro ⟨a, hg, hc⟩
    exact ⟨a, mem_map_toList.mpr ⟨k, hg⟩, hc, (h.voices hg).right.request⟩

theorem audioStarted_iff : r.audioStarted k = true ↔ k ∈ mediaRequests .audioStarted r.mediaEvents := by
  simp only [audioStarted, List.any_eq_true, decide_eq_true_eq, mem_mediaRequests, and_comm]

-- No attempt is pending.
structure Settled (r : LabSessionEvidenceRecorder) : Prop where
  texts  : ∀ t ∈ r.texts, t.status ≠ .pending
  voices : ∀ a ∈ r.voices, a.status ≠ .pending

-- The evidence that is recorded and meets the rules of its aggregation.
structure Releasable (r : LabSessionEvidenceRecorder) : Prop where
  unbound    : ∀ a ∈ r.voices, a.Unbound
  ordered    : ∀ a ∈ r.voices, a.Ordered
  unobserved : ∀ a ∈ r.voices, a.status = .failed →
    ∀ e ∈ r.mediaEvents, e.requestSequence ≠ some a.requestSequence
  heard      : mediaRequests .playbackCompleted r.mediaEvents ∪ mediaRequests .interruptionStopped r.mediaEvents ⊆
    mediaRequests .audioStarted r.mediaEvents
  exclusive  : Disjoint (mediaRequests .playbackCompleted r.mediaEvents)
    (mediaRequests .interruptionStopped r.mediaEvents)
  referenced : Referenced r.avSyncSamples
  reference  : ∀ x ∈ r.avSyncSamples, x.requestSequence ∈ mediaRequests .playbackCompleted r.mediaEvents →
    x.reference = .webRtcEstimatedPlayoutTimestamp
  affordable : Affordable (r.texts.flatMap (·.usages) ++ r.voices.flatMap (·.usages))

instance : Decidable r.Settled :=
  decidable_of_iff ((∀ t ∈ r.texts, t.status ≠ .pending) ∧ ∀ a ∈ r.voices, a.status ≠ .pending)
    ⟨fun h => ⟨h.1, h.2⟩, fun h => ⟨h.1, h.2⟩⟩

instance : Decidable r.Releasable :=
  decidable_of_iff ((∀ a ∈ r.voices, a.Unbound) ∧ (∀ a ∈ r.voices, a.Ordered) ∧
      (∀ a ∈ r.voices, a.status = .failed → ∀ e ∈ r.mediaEvents, e.requestSequence ≠ some a.requestSequence) ∧
      mediaRequests .playbackCompleted r.mediaEvents ∪ mediaRequests .interruptionStopped r.mediaEvents ⊆
        mediaRequests .audioStarted r.mediaEvents ∧
      Disjoint (mediaRequests .playbackCompleted r.mediaEvents) (mediaRequests .interruptionStopped r.mediaEvents) ∧
      Referenced r.avSyncSamples ∧
      (∀ x ∈ r.avSyncSamples, x.requestSequence ∈ mediaRequests .playbackCompleted r.mediaEvents →
        x.reference = .webRtcEstimatedPlayoutTimestamp) ∧
      Affordable (r.texts.flatMap (·.usages) ++ r.voices.flatMap (·.usages)))
    ⟨fun h => ⟨h.1, h.2.1, h.2.2.1, h.2.2.2.1, h.2.2.2.2.1, h.2.2.2.2.2.1, h.2.2.2.2.2.2.1, h.2.2.2.2.2.2.2⟩,
      fun h => ⟨h.1, h.2, h.3, h.4, h.5, h.6, h.7, h.8⟩⟩

-- A request that is observed has completed.
theorem Consistent.completed_of_observed (h : r.Consistent) (hs : r.Settled)
    (hu : ∀ a ∈ r.voices, a.status = .failed → ∀ e ∈ r.mediaEvents, e.requestSequence ≠ some a.requestSequence)
    {e : LabMediaEvidence} (he : e ∈ r.mediaEvents) (hk : e.requestSequence = some k) : Completed r.voices k := by
  obtain ⟨a, hg⟩ := Option.isSome_iff_exists.mp (Std.TreeMap.isSome_getElem?_iff_mem.mpr (h.observed he hk))
  have ha : a ∈ r.voices := mem_map_toList.mpr ⟨k, hg⟩
  have hr := (h.voices hg).right.request
  refine ⟨a, ha, hr, ?_⟩
  cases hst : a.status
  case completed => rfl
  case pending   => exact absurd hst (hs.voices a ha)
  case failed    => exact absurd (hr ▸ hk) (hu a ha hst e he)

theorem Consistent.admissible (h : r.Consistent) (hs : r.Snapshots snapshot) (hp : r.Settled) (hr : r.Releasable) :
    snapshot.Admissible := by
  have hc : ∀ {k}, k ∈ mediaRequests .audioStarted r.mediaEvents → Completed r.voices k := by
    intro k hk
    obtain ⟨e, he, -, hk⟩ := mem_mediaRequests.mp hk
    exact h.completed_of_observed hp hr.unobserved he hk
  refine {
    textKeys       := hs.texts ▸ h.texts_keyed
    texts          := fun t ht => ?texts
    voiceKeys      := hs.voices ▸ h.voices_keyed
    voices         := fun a ha => ?voices
    media          := fun e he => ?media
    mediaNodup     := hs.media ▸ h.mediaNodup
    accounted      := ?accounted
    samples        := fun x hx => ?samples
    sampleNodup    := hs.samples ▸ h.sampleNodup
    referenced     := hs.samples ▸ hr.referenced
    diagnosticKeys := hs.diagnostics ▸ h.diagnosticKeys
    diagnostics    := fun d hd => ?diagnostics }
  case texts =>
    rw [hs.texts] at ht
    obtain ⟨k, hk⟩ := mem_map_toList.mp ht
    exact (h.texts hk).right.admissible (hp.texts t ht)
  case voices =>
    rw [hs.voices] at ha
    apply ((h.recorded_of_mem ha).right.admissible_iff (hp.voices a ha)).mpr
    exact ⟨hr.unbound a ha, hr.ordered a ha⟩
  case media =>
    rw [hs.media] at he
    rw [hs.media, hs.voices]
    obtain ⟨hl, hq⟩ := h.media he
    refine ⟨hl, hq, fun k hk => h.completed_of_observed hp hr.unobserved he hk, fun k hk hi => ?_⟩
    exact hr.heard (Finset.mem_union_right _ (mem_mediaRequests.mpr ⟨e, he, hi, hk⟩))
  case accounted =>
    have hh := Finset.union_subset_iff.mp hr.heard
    constructor
    all_goals simp only [hs.voices, hs.media, h.confirmedRequests_eq]
    · exact hh.left
    · exact hh.right
    · exact hr.exclusive
  case samples =>
    rw [hs.samples] at hx
    rw [hs.media, hs.voices, h.confirmedRequests_eq]
    obtain ⟨hz, hq, ho, ha⟩ := h.samples hx
    rw [audioStarted_iff] at ha
    exact ⟨hz, hq, ho, hc ha, ha, hr.reference x hx⟩
  case diagnostics =>
    rw [hs.diagnostics] at hd
    rw [hs.media, hs.voices]
    obtain ⟨hn, hi, ha, hf⟩ := h.diagnostics hd
    rw [audioStarted_iff] at ha
    refine ⟨hn, hi, hc ha, ha, fun hm => ?_⟩
    have hm := (LabSessionEvidenceSnapshot.mem_provenRequests.mp hm).right
    rw [hs.samples, ← completeSamples_iff, hf] at hm
    cases hm

theorem Consistent.releasable (h : r.Consistent) (hs : r.Snapshots snapshot) (hp : r.Settled)
    (ha : snapshot.Admissible) (hu : Affordable snapshot.usages) : r.Releasable := by
  have hv {a : LabVoiceAttemptEvidence} (hm : a ∈ r.voices) : a.Unbound ∧ a.Ordered := by
    apply ((h.recorded_of_mem hm).right.admissible_iff (hp.voices a hm)).mp
    exact ha.voices a (hs.voices ▸ hm)
  have hd := ha.accounted
  refine {
    unbound    := fun a hm => (hv hm).left
    ordered    := fun a hm => (hv hm).right
    unobserved := fun a hm hf e he hk => ?unobserved
    heard      := ?heard
    exclusive  := ?exclusive
    referenced := hs.samples ▸ ha.referenced
    reference  := fun x hx hk => ?reference
    affordable := ?affordable }
  case unobserved =>
    obtain ⟨b, hb, hk, hc⟩ := (ha.media e (hs.media ▸ he)).completed _ hk
    have he := ha.eq_of_request hb (hs.voices ▸ hm) hk
    rw [he, hf] at hc
    cases hc
  case heard =>
    rw [← hs.media]
    exact Finset.union_subset (hd.confirmed ▸ hd.playback) hd.interrupted
  case exclusive =>
    rw [← hs.media, ← hd.confirmed]
    exact hd.disjoint
  case reference =>
    apply (ha.samples x (hs.samples ▸ hx)).reference
    rw [hd.confirmed, hs.media]
    exact hk
  case affordable =>
    rw [← hs.texts, ← hs.voices]
    exact hu

theorem Consistent.exists_snapshot (h : r.Consistent) (hs : r.isSealed = true) (now : Instant) :
    ∃ snapshot, r.snapshot now = .ok snapshot ∧ snapshot.sessionDurationMillis ≠ 0 ∧
      snapshot.sessionDurationMillis ≤ u64Max := by
  obtain ⟨hq, hd⟩ := h.sealing hs
  obtain ⟨n, hn⟩ := Option.isSome_iff_exists.mp hq
  obtain ⟨d, hd⟩ := Option.isSome_iff_exists.mp hd
  obtain ⟨role, hr⟩ := Option.isSome_iff_exists.mp (h.session hn).right.left
  simp only [LabSessionEvidenceRecorder.snapshot, hn, hd, hr, Option.orElse_some]
  exact ⟨_, rfl, h.duration hd⟩

theorem Consistent.header (h : r.Consistent) (hs : r.Snapshots snapshot) (hd : snapshot.sessionDurationMillis ≠ 0) :
    validateSnapshotHeader snapshot = .ok () := by
  have hn := (h.session hs.sequence).left
  simp [validateSnapshotHeader, hs.schema, hs.candidate, hs.provider, hs.scope, hn, hd, h.provenance]

theorem length_texts : r.texts.length = r.textAttempts.size := by
  simp [texts, Std.TreeMap.length_toList]

theorem length_voices : r.voices.length = r.voiceAttempts.size := by
  simp [voices, Std.TreeMap.length_toList]

theorem Consistent.size (h : r.Consistent) (hs : r.Snapshots snapshot) : snapshot.size < u32Max := by
  have hc := h.capacity
  have hm := h.mediaLength
  have ha := h.sampleLength
  simp only [LabSessionEvidenceSnapshot.size, hs.texts, hs.voices, hs.media, hs.samples, length_texts, length_voices,
    u32Max, maxSessionAttempts, maxMediaEvents, maxAvSyncSamples, avSyncSamplesPerRequest] at *
  omega

-- The evidence of a sealed session is aggregated exactly when it meets the rules.
theorem Consistent.aggregate_iff (h : r.Consistent) (hs : r.isSealed = true) (hp : r.Settled)
    (digest : SnapshotDigest) (now : Instant) : ∃ snapshot, r.snapshot now = .ok snapshot ∧
      ((∃ aggregate, aggregateOwnerLabSessionEvidence digest [snapshot] = .ok aggregate) ↔ r.Releasable) := by
  obtain ⟨snapshot, hsn, hz, hd⟩ := h.exists_snapshot hs now
  have hs := snapshot_eq_ok hsn
  refine ⟨snapshot, hsn, ?_⟩
  rw [aggregate_singleton_eq_ok_iff (h.size hs) hd]
  constructor
  case mp =>
    rintro ⟨-, ha, hu, -⟩
    exact h.releasable hs hp ha hu
  case mpr =>
    intro hr
    have ha := h.admissible hs hp hr
    refine ⟨h.header hs hz, ha, ?_, ?_, ?_⟩
    · rw [LabSessionEvidenceSnapshot.usages, hs.texts, hs.voices]
      exact hr.affordable
    · rw [hs.playback, hs.derivedPlayback_eq ha]
    · rw [hs.avSync, hs.derivedAvSync_eq ha]

theorem bound_consistent {candidate provider : String} (h : bindProvenance {} candidate provider = .ok r) :
    r.Consistent := by
  obtain ⟨hv, rfl⟩ := bindProvenance_eq_ok h
  exact .empty hv

theorem steps_aggregated {candidate provider : String} {calls : List (Recording Unit)} (digest : SnapshotDigest)
    (hb : bindProvenance {} candidate provider = .ok r) (hc : machine.Steps r calls r') (hs : r'.isSealed = true)
    (hp : r'.Settled) (hr : r'.Releasable) (now : Instant) :
    ∃ snapshot aggregate, r'.snapshot now = .ok snapshot ∧
      aggregateOwnerLabSessionEvidence digest [snapshot] = .ok aggregate := by
  have h := steps_consistent (bound_consistent hb) hc
  obtain ⟨snapshot, hsn, hi⟩ := h.aggregate_iff hs hp digest now
  obtain ⟨aggregate, ha⟩ := hi.mpr hr
  exact ⟨snapshot, aggregate, hsn, ha⟩

end Snapshot

theorem exampleRecorder_bound :
    bindProvenance {} exampleRecorder.candidateSha exampleRecorder.providerStateSha256 = .ok exampleRecorder := by
  rw [bindProvenance, if_neg (by decide), if_neg (by decide +kernel)]
  rfl

theorem steps_aggregated_playoutClock : ∃ calls r, machine.Steps exampleRecorder calls r ∧ r.isSealed = true ∧
    r.Settled ∧ r.Releasable ∧ r.avSyncProven = true ∧
    ∃ snapshot aggregate, r.snapshot 0 = .ok snapshot ∧
      aggregateOwnerLabSessionEvidence (fun _ => "") [snapshot] = .ok aggregate := by
  obtain ⟨calls, r, hc, hd⟩ : ∃ calls r, machine.Steps exampleRecorder calls r ∧
      decide (r.isSealed = true ∧ r.Settled ∧ r.Releasable ∧ r.avSyncProven = true) = true :=
    Machine.Steps.exists_of_replay_any (exampleCalls .webRtcEstimatedPlayoutTimestamp) (by decide +kernel)
  obtain ⟨hs, hp, hr, ha⟩ := of_decide_eq_true hd
  exact ⟨calls, r, hc, hs, hp, hr, ha, steps_aggregated _ exampleRecorder_bound hc hs hp hr 0⟩

-- The clock of a media element is recorded but is no evidence for a release.
theorem not_steps_aggregated_mediaClock : ¬∀ (digest : SnapshotDigest) (candidate provider : String)
    (r r' : LabSessionEvidenceRecorder) (calls : List (Recording Unit)) (now : Instant),
    bindProvenance {} candidate provider = .ok r → machine.Steps r calls r' → r'.isSealed = true → r'.Settled →
    ∃ snapshot aggregate, r'.snapshot now = .ok snapshot ∧
      aggregateOwnerLabSessionEvidence digest [snapshot] = .ok aggregate := by
  intro h
  obtain ⟨calls, r, hc, hd⟩ : ∃ calls r, machine.Steps exampleRecorder calls r ∧
      decide (r.isSealed = true ∧ r.Settled ∧ ∀ snapshot ∈ (r.snapshot 0).toOption,
        (aggregateOwnerLabSessionEvidence (fun _ => "") [snapshot]).isOk = false) = true :=
    Machine.Steps.exists_of_replay_any (exampleCalls .htmlMediaElementCurrentTime) (by decide +kernel)
  obtain ⟨hs, hp, hf⟩ := of_decide_eq_true hd
  obtain ⟨snapshot, aggregate, hn, ha⟩ := h (fun _ => "") _ _ _ r calls 0 exampleRecorder_bound hc hs hp
  have hf := hf snapshot (by rw [hn]; rfl)
  rw [ha] at hf
  cases hf

end LabSessionEvidenceRecorder
