import PersonaRuntime.Integration.Wav

namespace Wav

variable {bytes pre post payload id : List UInt8} {offset : Nat} {found found' : Found}

-- The steps of the loop.
theorem readChunks_step {next : Nat} (hc : chunkRemains bytes offset = true)
    (hr : readChunk bytes offset found = .ok (next, found')) :
    readChunks bytes offset found = readChunks bytes next found' := by
  rw [readChunks, dif_pos hc]
  split
  case h_1 he => simp [hr] at he
  case h_2 he =>
    rw [hr] at he
    cases he
    rfl

theorem readChunks_end (hc : chunkRemains bytes offset = false) :
    readChunks bytes offset found = .ok found := by
  rw [readChunks, dif_neg (by simp [hc])]

theorem readChunks_abort {e : Abort} (hc : chunkRemains bytes offset = true)
    (hr : readChunk bytes offset found = .error e) : readChunks bytes offset found = .error e := by
  rw [readChunks, dif_pos hc]
  split
  case h_1 he =>
    cases hr.symm.trans he
    rfl
  case h_2 he => simp [hr] at he

-- A call that does not panic.
def Safe {α : Type} (x : Except Abort α) : Prop :=
  x ≠ .error .panicked

namespace Safe

variable {α β : Type}

theorem pure (a : α) : Safe (.ok a) := by
  simp [Safe]

theorem invalid : Safe (invalid : Except Abort α) := by
  simp [Safe, Wav.invalid]

theorem bind {x : Except Abort α} {f : α → Except Abort β} (h : Safe x)
    (hf : ∀ a, x = .ok a → Safe (f a)) : Safe (x >>= f) := by
  cases x
  case error e => simpa [Safe, Except.error_bind] using h
  case ok a    => exact hf a rfl

theorem guard {c : Prop} [Decidable c] {f : β → Except Abort α} {x : Except Abort α}
    (h : ¬c → Safe x) : Safe (if c then Wav.invalid >>= f else x) := by
  split
  case isTrue     => exact invalid.bind nofun
  case isFalse hc => exact h hc

end Safe

theorem index_safe {a b : Nat} (h : a ≤ b) (hb : b ≤ bytes.length) : Safe (index bytes a b) := by
  have ⟨part, hp, _⟩ := List.slice_isSome h hb
  rw [index, hp]
  exact .pure part

theorem readLe_safe {a b : Nat} (h : a ≤ b) (hb : b ≤ bytes.length) : Safe (readLe bytes a b) :=
  (index_safe h hb).bind fun _ _ => .pure _

-- Nothing in the loop is out of range.
theorem readFormat_safe {dataStart chunkSize : Nat} (h : dataStart + chunkSize ≤ bytes.length) :
    Safe (readFormat bytes dataStart chunkSize) := by
  apply Safe.guard
  intro hs
  refine .bind (readLe_safe (by omega) (by omega)) fun _ _ => ?_
  refine .bind (readLe_safe (by omega) (by omega)) fun _ _ => ?_
  refine .bind (readLe_safe (by omega) (by omega)) fun _ _ => ?_
  refine .bind (readLe_safe (by omega) (by omega)) fun _ _ => ?_
  apply Safe.guard
  exact fun _ => .pure _

theorem takeChunk_safe {dataStart chunkSize : Nat} (h : dataStart + chunkSize ≤ bytes.length) :
    Safe (takeChunk bytes id dataStart (dataStart + chunkSize) chunkSize found) := by
  simp only [takeChunk]
  split_ifs
  · exact (readFormat_safe h).bind fun _ _ => .pure _
  · exact (index_safe (by omega) h).bind fun _ _ => .pure _
  · exact .pure found

theorem readChunk_safe (hc : chunkRemains bytes offset = true) : Safe (readChunk bytes offset found) := by
  simp only [chunkRemains, Option.any_eq_true, checkedAdd_eq_some_iff, decide_eq_true_eq] at hc
  refine .bind (index_safe (by omega) (by omega)) fun id _ => ?_
  refine .bind (readLe_safe (by omega) (by omega)) fun chunkSize _ => ?_
  simp only
  split
  case h_1 => exact .invalid
  case h_2 dataEnd he =>
    obtain ⟨he, hd⟩ := Option.filter_eq_some_iff.mp he
    obtain ⟨-, rfl⟩ := checkedAdd_eq_some_iff.mp he
    refine .bind (takeChunk_safe (by simpa using hd)) fun found' _ => ?_
    split
    case h_1 => exact .invalid
    case h_2 => exact .pure _

theorem readChunks_safe : Safe (readChunks bytes offset found) := by
  induction offset, found using readChunks.induct bytes
  case case1 hc e he =>
    rw [readChunks_abort hc he]
    intro h
    cases h
    exact readChunk_safe hc he
  case case2 hc next found' hr _ hi =>
    rw [readChunks_step hc hr]
    exact hi
  case case3 hc =>
    rw [readChunks_end (by simpa using hc)]
    exact .pure _

theorem decodePcmWav_safe (bytes : List UInt8) : Safe (decodePcmWav bytes) := by
  apply Safe.guard
  intro hl
  refine .bind (index_safe (by omega) (by omega)) fun _ _ => ?_
  apply Safe.guard
  intro _
  refine .bind (index_safe (by omega) (by omega)) fun _ _ => ?_
  apply Safe.guard
  intro _
  refine readChunks_safe.bind fun found _ => ?_
  split
  case h_1 =>
    simp only
    split_ifs
    · exact .pure _
    · exact .invalid
  case h_2 => exact .invalid

-- What an accepted file is known to hold.
theorem decodePcmWav_wellFormed {a : AudioInput} (h : decodePcmWav bytes = .ok a) :
    a.isWellFormed = true := by
  simp only [decodePcmWav] at h
  split at h
  case isTrue => cases h
  obtain ⟨_, -, h⟩ := Except.bind_eq_ok h
  split at h
  case isTrue => cases h
  obtain ⟨_, -, h⟩ := Except.bind_eq_ok h
  split at h
  case isTrue => cases h
  obtain ⟨found, -, h⟩ := Except.bind_eq_ok h
  split at h
  case h_2 => cases h
  case h_1 =>
    split at h
    case isFalse => cases h
    case isTrue hw =>
      cases h
      exact hw

-- A chunk of a file, with the byte that makes its size even.
structure Chunk where
  id      : List UInt8
  payload : List UInt8
  pad     : List UInt8
  id_length  : id.length = 4
  bounded    : payload.length ≤ u32Max
  pad_length : pad.length = payload.length % 2

def Chunk.toBytes (c : Chunk) : List UInt8 :=
  c.id ++ leBytes 4 c.payload.length ++ c.payload ++ c.pad

-- What a decoder has no use for.
def Chunk.Other (c : Chunk) : Prop :=
  c.id ≠ fmt ∧ c.id ≠ data

def layout (cs : List Chunk) : List UInt8 :=
  cs.flatMap (·.toBytes)

variable {c : Chunk} {cs : List Chunk}

@[simp] theorem Chunk.length_toBytes :
    c.toBytes.length = 8 + c.payload.length + c.payload.length % 2 := by
  simp [toBytes, c.id_length, c.pad_length]
  omega

theorem index_append {a b : Nat} {part : List UInt8} (ha : a = pre.length) (hb : b = pre.length + part.length) :
    index (pre ++ part ++ post) a b = .ok part := by
  rw [index, List.slice_append ha hb]

theorem chunkRemains_chunk (hb : bytes = pre ++ c.toBytes ++ post) (hl : bytes.length < u64Max) :
    chunkRemains bytes pre.length = true := by
  have hn : bytes.length = pre.length + c.toBytes.length + post.length := by
    rw [hb, List.length_append, List.length_append]
  rw [Chunk.length_toBytes] at hn
  simp only [chunkRemains, Option.any_eq_true, checkedAdd_eq_some_iff, decide_eq_true_eq]
  exact ⟨_, ⟨by omega, rfl⟩, by omega⟩

-- The loop at the beginning of a chunk.
theorem readChunk_chunk (hb : bytes = pre ++ c.toBytes ++ post) (hl : bytes.length < u64Max)
    (ht : takeChunk bytes c.id (pre.length + 8) (pre.length + 8 + c.payload.length) c.payload.length found =
      .ok found') :
    readChunk bytes pre.length found = .ok ((pre ++ c.toBytes).length, found') := by
  have hn : bytes.length = pre.length + c.toBytes.length + post.length := by
    rw [hb, List.length_append, List.length_append]
  rw [Chunk.length_toBytes] at hn
  have hi : index bytes pre.length (pre.length + 4) = .ok c.id := by
    have hs : bytes = pre ++ c.id ++ (leBytes 4 c.payload.length ++ c.payload ++ c.pad ++ post) := by
      simp [hb, Chunk.toBytes]
    rw [hs]
    exact index_append rfl (by rw [c.id_length])
  have hz : readLe bytes (pre.length + 4) (pre.length + 8) = .ok c.payload.length := by
    have hs : bytes = (pre ++ c.id) ++ leBytes 4 c.payload.length ++ (c.payload ++ c.pad ++ post) := by
      simp [hb, Chunk.toBytes]
    have hx : index bytes (pre.length + 4) (pre.length + 8) = .ok (leBytes 4 c.payload.length) := by
      rw [hs]
      exact index_append (by simp [c.id_length]) (by simp [c.id_length])
    have hv : leValue (leBytes 4 c.payload.length) = c.payload.length := by
      have hc := c.bounded
      exact leValue_leBytes _ _ (by simp only [u32Max] at hc; omega)
    rw [readLe, hx, Except.ok_bind, hv]
    rfl
  have he : checkedAdd (pre.length + 8) c.payload.length = some (pre.length + 8 + c.payload.length) :=
    checkedAdd_eq_some_iff.mpr ⟨by omega, rfl⟩
  have hf : (some (pre.length + 8 + c.payload.length)).filter (· ≤ bytes.length) =
      some (pre.length + 8 + c.payload.length) := by
    simp [Option.filter]
    omega
  have hp : checkedAdd (pre.length + 8 + c.payload.length) (c.payload.length % 2) =
      some (pre ++ c.toBytes).length :=
    checkedAdd_eq_some_iff.mpr ⟨by omega, by simp; omega⟩
  simp only [readChunk, hi, hz, Except.ok_bind, he, hf, ht, hp]
  rfl

theorem readChunks_chunk (hb : bytes = pre ++ c.toBytes ++ post) (hl : bytes.length < u64Max)
    (ht : takeChunk bytes c.id (pre.length + 8) (pre.length + 8 + c.payload.length) c.payload.length found =
      .ok found') :
    readChunks bytes pre.length found = readChunks bytes (pre ++ c.toBytes).length found' :=
  readChunks_step (chunkRemains_chunk hb hl) (readChunk_chunk hb hl ht)

theorem readChunks_other (ho : ∀ c ∈ cs, c.Other) (hb : bytes = pre ++ layout cs ++ post)
    (hl : bytes.length < u64Max) :
    readChunks bytes pre.length found = readChunks bytes (pre ++ layout cs).length found := by
  induction cs generalizing pre
  case nil => simp [layout]
  case cons c cs hi =>
    simp only [List.mem_cons, forall_eq_or_imp] at ho
    have hs : layout (c :: cs) = c.toBytes ++ layout cs := by simp [layout]
    have ht : takeChunk bytes c.id (pre.length + 8) (pre.length + 8 + c.payload.length) c.payload.length
        found = .ok found := by
      simp only [takeChunk, ho.left.left, ho.left.right, if_false]
      rfl
    rw [hs] at hb ⊢
    have hc : bytes = pre ++ c.toBytes ++ (layout cs ++ post) := by simp [hb]
    have hr : bytes = (pre ++ c.toBytes) ++ layout cs ++ post := by simp [hb]
    rw [readChunks_chunk hc hl ht, hi ho.right hr]
    simp

-- The two chunks of an encoded file.
def formatPayload (a : AudioInput) : List UInt8 :=
  leBytes 2 1 ++ leBytes 2 a.channels ++ leBytes 4 a.sampleRateHz ++
    leBytes 4 (a.sampleRateHz * (a.channels * 2)) ++ leBytes 2 (a.channels * 2) ++ leBytes 2 16

def formatChunk (a : AudioInput) : Chunk where
  id         := fmt
  payload    := formatPayload a
  pad        := []
  id_length  := rfl
  bounded    := by simp [formatPayload, u32Max]
  pad_length := by simp [formatPayload]

def dataChunk (a : AudioInput) (hl : a.pcm.length ≤ u32Max) (he : a.pcm.length % 2 = 0) : Chunk where
  id         := data
  payload    := a.pcm
  pad        := []
  id_length  := rfl
  bounded    := hl
  pad_length := by simp [he]

-- What an encoder that succeeds has checked, and what it writes.
structure Encoded (a : AudioInput) (wav : List UInt8) : Prop where
  wellFormed : a.isWellFormed = true
  length     : 36 + a.pcm.length ≤ u32Max
  channels   : a.channels * 2 ≤ u16Max
  byteRate   : a.sampleRateHz * (a.channels * 2) ≤ u32Max
  wav_eq     : wav = riff ++ leBytes 4 (36 + a.pcm.length) ++ wave ++ (formatChunk a).toBytes ++
    (data ++ leBytes 4 a.pcm.length ++ a.pcm)

variable {a : AudioInput} {wav : List UInt8} {xs ys zs : List Chunk}

theorem encodeWav_encoded (h : encodeWav a = .ok wav) : Encoded a wav := by
  simp only [encodeWav] at h
  split at h
  case isTrue => cases h
  case isFalse hw =>
    split at h
    case isTrue => cases h
    split at h
    case isTrue => cases h
    case isFalse hc =>
      split at h
      case isTrue => cases h
      case isFalse hb =>
        split at h
        case isTrue => cases h
        case isFalse hr =>
          cases h
          refine ⟨?_, by omega, by omega, by omega, ?_⟩
          · simpa using hw
          · simp [Chunk.toBytes, formatChunk, formatPayload]

theorem readLe_part {mid : List UInt8} {n i j : Nat} (hb : bytes = pre ++ mid ++ post) (hn : n = pre.length)
    (hj : j ≤ mid.length) : readLe bytes (n + i) (n + j) = readLe mid i j := by
  rw [readLe, readLe, index, index, hb, List.slice_part hn hj]

theorem isWellFormed_iff : a.isWellFormed = true ↔ 0 < a.sampleRateHz ∧ 0 < a.channels ∧ a.pcm ≠ [] ∧
    a.channels * 2 ≤ u64Max ∧ a.pcm.length % (a.channels * 2) = 0 := by
  by_cases hc : a.channels * 2 ≤ u64Max
  case pos =>
    simp [AudioInput.isWellFormed, PcmSampleFormat.bytesPerSample, checkedMul, hc]
    tauto
  case neg => simp [AudioInput.isWellFormed, PcmSampleFormat.bytesPerSample, checkedMul, hc]

theorem takeChunk_format (e : Encoded a wav) (hb : bytes = pre ++ (formatChunk a).toBytes ++ post) :
    takeChunk bytes fmt (pre.length + 8) (pre.length + 8 + (formatPayload a).length) (formatPayload a).length
      found = .ok { found with format := some (a.sampleRateHz, a.channels) } := by
  have ⟨hr, hc, _⟩ := isWellFormed_iff.mp e.wellFormed
  have hl : (formatPayload a).length = 16 := by simp [formatPayload]
  have hs : bytes = (pre ++ fmt ++ leBytes 4 16) ++ formatPayload a ++ post := by
    simp [hb, Chunk.toBytes, formatChunk, hl]
  have hp : ∀ {i j}, j ≤ 16 →
      readLe bytes (pre.length + 8 + i) (pre.length + 8 + j) = readLe (formatPayload a) i j :=
    fun hj => readLe_part hs (by simp [fmt]) (by omega)
  have h₁ : readLe bytes (pre.length + 8) (pre.length + 8 + 2) = .ok 1 := hp (i := 0) (by decide)
  have h₂ : readLe (formatPayload a) 2 4 = .ok (leValue (leBytes 2 a.channels)) := rfl
  have h₃ : readLe (formatPayload a) 4 8 = .ok (leValue (leBytes 4 a.sampleRateHz)) := rfl
  have h₄ : readLe (formatPayload a) 14 16 = .ok 16 := rfl
  have hv : leValue (leBytes 2 a.channels) = a.channels := by
    have h := e.channels
    exact leValue_leBytes _ _ (by simp only [u16Max] at h; omega)
  have hw : leValue (leBytes 4 a.sampleRateHz) = a.sampleRateHz := by
    have h := e.byteRate
    have hm := Nat.le_mul_of_pos_right a.sampleRateHz (Nat.mul_pos hc Nat.two_pos)
    exact leValue_leBytes _ _ (by simp only [u32Max] at h; omega)
  simp only [takeChunk, if_true, readFormat, hl, Nat.lt_irrefl, if_false, h₁, hp (i := 2) (j := 4) (by decide),
    hp (i := 4) (j := 8) (by decide), hp (i := 14) (j := 16) (by decide), h₂, h₃, h₄, hv, hw, Except.ok_bind]
  rw [if_neg (by omega)]
  rfl

theorem takeChunk_data {hl : a.pcm.length ≤ u32Max} {he : a.pcm.length % 2 = 0}
    (hb : bytes = pre ++ (dataChunk a hl he).toBytes ++ post) :
    takeChunk bytes data (pre.length + 8) (pre.length + 8 + a.pcm.length) a.pcm.length found =
      .ok { found with pcm := some a.pcm } := by
  have hs : bytes = (pre ++ data ++ leBytes 4 a.pcm.length) ++ a.pcm ++ post := by
    simp [hb, Chunk.toBytes, dataChunk]
  have hi : index bytes (pre.length + 8) (pre.length + 8 + a.pcm.length) = .ok a.pcm := by
    rw [hs]
    exact index_append (by simp [data]) (by simp [data])
  have hd : data ≠ fmt := by decide
  simp only [takeChunk, hd, if_false, if_true, hi, Except.ok_bind]
  rfl

-- A file that holds the two chunks among others decodes to what the chunks say.
theorem decode_layout (e : Encoded a wav) (hl : a.pcm.length ≤ u32Max) (he : a.pcm.length % 2 = 0)
    {size : List UInt8} (hz : size.length = 4) (hx : ∀ c ∈ xs, c.Other) (hy : ∀ c ∈ ys, c.Other)
    (ho : ∀ c ∈ zs, c.Other) (hb : bytes = riff ++ size ++ wave ++ layout xs ++ (formatChunk a).toBytes ++
      layout ys ++ (dataChunk a hl he).toBytes ++ layout zs) (hm : bytes.length < u64Max) :
    decodePcmWav bytes = .ok a := by
  have h₁ : index bytes 0 4 = .ok riff := by
    have hs : bytes = [] ++ riff ++ (size ++ wave ++ layout xs ++ (formatChunk a).toBytes ++ layout ys ++
      (dataChunk a hl he).toBytes ++ layout zs) := by simp [hb]
    rw [hs]
    exact index_append rfl rfl
  have h₂ : index bytes 8 12 = .ok wave := by
    have hs : bytes = (riff ++ size) ++ wave ++ (layout xs ++ (formatChunk a).toBytes ++ layout ys ++
      (dataChunk a hl he).toBytes ++ layout zs) := by simp [hb]
    rw [hs]
    exact index_append (by simp [riff, hz]) (by simp [riff, wave, hz])
  have hn : ¬bytes.length < 12 := by
    simp [hb, riff, wave, hz]
    omega
  have hp : (riff ++ size ++ wave).length = 12 := by simp [riff, wave, hz]
  have b₁ : bytes = riff ++ size ++ wave ++ layout xs ++
      ((formatChunk a).toBytes ++ (layout ys ++ ((dataChunk a hl he).toBytes ++ layout zs))) := by simp [hb]
  have b₂ : bytes = (riff ++ size ++ wave ++ layout xs) ++ (formatChunk a).toBytes ++
      (layout ys ++ ((dataChunk a hl he).toBytes ++ layout zs)) := by simp [hb]
  have b₃ : bytes = (riff ++ size ++ wave ++ layout xs ++ (formatChunk a).toBytes) ++ layout ys ++
      ((dataChunk a hl he).toBytes ++ layout zs) := by simp [hb]
  have b₅ := hb.trans (List.append_nil _).symm
  have hr : readChunks bytes 12 ⟨none, none⟩ = .ok ⟨some (a.sampleRateHz, a.channels), some a.pcm⟩ := by
    rw [← hp, readChunks_other hx b₁ hm, readChunks_chunk b₂ hm (takeChunk_format e b₂),
      readChunks_other hy b₃ hm, readChunks_chunk hb hm (takeChunk_data hb), readChunks_other ho b₅ hm, ← hb]
    apply readChunks_end
    simp only [chunkRemains, checkedAdd]
    split <;> simp
  have ha : ({ pcm := a.pcm, sampleRateHz := a.sampleRateHz, channels := a.channels, sampleFormat := .s16Le } :
      AudioInput) = a := by
    cases a with | mk pcm rate channels format => cases format; rfl
  simp only [decodePcmWav, hn, if_false, h₁, h₂, hr, Except.ok_bind, ha, e.wellFormed]
  rfl

-- `isize::MAX`, the length that no slice exceeds.
def isizeMax : Nat :=
  9223372036854775807

-- A file with chunks after its header, between its two chunks and at its end.
def inserted (wav : List UInt8) (xs ys zs : List Chunk) : List UInt8 :=
  wav.take 12 ++ layout xs ++ (wav.drop 12).take 24 ++ layout ys ++ wav.drop 36 ++ layout zs

theorem decode_inserted (h : encodeWav a = .ok wav) (hx : ∀ c ∈ xs, c.Other) (hy : ∀ c ∈ ys, c.Other)
    (ho : ∀ c ∈ zs, c.Other) (hm : (inserted wav xs ys zs).length ≤ isizeMax) :
    decodePcmWav (inserted wav xs ys zs) = .ok a := by
  have e := encodeWav_encoded h
  have hl : a.pcm.length ≤ u32Max := Nat.le_trans (Nat.le_add_left _ _) e.length
  have he : a.pcm.length % 2 = 0 := by
    have ⟨_, _, _, _, hd⟩ := isWellFormed_iff.mp e.wellFormed
    exact Nat.mod_eq_zero_of_dvd <| Nat.dvd_trans (Nat.dvd_mul_left 2 _) (Nat.dvd_of_mod_eq_zero hd)
  let size := leBytes 4 (36 + a.pcm.length)
  have hw : wav = (riff ++ size ++ wave) ++ ((formatChunk a).toBytes ++ (dataChunk a hl he).toBytes) := by
    simp [e.wav_eq, size, Chunk.toBytes, dataChunk]
  have hh : (riff ++ size ++ wave).length = 12 := by simp [riff, wave, size]
  have hf : (formatChunk a).toBytes.length = 24 := by simp [formatChunk, formatPayload]
  have h₁ : wav.take 12 = riff ++ size ++ wave := by rw [hw, List.take_left' hh]
  have h₂ : wav.drop 12 = (formatChunk a).toBytes ++ (dataChunk a hl he).toBytes := by
    rw [hw, List.drop_left' hh]
  have h₃ : wav.drop 36 = (dataChunk a hl he).toBytes := by
    rw [show 36 = 12 + 24 from rfl, ← List.drop_drop, h₂, List.drop_left' hf]
  have hi : inserted wav xs ys zs = riff ++ size ++ wave ++ layout xs ++ (formatChunk a).toBytes ++ layout ys ++
      (dataChunk a hl he).toBytes ++ layout zs := by
    rw [inserted, h₁, h₂, h₃, List.take_left' hf]
  have hu : isizeMax < u64Max := by decide
  exact decode_layout e hl he (length_leBytes _ _) hx hy ho hi (by omega)

theorem length_encoded (e : Encoded a wav) : wav.length = 44 + a.pcm.length := by
  rw [e.wav_eq]
  simp [riff, wave, data, formatChunk, formatPayload]
  omega

theorem wav_codec :
    (∀ a wav, encodeWav a = .ok wav → decodePcmWav wav = .ok a) ∧
    (∀ bytes, decodePcmWav bytes ≠ .error .panicked) ∧
    (∀ bytes a, decodePcmWav bytes = .ok a → 0 < a.sampleRateHz ∧ 0 < a.channels ∧ a.pcm ≠ [] ∧
      a.pcm.length % (a.channels * a.sampleFormat.bytesPerSample) = 0) ∧
    ∀ a wav xs ys zs, encodeWav a = .ok wav → (∀ c ∈ xs, c.Other) → (∀ c ∈ ys, c.Other) →
      (∀ c ∈ zs, c.Other) → (inserted wav xs ys zs).length ≤ isizeMax →
      decodePcmWav (inserted wav xs ys zs) = .ok a := by
  refine ⟨fun a wav h => ?_, decodePcmWav_safe, fun bytes a h => ?_, fun a wav xs ys zs => decode_inserted⟩
  · have e := encodeWav_encoded h
    have hd : wav.drop 36 = (wav.drop 12).drop 24 := by rw [List.drop_drop]
    have hi : inserted wav [] [] [] = wav := by
      simp only [inserted, layout, List.flatMap_nil, List.append_nil]
      rw [List.append_assoc, hd, List.take_append_drop, List.take_append_drop]
    have hl : (inserted wav [] [] []).length ≤ isizeMax := by
      have hu : u32Max + 8 ≤ isizeMax := by decide
      have hn := e.length
      rw [hi, length_encoded e]
      omega
    exact hi ▸ decode_inserted h (by simp) (by simp) (by simp) hl
  · have ⟨hr, hc, hp, _, hd⟩ := isWellFormed_iff.mp (decodePcmWav_wellFormed h)
    exact ⟨hr, hc, hp, hd⟩

def oneFrame : AudioInput :=
  ⟨[1, 2], 8000, 1, .s16Le⟩

def listChunk : Chunk :=
  ⟨[0x4C, 0x49, 0x53, 0x54], [7], [0], rfl, by decide, rfl⟩

-- A chunk of a kind that the decoder does not know in every place.
theorem wav_codec_oneFrame : ∃ wav, encodeWav oneFrame = .ok wav ∧ decodePcmWav wav = .ok oneFrame ∧
    decodePcmWav (inserted wav [listChunk] [listChunk] [listChunk]) = .ok oneFrame := by
  have ho : ∀ c ∈ [listChunk], c.Other := by
    intro c hc
    obtain rfl := List.mem_singleton.mp hc
    exact ⟨by decide, by decide⟩
  obtain ⟨wav, hw⟩ : ∃ wav, encodeWav oneFrame = .ok wav := ⟨_, rfl⟩
  have hn : wav.length = 46 := length_encoded (encodeWav_encoded hw)
  have hl : (inserted wav [listChunk] [listChunk] [listChunk]).length ≤ isizeMax := by
    simp [inserted, layout, listChunk, hn, isizeMax]
  have ⟨hr, _, _, hi⟩ := wav_codec
  exact ⟨wav, hw, hr _ wav hw, hi _ wav [listChunk] [listChunk] [listChunk] hw ho ho ho hl⟩

end Wav
