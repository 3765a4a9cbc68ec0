import PersonaRuntime.Integration.GeneratedAudio

namespace GeneratedAudioChunk

def frameBytes (c : GeneratedAudioChunk) : Nat :=
  c.channels * c.sampleFormat.bytesPerSample

-- What a sink asks of a chunk by itself.
structure WellFormed (c : GeneratedAudioChunk) : Prop where
  sampleRateHz : 0 < c.sampleRateHz
  channels     : 0 < c.channels
  nonempty     : c.pcm ≠ []
  frameBytes   : c.frameBytes ≤ u64Max
  frames       : c.pcm.length % c.frameBytes = 0

-- What it asks of the chunk when it holds `bytes` in the format that it has latched.
structure Admitted (rate channels : Option Nat) (bytes : Nat) (c : GeneratedAudioChunk) : Prop where
  wellFormed : c.WellFormed
  rate       : rate.all (· == c.sampleRateHz) = true
  channels   : channels.all (· == c.channels) = true
  length     : bytes + c.pcm.length ≤ maxGeneratedAudioBytes
  duration   : (bytes + c.pcm.length) / c.frameBytes * 1000 / c.sampleRateHz ≤ maxGeneratedAudioDurationMillis

variable {c : GeneratedAudioChunk}

theorem WellFormed.frameBytes_pos (w : c.WellFormed) : 0 < c.frameBytes := by
  have hc := w.channels
  simp only [GeneratedAudioChunk.frameBytes, PcmSampleFormat.bytesPerSample]
  omega

theorem wellFormed_iff : c.WellFormed ↔ (c.sampleRateHz == 0 || c.channels == 0 || c.pcm.isEmpty ||
    !(checkedMul c.channels c.sampleFormat.bytesPerSample).any
      (fun size => 0 < size && c.pcm.length % size == 0)) = false := by
  constructor
  case mp =>
    intro w
    have hf := w.frameBytes
    have hp := w.frameBytes_pos
    have hr := w.sampleRateHz
    have hc := w.channels
    simp only [GeneratedAudioChunk.frameBytes] at hf hp
    have hw := w.frames
    simp only [GeneratedAudioChunk.frameBytes] at hw
    have hz : (c.sampleRateHz == 0) = false := beq_false_of_ne (Nat.ne_of_gt hr)
    have hn : (c.channels == 0) = false := beq_false_of_ne (Nat.ne_of_gt hc)
    have he : c.pcm.isEmpty = false := List.isEmpty_eq_false_iff.mpr w.nonempty
    rw [hz, hn, he, checkedMul, if_pos hf, Option.any_some, hw, decide_eq_true hp]
    rfl
  case mpr =>
    intro h
    simp only [checkedMul] at h
    split at h
    case isFalse => simp at h
    case isTrue hf =>
      simp at h
      exact ⟨by omega, by omega, h.left.right, hf, h.right.right⟩

end GeneratedAudioChunk

-- The length and the duration that both sinks compute for what they would hold.
def prospective (bytes len frame rate : Nat) : Option (Nat × Nat) := do
  let total ← checkedAdd bytes len
  let millis ← (checkedDiv total frame).bind (checkedMul · 1000) |>.bind (checkedDiv · rate)
  return (total, millis)

theorem prospective_within_iff (bytes len : Nat) {frame rate : Nat} (hf : 0 < frame) (hr : 0 < rate) :
    (prospective bytes len frame rate).any (fun p =>
      !(p.1 > maxGeneratedAudioBytes || p.2 > maxGeneratedAudioDurationMillis)) = true ↔
    bytes + len ≤ maxGeneratedAudioBytes ∧
      (bytes + len) / frame * 1000 / rate ≤ maxGeneratedAudioDurationMillis := by
  have hm : maxGeneratedAudioBytes = 16777216 := rfl
  have hu : u64Max = 18446744073709551615 := rfl
  have hd := Nat.div_le_self (bytes + len) frame
  by_cases hl : bytes + len ≤ maxGeneratedAudioBytes
  case pos =>
    have ha : checkedAdd bytes len = some (bytes + len) := checkedAdd_eq_some_iff.mpr ⟨by omega, rfl⟩
    have hk : checkedMul ((bytes + len) / frame) 1000 = some ((bytes + len) / frame * 1000) := by
      rw [checkedMul, if_pos (by omega)]
    simp [prospective, ha, checkedDiv, hf.ne', hr.ne', hk, hl]
  case neg =>
    cases ha : checkedAdd bytes len
    case none => simp [prospective, ha, hl]
    case some total =>
      obtain ⟨-, rfl⟩ := checkedAdd_eq_some_iff.mp ha
      simp only [prospective, ha, Option.bind_eq_bind, Option.bind_some]
      generalize ((checkedDiv (bytes + len) frame).bind (checkedMul · 1000)).bind (checkedDiv · rate) = millis
      cases millis <;> simp [hl]

namespace GeneratedAudioBuffer

variable (b : GeneratedAudioBuffer) (c : GeneratedAudioChunk)

def pushed : GeneratedAudioBuffer where
  pcm          := b.pcm ++ c.pcm
  sampleRateHz := some c.sampleRateHz
  channels     := some c.channels
  sampleFormat := some c.sampleFormat

theorem refused_iff : (c.sampleRateHz == 0 || c.channels == 0 || c.pcm.isEmpty ||
    !(b.sampleRateHz.all (· == c.sampleRateHz) && b.channels.all (· == c.channels) &&
      b.sampleFormat.all (· == c.sampleFormat)) ||
    !(checkedMul c.channels c.sampleFormat.bytesPerSample).any
      (fun size => 0 < size && c.pcm.length % size == 0)) = false ↔
    c.WellFormed ∧ b.sampleRateHz.all (· == c.sampleRateHz) = true ∧
      b.channels.all (· == c.channels) = true := by
  have hf : b.sampleFormat.all (· == c.sampleFormat) = true := by
    cases b.sampleFormat <;> rfl
  rw [GeneratedAudioChunk.wellFormed_iff, hf]
  simp only [Bool.or_eq_false_iff, Bool.and_true, Bool.not_eq_false', Bool.and_eq_true]
  tauto

theorem push_run :
    (c.Admitted b.sampleRateHz b.channels b.pcm.length ∧
      (pushGeneratedAudio c).run b = .ok () (b.pushed c)) ∨
    ¬c.Admitted b.sampleRateHz b.channels b.pcm.length ∧
      (pushGeneratedAudio c).run b = .error .invalidResponse b := by
  have hr := b.refused_iff c
  simp only [pushGeneratedAudio, EStateM.run_bind, EStateM.run_get]
  split
  case isTrue h =>
    refine .inr ⟨fun a => ?_, rfl⟩
    have hn := hr.mpr ⟨a.wellFormed, a.rate, a.channels⟩
    rw [h] at hn
    cases hn
  case isFalse h =>
    have ⟨w, hs, hc⟩ := hr.mp (by simpa using h)
    have hp := prospective_within_iff b.pcm.length c.pcm.length w.frameBytes_pos
      w.sampleRateHz
    have hf : checkedMul c.channels c.sampleFormat.bytesPerSample = some c.frameBytes :=
      if_pos w.frameBytes
    have ha : c.Admitted b.sampleRateHz b.channels b.pcm.length ↔ _ := ⟨fun a => hp.mpr ⟨a.length, a.duration⟩,
      fun h => ⟨w, hs, hc, (hp.mp h).left, (hp.mp h).right⟩⟩
    rw [ha]
    simp only [hf, okOr, EStateM.run_bind, EStateM.check_ok_run, prospective]
    cases ht : checkedAdd b.pcm.length c.pcm.length
    case none => exact .inr ⟨by simp, rfl⟩
    case some total =>
      simp only [EStateM.check_ok_run, Option.bind_eq_bind, Option.bind_some]
      cases hm : ((checkedDiv total c.frameBytes).bind (checkedMul · 1000)).bind (checkedDiv · c.sampleRateHz)
      case none => exact .inr ⟨by simp, rfl⟩
      case some millis =>
        simp only [EStateM.check_ok_run]
        split
        case isTrue h => exact .inr ⟨by simpa [imp_iff_not_or] using h, rfl⟩
        case isFalse h => exact .inl ⟨by simpa using h, rfl⟩

end GeneratedAudioBuffer

namespace GeneratedAudioStreamingSink

variable (s : GeneratedAudioStreamingSink) (c : GeneratedAudioChunk)

def pushed : GeneratedAudioStreamingSink where
  emitted  := s.emitted ++ [c.pcm]
  bytes    := s.bytes + c.pcm.length
  rate     := some c.sampleRateHz
  channels := some c.channels

theorem any_bne (latched : Option Nat) (n : Nat) : latched.any (· != n) = !latched.all (· == n) := by
  cases latched <;> rfl

theorem refused_iff : (c.sampleRateHz == 0 || c.channels == 0 || c.pcm.isEmpty ||
    s.rate.any (· != c.sampleRateHz) || s.channels.any (· != c.channels) ||
    !(checkedMul c.channels c.sampleFormat.bytesPerSample).any
      (fun size => 0 < size && c.pcm.length % size == 0)) = false ↔
    c.WellFormed ∧ s.rate.all (· == c.sampleRateHz) = true ∧ s.channels.all (· == c.channels) = true := by
  rw [GeneratedAudioChunk.wellFormed_iff, any_bne, any_bne]
  simp only [Bool.or_eq_false_iff, Bool.not_eq_false']
  tauto

-- The callback is asked only for a chunk that is admitted, and its error is the error of the push.
theorem push_run (answer : Except ProviderError Unit) :
    (c.Admitted s.rate s.channels s.bytes ∧ (pushGeneratedAudio answer c).run s =
      match answer with
      | .ok ()   => .ok () (s.pushed c)
      | .error e => .error e s) ∨
    ¬c.Admitted s.rate s.channels s.bytes ∧
      (pushGeneratedAudio answer c).run s = .error .invalidResponse s := by
  have hr := s.refused_iff c
  simp only [pushGeneratedAudio, EStateM.run_bind, EStateM.run_get]
  split
  case isTrue h =>
    refine .inr ⟨fun a => ?_, rfl⟩
    have hn := hr.mpr ⟨a.wellFormed, a.rate, a.channels⟩
    rw [h] at hn
    cases hn
  case isFalse h =>
    have ⟨w, hs, hc⟩ := hr.mp (by simpa using h)
    have hp := prospective_within_iff s.bytes c.pcm.length w.frameBytes_pos w.sampleRateHz
    have hf : checkedMul c.channels c.sampleFormat.bytesPerSample = some c.frameBytes :=
      if_pos w.frameBytes
    have ha : c.Admitted s.rate s.channels s.bytes ↔ _ := ⟨fun a => hp.mpr ⟨a.length, a.duration⟩,
      fun h => ⟨w, hs, hc, (hp.mp h).left, (hp.mp h).right⟩⟩
    rw [ha]
    simp only [hf, okOr, EStateM.run_bind, EStateM.check_ok_run, prospective]
    cases ht : checkedAdd s.bytes c.pcm.length
    case none => exact .inr ⟨by simp, rfl⟩
    case some total =>
      obtain ⟨-, rfl⟩ := checkedAdd_eq_some_iff.mp ht
      simp only [EStateM.check_ok_run, Option.bind_eq_bind, Option.bind_some]
      cases hm : ((checkedDiv (s.bytes + c.pcm.length) c.frameBytes).bind (checkedMul · 1000)).bind
        (checkedDiv · c.sampleRateHz)
      case none => exact .inr ⟨by simp, rfl⟩
      case some millis =>
        simp only [EStateM.check_ok_run]
        split
        case isTrue h => exact .inr ⟨by simpa [imp_iff_not_or] using h, rfl⟩
        case isFalse h =>
          refine .inl ⟨by simpa using h, ?_⟩
          cases answer <;> rfl

end GeneratedAudioStreamingSink

-- What holds of everything that a sink retains.
structure WithinLimits (rate channels : Option Nat) (bytes : Nat) : Prop where
  length : bytes ≤ maxGeneratedAudioBytes
  format : bytes ≠ 0 → ∃ r n, rate = some r ∧ channels = some n ∧ 0 < r ∧ 0 < n ∧ n * 2 ≤ u64Max ∧
    bytes % (n * 2) = 0 ∧ bytes / (n * 2) * 1000 / r ≤ maxGeneratedAudioDurationMillis

theorem WithinLimits.new : WithinLimits none none 0 where
  length   := Nat.zero_le _
  format h := absurd rfl h

theorem GeneratedAudioChunk.Admitted.withinLimits {rate channels : Option Nat} {bytes : Nat}
    {c : GeneratedAudioChunk} (a : c.Admitted rate channels bytes) (w : WithinLimits rate channels bytes) :
    WithinLimits (some c.sampleRateHz) (some c.channels) (bytes + c.pcm.length) where
  length := a.length
  format := by
    intro _
    refine ⟨_, _, rfl, rfl, a.wellFormed.sampleRateHz, a.wellFormed.channels, a.wellFormed.frameBytes, ?_,
      a.duration⟩
    have hc : c.pcm.length % (c.channels * 2) = 0 := a.wellFormed.frames
    by_cases hb : bytes = 0
    case pos => simpa [hb] using hc
    case neg =>
      obtain ⟨r, n, -, rfl, -, -, -, hm, -⟩ := w.format hb
      obtain rfl : n = c.channels := by simpa using a.channels
      rw [Nat.add_mod, hm, hc, Nat.zero_mod]

namespace GeneratedAudioBuffer

variable {b : GeneratedAudioBuffer} {c : GeneratedAudioChunk}

-- The buffer is within the limits, and it knows the format of what it holds.
structure Sound (b : GeneratedAudioBuffer) : Prop where
  limits : WithinLimits b.sampleRateHz b.channels b.pcm.length
  format : b.pcm ≠ [] → b.sampleFormat = some .s16Le

theorem push_unchanged (h : ((pushGeneratedAudio c).run b).isOk = false) :
    ((pushGeneratedAudio c).run b).state = b := by
  obtain ⟨-, hr⟩ | ⟨-, hr⟩ := b.push_run c
  · simp [hr] at h
  · rw [hr]
    rfl

theorem Sound.push (w : b.Sound) : ((pushGeneratedAudio c).run b).state.Sound := by
  obtain ⟨a, hr⟩ | ⟨-, hr⟩ := b.push_run c <;> rw [hr]
  case inr => exact w
  refine ⟨?_, fun _ => by cases hf : c.sampleFormat; simp [pushed, hf]⟩
  have hl := a.withinLimits w.limits
  rwa [← List.length_append] at hl

theorem Sound.durationMillis (w : b.Sound) (h : b.pcm ≠ []) :
    ∃ d, b.durationMillis = some d ∧ d ≤ maxGeneratedAudioDurationMillis := by
  have hl : b.pcm.length ≠ 0 := by simpa using h
  have ⟨r, n, hr, hn, hr₀, hn₀, hf, hm, hd⟩ := w.limits.format hl
  have hb : maxGeneratedAudioBytes = 16777216 := rfl
  have hu : u64Max = 18446744073709551615 := rfl
  have hq := Nat.div_le_self b.pcm.length (n * 2)
  have hx := w.limits.length
  have hk : checkedMul (b.pcm.length / (n * 2)) 1000 = some (b.pcm.length / (n * 2) * 1000) :=
    if_pos (by omega)
  have hg : checkedMul n 2 = some (n * 2) := if_pos hf
  refine ⟨_, ?_, hd⟩
  simp [GeneratedAudioBuffer.durationMillis, hr, hn, w.format h, h, hr₀.ne', hn₀.ne',
    PcmSampleFormat.bytesPerSample, hg, hm, hk, checkedDiv]

end GeneratedAudioBuffer

namespace GeneratedAudioStreamingSink

variable {s : GeneratedAudioStreamingSink} {c : GeneratedAudioChunk} {answer : Except ProviderError Unit}

theorem push_unchanged (h : ((pushGeneratedAudio answer c).run s).isOk = false) :
    ((pushGeneratedAudio answer c).run s).state = s := by
  obtain ⟨-, hr⟩ | ⟨-, hr⟩ := s.push_run c answer <;> rw [hr] at h ⊢
  case inr => rfl
  cases answer
  case error => rfl
  case ok    => cases h

theorem limits_push (w : WithinLimits s.rate s.channels s.bytes) :
    let s' := ((pushGeneratedAudio answer c).run s).state
    WithinLimits s'.rate s'.channels s'.bytes := by
  obtain ⟨a, hr⟩ | ⟨-, hr⟩ := s.push_run c answer <;> rw [hr]
  case inr => exact w
  cases answer
  case error => exact w
  case ok    => exact a.withinLimits w

end GeneratedAudioStreamingSink

-- A buffer and a streaming sink that have taken the same chunks.
structure SameAudio (b : GeneratedAudioBuffer) (s : GeneratedAudioStreamingSink) : Prop where
  emitted  : s.emitted.flatten = b.pcm
  bytes    : s.bytes = b.pcm.length
  rate     : s.rate = b.sampleRateHz
  channels : s.channels = b.channels

theorem SameAudio.push {b : GeneratedAudioBuffer} {s : GeneratedAudioStreamingSink} (h : SameAudio b s)
    (c : GeneratedAudioChunk) :
    ((GeneratedAudioStreamingSink.pushGeneratedAudio (.ok ()) c).run s).toExcept =
      ((GeneratedAudioBuffer.pushGeneratedAudio c).run b).toExcept ∧
    SameAudio ((GeneratedAudioBuffer.pushGeneratedAudio c).run b).state
      ((GeneratedAudioStreamingSink.pushGeneratedAudio (.ok ()) c).run s).state := by
  have ha : c.Admitted s.rate s.channels s.bytes ↔ c.Admitted b.sampleRateHz b.channels b.pcm.length := by
    rw [h.rate, h.channels, h.bytes]
  obtain ⟨hs, hr⟩ | ⟨hs, hr⟩ := s.push_run c (.ok ()) <;>
    obtain ⟨hb, hr'⟩ | ⟨hb, hr'⟩ := b.push_run c <;> rw [hr, hr']
  case inl.inr => exact absurd (ha.mp hs) hb
  case inr.inl => exact absurd (ha.mpr hb) hs
  case inr.inr => exact ⟨rfl, h⟩
  case inl.inl =>
    refine ⟨rfl, ?_, ?_, rfl, rfl⟩
    · simp [GeneratedAudioStreamingSink.pushed, GeneratedAudioBuffer.pushed, h.emitted]
    · simp [GeneratedAudioStreamingSink.pushed, GeneratedAudioBuffer.pushed, h.bytes]

theorem pushAll_agree {b : GeneratedAudioBuffer} {s : GeneratedAudioStreamingSink} (h : SameAudio b s)
    (cs : List GeneratedAudioChunk) :
    let r := pushAll GeneratedAudioBuffer.pushGeneratedAudio cs b
    let r' := pushAll (fun c => GeneratedAudioStreamingSink.pushGeneratedAudio c.2 c.1)
      (cs.map fun c => (c, .ok ())) s
    r'.1 = r.1 ∧ SameAudio r.2 r'.2 := by
  induction cs generalizing b s
  case nil          => exact ⟨rfl, h⟩
  case cons c cs hi =>
    have ⟨he, hs⟩ := h.push c
    have ⟨hr, hs⟩ := hi hs
    exact ⟨congr (congrArg _ he) hr, hs⟩

-- What every call keeps holds after all of them.
theorem pushAll_preserves {ε σ κ : Type} {push : κ → EStateM ε σ Unit} {P : σ → Prop}
    (h : ∀ {s c}, P s → P ((push c).run s).state) {cs : List κ} {s : σ} (hp : P s) :
    P (pushAll push cs s).2 := by
  induction cs generalizing s
  case nil          => exact hp
  case cons c cs hi => exact hi (h hp)

theorem sinks_agree :
    (∀ cs, (streamed (cs.map fun c => (c, .ok ()))).1 = (buffered cs).1 ∧
      (streamed (cs.map fun c => (c, .ok ()))).2.emitted.flatten = (buffered cs).2.pcm ∧
      (streamed (cs.map fun c => (c, .ok ()))).2.bytes = (buffered cs).2.pcm.length) ∧
    (∀ cs c, ((GeneratedAudioBuffer.pushGeneratedAudio c).run (buffered cs).2).isOk = false →
      ((GeneratedAudioBuffer.pushGeneratedAudio c).run (buffered cs).2).state = (buffered cs).2) ∧
    (∀ cs c answer,
      ((GeneratedAudioStreamingSink.pushGeneratedAudio answer c).run (streamed cs).2).isOk = false →
      ((GeneratedAudioStreamingSink.pushGeneratedAudio answer c).run (streamed cs).2).state =
        (streamed cs).2) ∧
    (∀ cs, (buffered cs).2.Sound ∧ ((buffered cs).2.pcm ≠ [] →
      ∃ d, (buffered cs).2.durationMillis = some d ∧ d ≤ maxGeneratedAudioDurationMillis)) ∧
    ∀ cs, WithinLimits (streamed cs).2.rate (streamed cs).2.channels (streamed cs).2.bytes := by
  have hb : ∀ cs, (buffered cs).2.Sound := fun cs =>
    pushAll_preserves (P := GeneratedAudioBuffer.Sound) (fun w => w.push) ⟨.new, fun h => absurd rfl h⟩
  refine ⟨fun cs => ?_, fun cs c => GeneratedAudioBuffer.push_unchanged,
    fun cs c answer => GeneratedAudioStreamingSink.push_unchanged,
    fun cs => ⟨hb cs, (hb cs).durationMillis⟩, fun cs => ?_⟩
  · have ⟨hr, hs⟩ := pushAll_agree (b := .new) (s := .new) ⟨rfl, rfl, rfl, rfl⟩ cs
    exact ⟨hr, hs.emitted, hs.bytes⟩
  · exact pushAll_preserves (P := fun s : GeneratedAudioStreamingSink =>
      WithinLimits s.rate s.channels s.bytes) (fun w => GeneratedAudioStreamingSink.limits_push w) .new
