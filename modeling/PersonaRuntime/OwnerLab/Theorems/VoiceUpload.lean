import PersonaRuntime.Integration.Theorems.PcmStream
import PersonaRuntime.OwnerLab.VoiceUpload

open PcmStream

namespace VoiceUpload

variable {receive : List UInt8 → Except LabError Unit}

theorem consume_run (h : TakesSamples receive) : Consumes (consume receive) := by
  intro done bytes s a hb
  have hi : consume receive bytes =
      inPlace receive (fun _ => bytes.getD (bytes.length - 1) 0) bytes := rfl
  rw [hi]
  refine inPlace_run h (fun n hn hl => ?_) a hb
  -- The odd byte is the last one of the buffer.
  rw [show bytes.length - 1 = n by omega]

theorem streamVoiceBody_realigns (h : TakesSamples receive) (r : Reader UInt8) :
    Realigning maxVoiceBodyBytes r.rest (streamVoiceBody receive r) := by
  have hr := readLoop_counted maxVoiceBodyBytes (fun _ => readBytes)
    (fun buffer => do
      let totalBytes := (← get).1 + buffer.length
      modify fun s => (totalBytes, s.2)
      if totalBytes > maxVoiceBodyBytes then
        throw .invalidInput
      onStream (consume receive buffer)) r (consume_run h) (fun _ => by decide) ?_ ?_
  case refine_1 =>
    intro bytes n s s' hl hs
    have hx : ¬ n + bytes.length > maxVoiceBodyBytes := by omega
    simp [hx, onStream_run hs]
  case refine_2 =>
    intro bytes n s _ hl
    exact ⟨.invalidInput, n + bytes.length, by simp [hl]⟩
  obtain ⟨s, hs, hq⟩ | ⟨e, s, hs, hq⟩ := hr
  case inr =>
    simp only [Realigning, streamVoiceBody, EStateM.run_bind, hs]
    exact hq.realigns
  case inl =>
    have hk := hq.realigns
    simp only [Realigning, streamVoiceBody, EStateM.run_bind, hs, EStateM.run_get]
    by_cases hx : s.1 = 0 ∨ s.2.pendingByte.isSome = true <;> simp only [hx, if_true, if_false] <;>
      simpa [hx, isOk, leaves] using hk

end VoiceUpload

-- The three paths, each with its limit, for every way in which the body is read.
theorem PcmStream.paths_realign {provider : List UInt8 → Except ProviderError Unit}
    {upload : List UInt8 → Except LabError Unit} (hp : TakesSamples provider) (hu : TakesSamples upload)
    (r : Reader UInt8) {contentLength : Option Nat}
    (hc : contentLength = none ∨ contentLength = some r.rest.length) (sampleRateHz textChars : Nat) :
    Realigning maxProviderBinaryBodyBytes r.rest (ElevenLabs.streamPcm contentLength provider r) ∧
      Realigning maxProviderBinaryBodyBytes r.rest
        (OpenAiSpeech.streamPcmBody sampleRateHz textChars provider r) ∧
      Realigning VoiceUpload.maxVoiceBodyBytes r.rest (VoiceUpload.streamVoiceBody upload r) :=
  ⟨ElevenLabs.streamPcm_realigns hp hc, OpenAiSpeech.streamPcmBody_realigns hp sampleRateHz textChars r,
    VoiceUpload.streamVoiceBody_realigns hu r⟩

-- Four bytes that come one, two and one at a time.
theorem PcmStream.paths_realign_twoSamples :
    let r : Reader UInt8 := ⟨[1, 2, 3, 4], [1, 2, 1]⟩
    (leaves ((ElevenLabs.streamPcm (some 4) (fun _ => .ok ()) r).run (0, new))).2.pushed.flatten = [1, 2, 3, 4] ∧
    (leaves ((VoiceUpload.streamVoiceBody (fun _ => .ok ()) r).run (0, new))).2.pushed.flatten = [1, 2, 3, 4] := by
  obtain ⟨he, -, hv⟩ := paths_realign (fun _ _ _ => rfl) (fun _ _ _ => rfl)
    ⟨[1, 2, 3, 4], [1, 2, 1]⟩ (.inr rfl) 24000 5
  exact ⟨he.whole (he.succeeds.mpr (by decide)), hv.whole (hv.succeeds.mpr (by decide))⟩
