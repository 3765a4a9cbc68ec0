import PersonaRuntime.Integration.Theorems.OpenAiCompatible

-- What is left of a response when it is cut off behind a line

namespace EventProtocol

variable {α ε σ ω : Type} {p : EventProtocol α ε σ ω} {ending ending' : Option ε} {items more : List α} {s : σ}

-- What comes after the item that finishes the stream is not read.
theorem pull_append {text : String} {summary : ω} (h : p.finished s = false)
    (hp : p.pull s ending items = (text, .ok summary)) : p.pull s ending' (items ++ more) = (text, .ok summary) := by
  induction items generalizing s text
  case nil => cases ending <;> simp [pull, close, h] at hp
  case cons item items hi =>
    cases hx : p.interpret item
    case error => simp [pull, hx] at hp
    case ok effect =>
      cases hf : p.finished (effect.update s)
      case true =>
        simp only [pull, hx, hf, if_true] at hp
        simp only [List.cons_append, pull, hx, hf, if_true, hp]
      case false =>
        simp only [pull, hx, hf, Bool.false_eq_true, if_false] at hp
        obtain ⟨ht, hs⟩ := Prod.mk.inj hp
        have hr := hi hf (Prod.ext rfl hs)
        simp only [List.cons_append, pull, hx, hf, Bool.false_eq_true, if_false, hr]
        exact Prod.ext ht rfl

end EventProtocol

namespace LineFraming

variable {max : Nat} {bytes more : List UInt8}

-- A stream that goes on behind a line feed keeps the lines that it has.
theorem frames_append (ht : terminated bytes = true) : frames (bytes ++ more) = frames bytes ++ frames more := by
  induction hn : bytes.length using Nat.strongRecOn generalizing bytes
  case ind n hi =>
    by_cases hb : bytes = []
    case pos => simp [hb, frames_nil]
    case neg =>
      have hm : lineFeed ∈ bytes := by
        by_contra hm
        simp [terminated_tail hm hb] at ht
      obtain ⟨line, rest, rfl, hl⟩ := List.eq_append_cons_of_mem hm
      rw [terminated_line] at ht
      rw [List.append_assoc, List.cons_append, frames_line hl, frames_line hl, List.cons_append]
      rw [hi rest.length (by simp [← hn]; omega) ht rfl]

theorem decodeAll_append (fs gs : List (List UInt8)) : (decodeAll max fs).1 <+: (decodeAll max (fs ++ gs)).1 := by
  induction fs
  case nil => exact List.nil_prefix
  case cons frame fs hi =>
    rw [List.cons_append, decodeAll, decodeAll]
    cases decode max frame
    case ok text => exact (List.prefix_cons_inj text).mpr hi
    case error   => exact List.nil_prefix

end LineFraming

namespace BoundedProviderLineReader

variable {failed failed' : Bool} {pending bytes more : List UInt8}

theorem lines_prefix (h : bytes.getLast? = some 10) :
    (lines failed pending bytes).1 <+: (lines failed' pending (bytes ++ more)).1 := by
  induction bytes generalizing pending
  case nil => cases h
  case cons byte bytes hi =>
    rw [List.cons_append, lines, lines]
    by_cases hb : byte = 10
    case pos =>
      rw [if_pos hb, if_pos hb]
      cases finishLine pending
      case none      => exact List.nil_prefix
      case some line =>
        refine (List.prefix_cons_inj line).mpr ?_
        cases bytes
        case nil  => cases failed <;> exact List.nil_prefix
        case cons => exact hi (by simpa using h)
    case neg =>
      rw [if_neg hb, if_neg hb]
      split
      case isTrue  => exact List.nil_prefix
      case isFalse =>
        cases bytes
        case nil  => exact absurd (Option.some.inj h) hb
        case cons => exact hi (by simpa using h)

end BoundedProviderLineReader

namespace LlmTextStream

variable {body whole : ProviderBody} {fuel : Nat} {text : String} {usage : UsageEvidence}

theorem lines_prefix (hp : body.bytes <+: whole.bytes) (ht : LineFraming.terminated body.bytes = true) :
    body.lines.1 <+: whole.lines.1 := by
  obtain ⟨more, hm⟩ := hp
  rw [ProviderBody.lines, ProviderBody.lines, ← hm]
  cases hl : body.bytes.getLast?
  case none =>
    rw [List.getLast?_eq_none_iff.mp hl]
    cases body.failed <;> exact List.nil_prefix
  case some last =>
    refine BoundedProviderLineReader.lines_prefix ?_
    simpa [LineFraming.terminated, hl, lineFeed] using ht

theorem Follows.drain_extended {σ τ : Type} {stream : LlmTextStream τ} {r : LineReader σ τ}
    {p : EventProtocol String ProviderError σ UsageEvidence} {s : σ} (f : stream.Follows r p)
    (h : p.finished s = false) (hl : body.lines.1 <+: whole.lines.1) (hf : whole.lines.1.length < fuel)
    (hd : stream.drain fuel (r.reading s body.lines.2 body.lines.1) "" = some (text, .ok usage)) :
    stream.drain fuel (r.reading s whole.lines.2 whole.lines.1) "" = some (text, .ok usage) := by
  rw [f.drain_eq h _ (Nat.lt_of_le_of_lt hl.length_le hf), EventProtocol.prepend_empty] at hd
  rw [f.drain_eq h _ hf, EventProtocol.prepend_empty]
  obtain ⟨more, hl⟩ := hl
  rw [← hl]
  exact congrArg some (EventProtocol.pull_append h (Option.some.inj hd))

-- A stream whose body is cut off behind a line fails, or it gives what the whole body gives, whether the
-- read of either body fails or not.
theorem drain_cutOff (anthropic : String → Option AnthropicEvent) (gemini : String → Option GeminiEvent)
    (hp : body.bytes <+: whole.bytes) (ht : LineFraming.terminated body.bytes = true)
    (hf : whole.lines.1.length < fuel) :
    ((Anthropic.textStream anthropic).drain fuel (Anthropic.openStream body) "" = some (text, .ok usage) →
      (Anthropic.textStream anthropic).drain fuel (Anthropic.openStream whole) "" = some (text, .ok usage)) ∧
    ((Gemini.textStream gemini).drain fuel (Gemini.openStream body) "" = some (text, .ok usage) →
      (Gemini.textStream gemini).drain fuel (Gemini.openStream whole) "" = some (text, .ok usage)) := by
  have hl : body.lines.1 <+: whole.lines.1 := lines_prefix hp ht
  constructor
  case left  => exact (Anthropic.follows anthropic).drain_extended (s := ⟨.default, false⟩) rfl hl hf
  case right => exact (Gemini.follows gemini).drain_extended (s := ⟨.default, false, false⟩) rfl hl hf

-- Behind the end of the stream there is a line that is no event.
theorem drain_cutOff_completed :
    (Anthropic.textStream readMessageStop).drain 3
        (Anthropic.openStream (lostAfter ["data: " ++ messageStop, "data: x"])) "" = some ("", .ok .default) ∧
      (Gemini.textStream readInteractionCompleted).drain 4
        (Gemini.openStream (lostAfter ["data: " ++ interactionCompleted, "data: [DONE]", "data: x"])) "" =
          some ("", .ok .default) := by
  constructor
  case left =>
    have hp : (lostAfter ["data: " ++ messageStop]).bytes <+:
        (lostAfter ["data: " ++ messageStop, "data: x"]).bytes := by
      decide +kernel
    exact (drain_cutOff readMessageStop (fun _ => none) hp (by decide +kernel) (by decide +kernel)).1
      (by decide +kernel)
  case right =>
    have hp : (lostAfter ["data: " ++ interactionCompleted, "data: [DONE]"]).bytes <+:
        (lostAfter ["data: " ++ interactionCompleted, "data: [DONE]", "data: x"]).bytes := by
      decide +kernel
    exact (drain_cutOff (fun _ => none) readInteractionCompleted hp (by decide +kernel) (by decide +kernel)).2
      (by decide +kernel)

end LlmTextStream

namespace OpenAiChatStream

variable {fromStr : String → Option ChatChunk} {reads whole : List (List UInt8)} {fuel : Nat}

-- A response that goes on behind a line feed keeps the lines that it has.
theorem bodyLines_prefix (hp : reads.flatten <+: whole.flatten) (ht : LineFraming.terminated reads.flatten = true) :
    bodyLines reads <+: bodyLines whole := by
  obtain ⟨more, hm⟩ := hp
  rw [bodyLines, bodyLines, ← hm, LineFraming.reference, LineFraming.reference, LineFraming.frames_append ht]
  exact LineFraming.decodeAll_append _ _

-- A response that is cut off behind a line fails, or it gives what the whole response gives, however both
-- of them are cut into reads.
theorem consumeResponse_cutOff {text : String} {usage : UsageEvidence}
    (hr : ∀ read ∈ reads, read.length ≤ maxProviderBinaryBodyBytes)
    (hw : ∀ read ∈ whole, read.length ≤ maxProviderBinaryBodyBytes) (hf : (bodyLines whole).length < fuel)
    (hp : reads.flatten <+: whole.flatten) (ht : LineFraming.terminated reads.flatten = true)
    (h : consumeResponse fromStr fuel reads = some (text, .ok usage)) :
    consumeResponse fromStr fuel whole = some (text, .ok usage) := by
  have hl : bodyLines reads <+: bodyLines whole := bodyLines_prefix hp ht
  rw [consumeResponse, drain_reads hr (Nat.lt_of_le_of_lt hl.length_le hf), EventProtocol.prepend_empty] at h
  rw [consumeResponse, drain_reads hw hf, EventProtocol.prepend_empty]
  obtain ⟨rest, hl⟩ := hl
  rw [← hl]
  exact congrArg some (EventProtocol.pull_append rfl (Option.some.inj h))

theorem consumeResponse_cutOff_done :
    consumeResponse readExampleEvent 5 (doneReads ++ [[120]]) =
      some ("Hi", .ok ⟨some 3, some .token, some 1, some .token, none, none⟩) := by
  have h : consumeResponse readExampleEvent 5 doneReads =
      some ("Hi", .ok ⟨some 3, some .token, some 1, some .token, none, none⟩) := by
    rw [consumeResponse, drain_reads (by decide +kernel) (by decide +kernel)]
    decide +kernel
  exact consumeResponse_cutOff (by decide +kernel) (by decide +kernel) (by decide +kernel) (by decide +kernel)
    (by decide +kernel) h

end OpenAiChatStream
