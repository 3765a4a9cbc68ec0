import PersonaRuntime.Integration.OpenAiCompatible
import PersonaRuntime.Integration.Theorems.LlmStream

namespace EventProtocol

variable {α ε σ ω : Type} {p : EventProtocol α ε σ ω} {ending : Option ε} {items : List α} {s : σ}

-- A reader that is not finished reports the end of a stream in the same way as an end that is incomplete.
theorem pull_incomplete (he : ending = none ∨ ending = some p.incomplete) (h : p.finished s = false) :
    p.pull s ending items = p.pull s none items := by
  induction items generalizing s
  case nil =>
    obtain rfl | rfl := he
    case inl => rfl
    case inr => simp [pull, close, h]
  case cons item items hi =>
    cases hp : p.interpret item
    case error => simp [pull, hp]
    case ok effect =>
      cases hf : p.finished (effect.update s)
      case false => simp only [pull, hp, hf, hi hf]
      case true  => simp only [pull, hp, hf, if_true]

end EventProtocol

namespace LineFraming

variable {max : Nat} {bytes : List UInt8}

theorem decodeAll_ending (fs : List (List UInt8)) :
    (decodeAll max fs).2 = none ∨ (decodeAll max fs).2 = some .invalidResponse := by
  induction fs
  case nil => exact .inl rfl
  case cons frame fs hi =>
    unfold decodeAll
    cases h : decode max frame
    case ok text => exact hi
    case error e =>
      unfold decode at h
      split at h
      case isTrue =>
        cases h
        exact .inr rfl
      case isFalse =>
        split at h <;> cases h
        exact .inr rfl

theorem referenceClosing_ending :
    (referenceClosing max (some .invalidResponse) bytes).2 = none ∨
      (referenceClosing max (some .invalidResponse) bytes).2 = some .invalidResponse := by
  rw [referenceClosing, reference]
  have hd : (decodeAll max (frames bytes)).2 = none ∨ _ := decodeAll_ending (frames bytes)
  cases hd <;> simp only [*]
  case inl => cases terminated bytes <;> simp
  case inr => simp

end LineFraming

namespace OpenAiChatStream

open EventProtocol (prepend prepend_prepend)

variable (fromStr : String → Option ChatChunk)

-- What a reader of the events has seen.
structure Progress where
  usage : UsageEvidence
  done  : Bool

def protocol : EventProtocol String ProviderError Progress UsageEvidence where
  interpret line :=
    match payload line with
    | none         => .ok ⟨"", id⟩
    | some payload =>
      if payload = "[DONE]" then
        .ok ⟨"", ({ · with done := true })⟩
      else
        match fromStr payload with
        | none       => .error .invalidResponse
        | some event => .ok ⟨event.text, fun s => { s with usage := s.usage.withChat event.usage }⟩
  finished s := s.done
  summary s  := s.usage
  incomplete := .invalidResponse

@[simp] theorem protocol_finished {s : Progress} : (protocol fromStr).finished s = s.done := rfl
@[simp] theorem protocol_summary {s : Progress} : (protocol fromStr).summary s = s.usage := rfl

-- The states of the stream when its lines are at `lines`
def reader (lines : OpenAiTextStream) : LineReader Progress OpenAiChatStream where
  reading s _ _   := ⟨lines, s.usage, false⟩
  completed s _ _ := ⟨lines, s.usage, true⟩

variable {fromStr} {lines lines' : OpenAiTextStream} {usage : UsageEvidence} {line : String}

theorem nextChunk_eq : nextChunk fromStr ⟨lines, usage, false⟩ = nextChunkFrom fromStr ⟨lines, usage, false⟩ :=
  rfl

theorem nextChunk_ended (h : lines.nextLine = (.ok none, lines')) :
    nextChunk fromStr ⟨lines, usage, false⟩ = (.error .invalidResponse, ⟨lines', usage, false⟩) := by
  rw [nextChunk_eq, nextChunkFrom]
  split <;> simp_all

theorem nextChunk_failed {e : ProviderError} (h : lines.nextLine = (.error e, lines')) :
    nextChunk fromStr ⟨lines, usage, false⟩ = (.error e, ⟨lines', usage, false⟩) := by
  rw [nextChunk_eq, nextChunkFrom]
  split <;> simp_all

-- A call deals with a line as the protocol says.
theorem nextChunk_line (h : lines.nextLine = (.ok (some line), lines')) :
    nextChunk fromStr ⟨lines, usage, false⟩ =
      (textStream fromStr).next (reader lines') (protocol fromStr) ⟨usage, false⟩ none []
        ((protocol fromStr).interpret line) := by
  rw [nextChunk_eq, nextChunkFrom]
  split
  case h_3 hn =>
    obtain ⟨rfl, rfl⟩ := by simpa [h] using hn
    cases hp : payload line
    case none => simp [protocol, hp, LlmTextStream.next, textStream, reader, nextChunk_eq]
    case some payload =>
      by_cases hd : payload = "[DONE]"
      case pos => simp [protocol, hp, hd, LlmTextStream.next, reader]
      case neg =>
        cases he : fromStr payload
        case none => simp [protocol, hp, hd, he, LlmTextStream.next, reader]
        case some event =>
          by_cases ht : event.text = ""
          case pos => simp [protocol, hp, hd, he, ht, LlmTextStream.next, textStream, reader, nextChunk_eq]
          case neg => simp [protocol, hp, hd, he, ht, LlmTextStream.next, reader]
  all_goals simp_all

-- Only the end of the events finishes the stream, and it has no text.
theorem silent {s : Progress} {effect : StreamEffect Progress} (h : s.done = false)
    (hp : (protocol fromStr).interpret line = .ok effect) (hf : (effect.update s).done = true) : effect.text = "" := by
  simp only [protocol] at hp
  split at hp
  case h_1 =>
    cases hp
    rfl
  case h_2 =>
    split at hp
    case isTrue =>
      cases hp
      rfl
    case isFalse =>
      split at hp <;> cases hp
      simp [h] at hf

-- What the calls give is what the protocol makes of the lines.
theorem drain_yields {r : List String × Option ProviderError} (hy : Yields OpenAiTextStream.nextLine lines r)
    {fuel : Nat} (hf : r.1.length < fuel) {text : String} :
    (textStream fromStr).drain fuel ⟨lines, usage, false⟩ text =
      some (prepend text ((protocol fromStr).pull ⟨usage, false⟩ r.2 r.1)) := by
  induction hy generalizing usage fuel text
  all_goals obtain ⟨fuel, rfl⟩ := Nat.exists_eq_add_one_of_ne_zero (Nat.ne_zero_of_lt hf)
  case ended h =>
    rw [LlmTextStream.Follows.drain_error (congrArg Prod.fst (nextChunk_ended h))]
    simp [EventProtocol.pull, EventProtocol.close, protocol, prepend]
  case failed h =>
    rw [LlmTextStream.Follows.drain_error (congrArg Prod.fst (nextChunk_failed h))]
    simp [EventProtocol.pull, EventProtocol.close, prepend]
  case item line r h _ hi =>
    have hx : (textStream fromStr).nextChunk ⟨_, usage, false⟩ = _ := nextChunk_line h
    cases hp : (protocol fromStr).interpret line
    case error e =>
      rw [hp, LlmTextStream.next] at hx
      rw [LlmTextStream.Follows.drain_error (congrArg Prod.fst hx)]
      simp [EventProtocol.pull, hp, prepend]
    case ok effect =>
      rw [hp, LlmTextStream.next] at hx
      generalize hs : effect.update ⟨usage, false⟩ = s at hx
      obtain ⟨usage', done⟩ := s
      cases done <;> simp only [protocol_finished, if_true, Bool.false_eq_true, if_false] at hx
      case true =>
        have ht := silent rfl hp (by rw [hs])
        rw [LlmTextStream.drain, hx]
        simp [EventProtocol.pull, hp, hs, ht, prepend, reader, textStream]
      case false =>
        by_cases ht : effect.text = ""
        case pos =>
          rw [if_pos ht] at hx
          rw [LlmTextStream.Follows.drain_congr hx, reader, hi (Nat.lt_of_succ_lt hf)]
          simp [EventProtocol.pull, hp, hs, ht]
        case neg =>
          rw [if_neg ht] at hx
          rw [LlmTextStream.drain, hx, reader]
          simp [EventProtocol.pull, hp, hs, hi (Nat.lt_of_succ_lt_succ hf), prepend_prepend]

-- The lines of a response
def bodyLines (reads : List (List UInt8)) : List String :=
  (LineFraming.reference maxProviderStreamLineBytes reads.flatten).1

variable {reads : List (List UInt8)} {fuel : Nat}

theorem drain_reads (hr : ∀ read ∈ reads, read.length ≤ maxProviderBinaryBodyBytes)
    (hf : (bodyLines reads).length < fuel) {text : String} :
    (textStream fromStr).drain fuel (new reads) text =
      some (prepend text ((protocol fromStr).pull ⟨.default, false⟩ none (bodyLines reads))) := by
  have hy := OpenAiTextStream.nextLine_referenceClosing hr
  rw [new, drain_yields hy hf, EventProtocol.pull_incomplete LineFraming.referenceClosing_ending rfl]
  rfl

-- However a response is cut into reads, its text, its usage and its error are those that the protocol
-- makes of the lines of its bytes.
theorem consumeResponse_eq (fromStr : String → Option ChatChunk)
    (hr : ∀ read ∈ reads, read.length ≤ maxProviderBinaryBodyBytes) (hf : (bodyLines reads).length < fuel) :
    consumeResponse fromStr fuel reads =
      some ((protocol fromStr).pull ⟨.default, false⟩ none (bodyLines reads)) := by
  rw [consumeResponse, drain_reads hr hf, EventProtocol.prepend_empty]

def exampleEvent : String :=
  "\x7b\"choices\":[\x7b\"delta\":\x7b\"content\":\"Hi\"\x7d\x7d],\"usage\":" ++
    "\x7b\"prompt_tokens\":3,\"completion_tokens\":1\x7d\x7d"

def readExampleEvent (payload : String) : Option ChatChunk :=
  if payload = exampleEvent then some ⟨[some "Hi"], some ⟨some 3, some 1⟩⟩ else none

-- An event with a text and its usage, and the end of the stream, which is cut within its word
def doneReads : List (List UInt8) :=
  [("data: " ++ exampleEvent ++ "\n\ndata: [DO").toUTF8.toList, "NE]\n".toUTF8.toList]

theorem consumeResponse_eq_done :
    consumeResponse readExampleEvent 4 doneReads =
        some ((protocol readExampleEvent).pull ⟨.default, false⟩ none (bodyLines doneReads)) ∧
      (protocol readExampleEvent).pull ⟨.default, false⟩ none (bodyLines doneReads) =
        ("Hi", .ok ⟨some 3, some .token, some 1, some .token, none, none⟩) :=
  ⟨consumeResponse_eq readExampleEvent (by decide +kernel) (by decide +kernel), by decide +kernel⟩

end OpenAiChatStream
