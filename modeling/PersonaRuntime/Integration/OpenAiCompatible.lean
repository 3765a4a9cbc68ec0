import PersonaRuntime.Integration.Theorems.LineFraming

structure ChatUsage where
  promptTokens     : Option Nat
  completionTokens : Option Nat
deriving DecidableEq

-- An event as `serde_json` reads it. Of its choices there is what their deltas contain.
structure ChatChunk where
  choices : List (Option String)
  usage   : Option ChatUsage
deriving DecidableEq

def ChatChunk.text (event : ChatChunk) : String :=
  String.join ((event.choices.filterMap id).filter (· ≠ ""))

def UsageEvidence.withChat (usage : UsageEvidence) : Option ChatUsage → UsageEvidence
  | none       => usage
  | some event => (usage.withInput event.promptTokens).withOutput event.completionTokens

namespace OpenAiTextStream

-- Every line that is given takes some of the bytes that are left.
theorem left_nextLine {s s' : OpenAiTextStream} {line : String} (h : s.nextLine = (.ok (some line), s')) :
    s'.left.length < s.left.length := by
  induction s using nextLine.induct
  case case1 s hc newline lineBytes hlong =>
    rw [nextLine, dif_pos hc] at h
    simp only [newline, lineBytes] at hlong
    simp only [if_pos hlong] at h
    cases h
  case case2 s hc newline lineBytes hlong n hn =>
    rw [nextLine, dif_pos hc] at h
    simp only [lineBytes, hn, Option.getD_some] at hlong
    simp only [newline] at hn
    simp only [hn, Option.getD_some, if_neg hlong] at h
    obtain ⟨-, rfl⟩ := Prod.mk.inj h
    simp only [left, List.length_append, List.length_drop, List.length_nil]
    omega
  case case3 s hc newline lineBytes hlong pending hn hi =>
    simp only [lineBytes, hn, Option.getD_none] at hlong
    simp only [pending, lineBytes, hn, Option.getD_none, List.take_length] at hi
    rw [nextLine, dif_pos hc] at h
    simp only [newline] at hn
    simp only [hn, Option.getD_none, List.take_length, if_neg hlong] at h
    simpa [left] using hi h
  case case4 s hc hr =>
    have hx : s.nextLine.1 = .error .invalidResponse := nextLine_closed hc hr
    rw [h] at hx
    cases hx
  case case5 s hc hr he =>
    rw [nextLine_ended hc hr, if_pos he] at h
    cases h
  case case6 s hc hr he hlong =>
    rw [nextLine_ended hc hr, if_neg he, if_pos hlong] at h
    cases h
  case case7 s hc hr he hlong =>
    rw [nextLine_ended hc hr, if_neg he, if_neg hlong] at h
    obtain ⟨-, rfl⟩ := Prod.mk.inj h
    have hp : s.pending ≠ [] := fun hp => he (by simp [hp])
    rw [left_spent hc, hr]
    simpa [left] using List.length_pos_iff.mpr hp
  case case8 s hc read reads hr hlong =>
    rw [nextLine, dif_neg hc] at h
    split at h
    case h_3 hr' =>
      obtain ⟨rfl, rfl⟩ := by simpa [hr] using hr'
      rw [if_pos hlong] at h
      cases h
    all_goals simp [hr] at *
  case case9 s hc read reads hr hlong hi =>
    rw [nextLine_read hc hr hlong] at h
    have hl := hi h
    rw [left_spent hc, hr]
    simpa [left] using hl

end OpenAiTextStream

-- An `OpenAiTextStream` with what it keeps beside its lines.
structure OpenAiChatStream where
  lines     : OpenAiTextStream
  usage     : UsageEvidence
  completed : Bool
deriving DecidableEq

namespace OpenAiChatStream

variable (fromStr : String → Option ChatChunk)

-- The loop of `next_chunk`, where nothing is cancelled.
def nextChunkFrom (stream : OpenAiChatStream) : Except ProviderError (Option String) × OpenAiChatStream :=
  match h : stream.lines.nextLine with
  | (.error e, lines)        => (.error e, { stream with lines })
  | (.ok none, lines)        => (.error .invalidResponse, { stream with lines })
  | (.ok (some line), lines) =>
    have := OpenAiTextStream.left_nextLine h
    match payload line with
    | none         => nextChunkFrom { stream with lines }
    | some payload =>
      if payload = "[DONE]" then
        (.ok none, { stream with lines, completed := true })
      else
        match fromStr payload with
        | none       => (.error .invalidResponse, { stream with lines })
        | some event =>
          let usage := stream.usage.withChat event.usage
          if event.text = "" then
            nextChunkFrom { stream with lines, usage }
          else
            (.ok (some event.text), { stream with lines, usage })
termination_by stream.lines.left.length

def nextChunk (stream : OpenAiChatStream) : Except ProviderError (Option String) × OpenAiChatStream :=
  if stream.completed then (.ok none, stream) else nextChunkFrom fromStr stream

def textStream : LlmTextStream OpenAiChatStream where
  nextChunk := nextChunk fromStr
  usage     := (·.usage)

def new (reads : List (List UInt8)) : OpenAiChatStream where
  lines     := .new reads
  usage     := .default
  completed := false

-- `consume_response`, for at most `fuel` chunks.
def consumeResponse (fuel : Nat) (reads : List (List UInt8)) : Option (String × Except ProviderError UsageEvidence) :=
  (textStream fromStr).drain fuel (new reads) ""

end OpenAiChatStream
