import PersonaRuntime.Integration.Anthropic
import PersonaRuntime.Integration.Gemini
import PersonaRuntime.Machine.EventStream
import PersonaRuntime.Machine.Mutation

-- The states of a stream that reads the lines of a protocol, before it is completed and after that.
structure LineReader (σ τ : Type) where
  reading   : σ → Option ProviderError → List String → τ
  completed : σ → Option ProviderError → List String → τ

-- What a call of `next_chunk` makes of a line.
def LlmTextStream.next {σ τ : Type} (stream : LlmTextStream τ) (r : LineReader σ τ)
    (p : EventProtocol String ProviderError σ UsageEvidence) (s : σ) (ending : Option ProviderError)
    (lines : List String) :
    Except ProviderError (StreamEffect σ) → Except ProviderError (Option String) × τ
  | .error e   => (.error e, r.reading s ending lines)
  | .ok effect =>
    if p.finished (effect.update s) then
      (.ok none, r.completed (effect.update s) ending lines)
    else if effect.text = "" then
      stream.nextChunk (r.reading (effect.update s) ending lines)
    else
      (.ok (some effect.text), r.reading (effect.update s) ending lines)

-- A stream that reads its lines as the protocol says.
structure LlmTextStream.Follows {σ τ : Type} (stream : LlmTextStream τ) (r : LineReader σ τ)
    (p : EventProtocol String ProviderError σ UsageEvidence) : Prop where
  ended  : ∀ {s ending}, p.finished s = false →
    (stream.nextChunk (r.reading s ending [])).1 = .error (ending.getD p.incomplete)
  next   : ∀ {s ending line lines}, p.finished s = false →
    stream.nextChunk (r.reading s ending (line :: lines)) = stream.next r p s ending lines (p.interpret line)
  usage  : ∀ {s ending lines}, stream.usage (r.completed s ending lines) = p.summary s
  silent : ∀ {s line effect}, p.finished s = false → p.interpret line = .ok effect →
    p.finished (effect.update s) = true → effect.text = ""

namespace LlmTextStream.Follows

variable {σ τ : Type} {stream : LlmTextStream τ} {r : LineReader σ τ}
variable {p : EventProtocol String ProviderError σ UsageEvidence} {s : σ} {ending : Option ProviderError}

open EventProtocol (prepend prepend_prepend)

theorem drain_congr {t t' : τ} {fuel : Nat} {text : String} (h : stream.nextChunk t = stream.nextChunk t') :
    stream.drain fuel t text = stream.drain fuel t' text := by
  cases fuel <;> simp only [drain, h]

theorem drain_error {t : τ} {fuel : Nat} {text : String} {e : ProviderError}
    (h : (stream.nextChunk t).1 = .error e) : stream.drain (fuel + 1) t text = some (text, .error e) := by
  rw [drain]
  generalize stream.nextChunk t = r at h
  obtain ⟨result, t'⟩ := r
  obtain rfl : result = .error e := h
  rfl

-- What the calls give is what the protocol has for a reader that stops.
theorem drain_eq (f : stream.Follows r p) (h : p.finished s = false) (lines : List String) {fuel : Nat}
    (hf : lines.length < fuel) {text : String} :
    stream.drain fuel (r.reading s ending lines) text = some (prepend text (p.pull s ending lines)) := by
  induction lines generalizing s fuel text
  all_goals obtain ⟨fuel, rfl⟩ := Nat.exists_eq_add_one_of_ne_zero (Nat.ne_zero_of_lt hf)
  case nil =>
    rw [drain_error (f.ended h)]
    cases ending <;> simp [EventProtocol.pull, EventProtocol.close, h, prepend]
  case cons line lines hi =>
    have hx : stream.nextChunk (r.reading s ending (line :: lines)) = _ := f.next h
    cases hp : p.interpret line
    case error e =>
      rw [hp, LlmTextStream.next] at hx
      rw [drain_error (congrArg Prod.fst hx)]
      simp [EventProtocol.pull, hp, prepend]
    case ok effect =>
      rw [hp, LlmTextStream.next] at hx
      cases hn : p.finished (effect.update s) <;> simp only [hn, if_true, Bool.false_eq_true, if_false] at hx
      case true =>
        have ht := f.silent h hp hn
        simp [drain, hx, f.usage, EventProtocol.pull, hp, hn, ht, prepend]
      case false =>
        by_cases ht : effect.text = ""
        case pos =>
          rw [if_pos ht] at hx
          rw [drain_congr hx, hi hn (Nat.lt_of_succ_lt hf)]
          simp [EventProtocol.pull, hp, hn, ht]
        case neg =>
          rw [if_neg ht] at hx
          rw [drain, hx]
          simp [EventProtocol.pull, hp, hn, hi hn (Nat.lt_of_succ_lt_succ hf), prepend_prepend]

end LlmTextStream.Follows

namespace Anthropic

variable (fromStr : String → Option AnthropicEvent)

-- What a reader of the events has seen.
structure Progress where
  usage   : UsageEvidence
  sawStop : Bool

def Progress.withUsage (s : Progress) (usage : AnthropicUsage) : Progress :=
  { s with usage := (s.usage.withInput usage.inputTokens).withOutput usage.outputTokens }

def Progress.withOutput (s : Progress) (usage : AnthropicUsage) : Progress :=
  { s with usage := s.usage.withOutput usage.outputTokens }

def EventDelta.given (delta : EventDelta) : String :=
  match delta.text with
  | none      => ""
  | some text => if delta.deltaType = "text_delta" ∧ text ≠ "" then text else ""

def interpretEvent (event : AnthropicEvent) : Except ProviderError (StreamEffect Progress) :=
  match event.eventType with
  | "message_start" =>
    match event.message with
    | none       => .error .invalidResponse
    | some usage => .ok ⟨"", (·.withUsage usage)⟩
  | "content_block_delta" =>
    match event.delta with
    | none       => .error .invalidResponse
    | some delta => .ok ⟨EventDelta.given delta, id⟩
  | "message_delta" =>
    match event.usage with
    | none       => .ok ⟨"", id⟩
    | some usage => .ok ⟨"", (·.withOutput usage)⟩
  | "message_stop" => .ok ⟨"", ({ · with sawStop := true })⟩
  | "error"        => .error (mapStreamError event.error)
  | _              => .ok ⟨"", id⟩

def protocol : EventProtocol String ProviderError Progress UsageEvidence where
  interpret line :=
    match payload line with
    | none         => .ok ⟨"", id⟩
    | some payload =>
      match fromStr payload with
      | none       => .error .invalidResponse
      | some event => interpretEvent event
  finished s := s.sawStop
  summary s  := s.usage
  incomplete := .invalidResponse

def lineReader : LineReader Progress AnthropicTextStream where
  reading s ending lines   := ⟨lines, ending, s.usage, false⟩
  completed s ending lines := ⟨lines, ending, s.usage, true⟩

-- The response with what its reader has seen.
def response (s : Progress) (text : String) : AnthropicResponse :=
  ⟨text, s.usage, s.sawStop⟩

theorem applyEvent_eq (event : AnthropicEvent) (s : Progress) (text : String) :
    applyEvent event (response s text) =
      (interpretEvent event).map fun effect => response (effect.update s) (text ++ effect.text) := by
  obtain ⟨eventType, message, delta, usage, error⟩ := event
  simp only [applyEvent, interpretEvent]
  split
  case h_1 =>
    cases message
    case none => rfl
    case some => simp [okOr, Except.map, response, Progress.withUsage]
  case h_2 =>
    cases delta
    case none => rfl
    case some delta =>
      obtain ⟨deltaType, given⟩ := delta
      cases given
      case none => simp [okOr, Except.ok_bind, Except.map, EventDelta.given, response]; rfl
      case some given =>
        by_cases h : deltaType = "text_delta" ∧ given ≠ ""
        all_goals
          simp [okOr, Except.ok_bind, Except.map, EventDelta.given, response, h]
          rfl
  case h_3 => cases usage <;> simp [Except.map, response, Progress.withOutput]
  all_goals simp [Except.map, response]

theorem follows : (textStream fromStr).Follows lineReader (protocol fromStr) where
  ended h := rfl
  usage := rfl
  next {s ending line lines} h := by
    have h : s.sawStop = false := h
    have hq : (textStream fromStr).nextChunk (lineReader.reading s ending (line :: lines)) =
      nextChunkFrom fromStr (lineReader.reading s ending (line :: lines)) (line :: lines) := rfl
    rw [hq, nextChunkFrom]
    simp only [protocol, lineReader]
    cases hp : payload line
    case none => simp [LlmTextStream.next, h, textStream, nextChunk]
    case some payload =>
      cases he : fromStr payload
      case none => simp [LlmTextStream.next, he]
      case some event =>
        simp only [he]
        obtain ⟨eventType, message, delta, usage, error⟩ := event
        simp only [interpretEvent]
        split
        case h_1 =>
          cases message <;> simp [LlmTextStream.next, h, textStream, nextChunk, Progress.withUsage]
        case h_2 =>
          cases delta
          case none => simp [LlmTextStream.next]
          case some delta =>
            obtain ⟨deltaType, given⟩ := delta
            cases given
            case none => simp [LlmTextStream.next, h, textStream, nextChunk, EventDelta.given]
            case some given =>
              by_cases hg : deltaType = "text_delta" ∧ given ≠ ""
              case pos => simp [LlmTextStream.next, h, EventDelta.given, hg]
              case neg => simp [LlmTextStream.next, h, textStream, nextChunk, EventDelta.given, hg]
        case h_3 =>
          cases usage <;> simp [LlmTextStream.next, h, textStream, nextChunk, Progress.withOutput]
        case h_4 => simp [LlmTextStream.next]
        case h_5 => simp [LlmTextStream.next]
        case h_6 => simp [LlmTextStream.next, h, textStream, nextChunk]
  silent {s line effect} h hp hn := by
    have h : s.sawStop = false := h
    simp only [protocol] at hp hn
    cases hl : payload line <;> simp only [hl] at hp
    case none =>
      obtain rfl := Except.ok.inj hp
      rfl
    case some payload =>
      cases he : fromStr payload <;> simp only [he, reduceCtorEq] at hp
      case some event =>
        obtain ⟨eventType, message, delta, usage, error⟩ := event
        simp only [interpretEvent] at hp
        split at hp
        case h_1 =>
          cases message <;> simp only [reduceCtorEq, Except.ok.injEq] at hp
          case some => rw [← hp]
        case h_2 =>
          cases delta <;> simp only [reduceCtorEq, Except.ok.injEq] at hp
          case some => simp [← hp, h] at hn
        case h_3 => cases usage <;> rw [← Except.ok.inj hp]
        case h_4 => rw [← Except.ok.inj hp]
        case h_5 => cases hp
        case h_6 => rw [← Except.ok.inj hp]

theorem lasting : (protocol fromStr).Lasting := by
  intro line effect s hp hf
  have hf : s.sawStop = true := hf
  simp only [protocol] at hp ⊢
  cases hl : payload line <;> simp only [hl] at hp
  case none =>
    obtain rfl := Except.ok.inj hp
    exact hf
  case some payload =>
    cases he : fromStr payload <;> simp only [he, reduceCtorEq] at hp
    case some event =>
      obtain ⟨eventType, message, delta, usage, error⟩ := event
      simp only [interpretEvent] at hp
      split at hp
      case h_1 =>
        cases message <;> simp only [reduceCtorEq, Except.ok.injEq] at hp
        case some => simp [← hp, Progress.withUsage, hf]
      case h_2 =>
        cases delta <;> simp only [reduceCtorEq, Except.ok.injEq] at hp
        case some => simp [← hp, hf]
      case h_3 => cases usage <;> simp [← Except.ok.inj hp, Progress.withOutput, hf]
      case h_4 => simp [← Except.ok.inj hp]
      case h_5 => cases hp
      case h_6 => simp [← Except.ok.inj hp, hf]

theorem consumeLines_eq (s : Progress) (ending : Option ProviderError) (lines : List String) (text : String) :
    consumeLines fromStr (response s text) ending lines =
      EventProtocol.prepend text ((protocol fromStr).push s ending lines) := by
  induction lines generalizing s text
  case nil =>
    cases ending <;> cases hs : s.sawStop
    all_goals
      simp [consumeLines, EventProtocol.push, EventProtocol.close, EventProtocol.prepend, response, protocol, hs]
  case cons line lines hi =>
    rw [consumeLines, EventProtocol.push]
    simp only [protocol] at hi ⊢
    cases payload line
    case none => simp [hi]
    case some payload =>
      cases he : fromStr payload
      case none => simp [EventProtocol.prepend, response, he]
      case some event =>
        simp only [he, applyEvent_eq]
        cases interpretEvent event
        case error => simp [Except.map, EventProtocol.prepend, response]
        case ok effect => simp [Except.map, hi, EventProtocol.prepend_prepend]

end Anthropic

namespace Gemini

variable (fromStr : String → Option GeminiEvent)

structure Progress where
  usage        : UsageEvidence
  sawCompleted : Bool
  sawDone      : Bool

def given (delta : GeminiDelta) : String :=
  match delta.text with
  | none      => ""
  | some text => if delta.deltaType = "text" ∧ text ≠ "" then text else ""

def interpretEvent (event : GeminiEvent) : Except ProviderError (StreamEffect Progress) :=
  match event.eventType with
  | "step.delta" =>
    match event.delta with
    | none       => .error .invalidResponse
    | some delta => .ok ⟨given delta, id⟩
  | "interaction.completed" =>
    match event.interaction with
    | none             => .error .invalidResponse
    | some interaction =>
      if interaction.status ≠ some "completed" then
        .error .invalidResponse
      else
        .ok ⟨"", fun s => { s with usage := withUsage s.usage interaction.usage, sawCompleted := true }⟩
  | "error" => .error .unavailable
  | _       => .ok ⟨"", id⟩

def protocol : EventProtocol String ProviderError Progress UsageEvidence where
  interpret line :=
    match payload line with
    | none         => .ok ⟨"", id⟩
    | some payload =>
      if payload = "[DONE]" then
        .ok ⟨"", ({ · with sawDone := true })⟩
      else
        match fromStr payload with
        | none       => .error .invalidResponse
        | some event => interpretEvent event
  finished s := s.sawCompleted && s.sawDone
  summary s  := s.usage
  incomplete := .invalidResponse

def lineReader : LineReader Progress GeminiTextStream where
  reading s ending lines   := ⟨lines, ending, s.usage, s.sawCompleted, s.sawDone, false⟩
  completed s ending lines := ⟨lines, ending, s.usage, s.sawCompleted, s.sawDone, true⟩

def response (s : Progress) (text : String) : GeminiResponse :=
  ⟨text, s.usage, s.sawCompleted⟩

theorem applyEvent_eq (event : GeminiEvent) (s : Progress) (text : String) :
    applyEvent event (response s text) =
      (interpretEvent event).map fun effect => response (effect.update s) (text ++ effect.text) := by
  obtain ⟨eventType, delta, interaction⟩ := event
  simp only [applyEvent, interpretEvent]
  split
  case h_1 =>
    cases delta
    case none => rfl
    case some delta =>
      obtain ⟨deltaType, text'⟩ := delta
      cases text'
      case none => simp [okOr, Except.ok_bind, Except.map, given, response]; rfl
      case some text' =>
        by_cases h : deltaType = "text" ∧ text' ≠ ""
        all_goals
          simp [okOr, Except.ok_bind, Except.map, given, response, h]
          rfl
  case h_2 =>
    cases interaction
    case none => rfl
    case some interaction =>
      by_cases h : interaction.status = some "completed"
      case pos => simp [okOr, Except.ok_bind, Except.map, response, h]; rfl
      case neg => simp [okOr, Except.ok_bind, Except.map, h]; rfl
  all_goals simp [Except.map, response]

theorem follows : (textStream fromStr).Follows lineReader (protocol fromStr) where
  ended {s ending} h := by
    have h : (s.sawCompleted && s.sawDone) = false := h
    cases ending
    case none => simp [textStream, nextChunk, nextChunkFrom, lineReader, protocol, h]
    case some => rfl
  usage := rfl
  next {s ending line lines} h := by
    obtain ⟨usage, sawCompleted, sawDone⟩ := s
    have h : (sawCompleted && sawDone) = false := h
    let s : Progress := ⟨usage, sawCompleted, sawDone⟩
    have hq : (textStream fromStr).nextChunk (lineReader.reading s ending (line :: lines)) =
      nextChunkFrom fromStr (lineReader.reading s ending (line :: lines)) (line :: lines) := rfl
    rw [hq, nextChunkFrom]
    simp only [protocol, lineReader, s]
    cases payload line
    case none => simp [LlmTextStream.next, h, textStream, nextChunk]
    case some payload =>
      by_cases hd : payload = "[DONE]"
      case pos =>
        cases sawCompleted <;> simp [LlmTextStream.next, hd, textStream, nextChunk]
      case neg =>
        simp only [hd, if_false]
        cases fromStr payload
        case none => simp [LlmTextStream.next]
        case some event =>
          simp only
          obtain ⟨eventType, delta, interaction⟩ := event
          simp only [interpretEvent]
          split
          case h_1 =>
            cases delta
            case none => simp [LlmTextStream.next]
            case some delta =>
              obtain ⟨deltaType, text⟩ := delta
              cases text
              case none => simp [LlmTextStream.next, h, textStream, nextChunk, given]
              case some text =>
                by_cases hg : deltaType = "text" ∧ text ≠ ""
                case pos => simp [LlmTextStream.next, h, given, hg]
                case neg => simp [LlmTextStream.next, h, textStream, nextChunk, given, hg]
          case h_2 =>
            cases interaction
            case none => simp [LlmTextStream.next]
            case some interaction =>
              by_cases hi : interaction.status = some "completed"
              case pos =>
                cases sawDone <;> simp [LlmTextStream.next, hi, textStream, nextChunk]
              case neg => simp [LlmTextStream.next, hi]
          case h_3 => simp [LlmTextStream.next]
          case h_4 => simp [LlmTextStream.next, h, textStream, nextChunk]
  silent {s line effect} h hp hn := by
    have h : (s.sawCompleted && s.sawDone) = false := h
    simp only [protocol] at hp hn
    cases hl : payload line <;> simp only [hl] at hp
    case none =>
      obtain rfl := Except.ok.inj hp
      rfl
    case some payload =>
      by_cases hd : payload = "[DONE]" <;> simp only [hd, if_true, if_false] at hp
      case pos =>
        obtain rfl := Except.ok.inj hp
        rfl
      case neg =>
        cases he : fromStr payload <;> simp only [he, reduceCtorEq] at hp
        case some event =>
          obtain ⟨eventType, delta, interaction⟩ := event
          simp only [interpretEvent] at hp
          split at hp
          case h_1 =>
            cases delta <;> simp only [reduceCtorEq, Except.ok.injEq] at hp
            case some => simp [← hp, h] at hn
          case h_2 =>
            cases interaction <;> simp only [reduceCtorEq] at hp
            case some =>
              split at hp
              · cases hp
              · rw [← Except.ok.inj hp]
          case h_3 => cases hp
          case h_4 => rw [← Except.ok.inj hp]

theorem lasting : (protocol fromStr).Lasting := by
  intro line effect s hp hf
  have hf : (s.sawCompleted && s.sawDone) = true := hf
  simp only [Bool.and_eq_true] at hf
  simp only [protocol] at hp ⊢
  cases hl : payload line <;> simp only [hl] at hp
  case none => simp [← Except.ok.inj hp, hf]
  case some payload =>
    by_cases hd : payload = "[DONE]" <;> simp only [hd, if_true, if_false] at hp
    case pos => simp [← Except.ok.inj hp, hf]
    case neg =>
      cases he : fromStr payload <;> simp only [he, reduceCtorEq] at hp
      case some event =>
        obtain ⟨eventType, delta, interaction⟩ := event
        simp only [interpretEvent] at hp
        split at hp
        case h_1 =>
          cases delta <;> simp only [reduceCtorEq, Except.ok.injEq] at hp
          case some => simp [← hp, hf]
        case h_2 =>
          cases interaction <;> simp only [reduceCtorEq] at hp
          case some =>
            split at hp
            · cases hp
            · simp [← Except.ok.inj hp, hf]
        case h_3 => cases hp
        case h_4 => simp [← Except.ok.inj hp, hf]

-- An event has no say in the end of the stream.
theorem interpretEvent_sawDone {event : GeminiEvent} {effect : StreamEffect Progress} (s : Progress)
    (h : interpretEvent event = .ok effect) : (effect.update s).sawDone = s.sawDone := by
  simp only [interpretEvent] at h
  split at h
  case h_1 =>
    cases hd : event.delta <;> simp only [hd, reduceCtorEq, Except.ok.injEq] at h
    case some => rw [← h]; rfl
  case h_2 =>
    cases hi : event.interaction <;> simp only [hi, reduceCtorEq] at h
    case some =>
      split at h
      · cases h
      · rw [← Except.ok.inj h]
  case h_3 => cases h
  case h_4 => rw [← Except.ok.inj h]; rfl

theorem consumeLines_eq (s : Progress) (ending : Option ProviderError) (lines : List String) (text : String) :
    consumeLines fromStr (response s text) s.sawDone ending lines =
      EventProtocol.prepend text ((protocol fromStr).push s ending lines) := by
  induction lines generalizing s text
  case nil =>
    cases ending <;> cases hc : s.sawCompleted <;> cases hd : s.sawDone
    all_goals
      simp [consumeLines, EventProtocol.push, EventProtocol.close, EventProtocol.prepend, response, protocol, hc, hd]
  case cons line lines hi =>
    rw [consumeLines, EventProtocol.push]
    simp only [protocol] at hi ⊢
    cases payload line
    case none => simp [hi]
    case some payload =>
      by_cases hd : payload = "[DONE]" <;> simp only [hd, if_true, if_false]
      case pos =>
        have hi := hi { s with sawDone := true } text
        simpa [response] using hi
      case neg =>
        cases fromStr payload
        case none => simp [EventProtocol.prepend, response]
        case some event =>
          simp only [applyEvent_eq]
          cases hx : interpretEvent event
          case error => simp [Except.map, EventProtocol.prepend, response]
          case ok effect =>
            have hd := interpretEvent_sawDone s hx
            have hi := hi (effect.update s) (text ++ effect.text)
            rw [hd] at hi
            simp [Except.map, hi, EventProtocol.prepend_prepend]

end Gemini

namespace LlmTextStream

variable {σ τ : Type} {stream : LlmTextStream τ} {r : LineReader σ τ}
variable {p : EventProtocol String ProviderError σ UsageEvidence} {s : σ} {body : ProviderBody}

theorem Follows.agrees_iff (f : stream.Follows r p) (hl : p.Lasting) (h : p.finished s = false)
    {pushed : String × Except ProviderError UsageEvidence}
    (hp : pushed = EventProtocol.prepend "" (p.push s body.lines.2 body.lines.1)) :
    stream.drain (body.lines.1.length + 1) (r.reading s body.lines.2 body.lines.1) "" = some pushed ↔
      p.Settled s body.lines.2 body.lines.1 := by
  rw [f.drain_eq h _ (Nat.lt_succ_self _), hp, Option.some_inj, EventProtocol.prepend_inj,
    EventProtocol.pull_eq_push_iff hl h]

-- Both ways of reading a body agree exactly if nothing matters after the end of the stream.
theorem drain_eq_consumeResponse_iff (anthropic : String → Option AnthropicEvent)
    (gemini : String → Option GeminiEvent) (body : ProviderBody) :
    ((Anthropic.textStream anthropic).drain (body.lines.1.length + 1) (Anthropic.openStream body) "" =
        some (Anthropic.consumeResponse anthropic body) ↔
      (Anthropic.protocol anthropic).Settled ⟨.default, false⟩ body.lines.2 body.lines.1) ∧
    ((Gemini.textStream gemini).drain (body.lines.1.length + 1) (Gemini.openStream body) "" =
        some (Gemini.consumeResponse gemini body) ↔
      (Gemini.protocol gemini).Settled ⟨.default, false, false⟩ body.lines.2 body.lines.1) := by
  constructor
  case left =>
    exact (Anthropic.follows anthropic).agrees_iff (s := ⟨.default, false⟩) (Anthropic.lasting anthropic) rfl
      (Anthropic.consumeLines_eq anthropic _ _ _ _)
  case right =>
    exact (Gemini.follows gemini).agrees_iff (s := ⟨.default, false, false⟩) (Gemini.lasting gemini) rfl
      (Gemini.consumeLines_eq gemini _ _ _ _)

-- The connection is lost when the stream is finished, before the body is.
def lostAfter (lines : List String) : ProviderBody where
  bytes  := lines.flatMap fun line => line.toUTF8.toList ++ [10]
  failed := true

def messageStop : String :=
  "\x7b\"type\":\"message_stop\"\x7d"

def readMessageStop (payload : String) : Option AnthropicEvent :=
  if payload = messageStop then some ⟨"message_stop", none, none, none, none⟩ else none

def interactionCompleted : String :=
  "\x7b\"event_type\":\"interaction.completed\",\"interaction\":\x7b\"status\":\"completed\"\x7d\x7d"

def readInteractionCompleted (payload : String) : Option GeminiEvent :=
  if payload = interactionCompleted then
    some ⟨"interaction.completed", none, some ⟨some "completed", none⟩⟩
  else
    none

-- One way succeeds and the other one fails.
theorem drain_ne_consumeResponse_lost :
    ((Anthropic.textStream readMessageStop).drain 2
        (Anthropic.openStream (lostAfter ["data: " ++ messageStop])) "" = some ("", .ok .default) ∧
      Anthropic.consumeResponse readMessageStop (lostAfter ["data: " ++ messageStop]) =
        ("", .error .unavailable)) ∧
    ((Gemini.textStream readInteractionCompleted).drain 3
        (Gemini.openStream (lostAfter ["data: " ++ interactionCompleted, "data: [DONE]"])) "" =
          some ("", .ok .default) ∧
      Gemini.consumeResponse readInteractionCompleted
        (lostAfter ["data: " ++ interactionCompleted, "data: [DONE]"]) = ("", .error .unavailable)) := by
  decide +kernel

end LlmTextStream
