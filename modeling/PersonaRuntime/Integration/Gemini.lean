import PersonaRuntime.Integration.LlmStream

structure GeminiUsage where
  totalInputTokens  : Option Nat
  totalOutputTokens : Option Nat
deriving DecidableEq

structure GeminiDelta where
  deltaType : String
  text      : Option String
deriving DecidableEq

structure GeminiInteraction where
  status : Option String
  usage  : Option GeminiUsage
deriving DecidableEq

-- An event as `serde_json` reads it.
structure GeminiEvent where
  eventType   : String
  delta       : Option GeminiDelta
  interaction : Option GeminiInteraction
deriving DecidableEq

structure GeminiTextStream where
  lines        : List String
  ending       : Option ProviderError
  usage        : UsageEvidence
  sawCompleted : Bool
  sawDone      : Bool
  completed    : Bool

structure GeminiResponse where
  text         : String
  usage        : UsageEvidence
  sawCompleted : Bool

namespace Gemini

def withUsage (usage : UsageEvidence) : Option GeminiUsage → UsageEvidence
  | none       => usage
  | some event => (usage.withInput event.totalInputTokens).withOutput event.totalOutputTokens

variable (fromStr : String → Option GeminiEvent)

-- The loop of `next_chunk`.
def nextChunkFrom (stream : GeminiTextStream) :
    List String → Except ProviderError (Option String) × GeminiTextStream
  | [] =>
    match stream.ending with
    | some e => (.error e, stream)
    | none   =>
      if stream.sawCompleted && stream.sawDone then
        (.ok none, { stream with completed := true })
      else
        (.error .invalidResponse, stream)
  | line :: lines =>
    let stream := { stream with lines }
    match payload line with
    | none         => nextChunkFrom stream lines
    | some payload =>
      if payload = "[DONE]" then
        let stream := { stream with sawDone := true }
        if stream.sawCompleted then
          (.ok none, { stream with completed := true })
        else
          nextChunkFrom stream lines
      else
        match fromStr payload with
        | none       => (.error .invalidResponse, stream)
        | some event =>
          match event.eventType with
          | "step.delta" =>
            match event.delta with
            | none       => (.error .invalidResponse, stream)
            | some delta =>
              match delta.text with
              | none      => nextChunkFrom stream lines
              | some text =>
                if delta.deltaType = "text" ∧ text ≠ "" then
                  (.ok (some text), stream)
                else
                  nextChunkFrom stream lines
          | "interaction.completed" =>
            match event.interaction with
            | none             => (.error .invalidResponse, stream)
            | some interaction =>
              if interaction.status ≠ some "completed" then
                (.error .invalidResponse, stream)
              else
                let stream :=
                  { stream with usage := withUsage stream.usage interaction.usage, sawCompleted := true }
                if stream.sawDone then
                  (.ok none, { stream with completed := true })
                else
                  nextChunkFrom stream lines
          | "error" => (.error .unavailable, stream)
          | _       => nextChunkFrom stream lines

def nextChunk (stream : GeminiTextStream) : Except ProviderError (Option String) × GeminiTextStream :=
  if stream.completed then (.ok none, stream) else nextChunkFrom fromStr stream stream.lines

def textStream : LlmTextStream GeminiTextStream where
  nextChunk := nextChunk fromStr
  usage     := (·.usage)

def openStream (body : ProviderBody) : GeminiTextStream where
  lines        := body.lines.1
  ending       := body.lines.2
  usage        := .default
  sawCompleted := false
  sawDone      := false
  completed    := false

def applyEvent (event : GeminiEvent) (r : GeminiResponse) : Except ProviderError GeminiResponse :=
  match event.eventType with
  | "step.delta" => do
    let delta ← okOr .invalidResponse event.delta
    match delta.text with
    | none      => return r
    | some text => return if delta.deltaType = "text" ∧ text ≠ "" then { r with text := r.text ++ text } else r
  | "interaction.completed" => do
    let interaction ← okOr .invalidResponse event.interaction
    if interaction.status ≠ some "completed" then
      throw .invalidResponse
    return { r with usage := withUsage r.usage interaction.usage, sawCompleted := true }
  | "error" => .error .unavailable
  | _       => .ok r

-- The loop of `consume_response`.
def consumeLines (r : GeminiResponse) (sawDone : Bool) (ending : Option ProviderError) :
    List String → String × Except ProviderError UsageEvidence
  | [] =>
    match ending with
    | some e => (r.text, .error e)
    | none   => (r.text, if !r.sawCompleted || !sawDone then .error .invalidResponse else .ok r.usage)
  | line :: lines =>
    match payload line with
    | none         => consumeLines r sawDone ending lines
    | some payload =>
      if payload = "[DONE]" then
        consumeLines r true ending lines
      else
        match fromStr payload with
        | none       => (r.text, .error .invalidResponse)
        | some event =>
          match applyEvent event r with
          | .error e => (r.text, .error e)
          | .ok r    => consumeLines r sawDone ending lines

def consumeResponse (body : ProviderBody) : String × Except ProviderError UsageEvidence :=
  consumeLines fromStr ⟨"", .default, false⟩ false body.lines.2 body.lines.1

end Gemini
