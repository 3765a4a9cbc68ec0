import PersonaRuntime.Integration.LlmStream

structure AnthropicUsage where
  inputTokens  : Option Nat
  outputTokens : Option Nat
deriving DecidableEq

structure EventDelta where
  deltaType : String
  text      : Option String
deriving DecidableEq

-- An event as `serde_json` reads it. The message and the error have nothing but what is here.
structure AnthropicEvent where
  eventType : String
  message   : Option AnthropicUsage
  delta     : Option EventDelta
  usage     : Option AnthropicUsage
  error     : Option String
deriving DecidableEq

structure AnthropicTextStream where
  lines     : List String
  -- The error that ends the lines.
  ending    : Option ProviderError
  usage     : UsageEvidence
  completed : Bool

-- What `consume_response` has in hand, with the text in the sink, which takes everything.
structure AnthropicResponse where
  text    : String
  usage   : UsageEvidence
  sawStop : Bool

namespace Anthropic

def mapStreamError : Option String → ProviderError
  | some "rate_limit_error"                           => ⟨.rateLimited, true⟩
  | some "overloaded_error"                           => .unavailable
  | some "authentication_error" | some "permission_error" => ⟨.policyDenied, false⟩
  | _                                                 => .invalidResponse

variable (fromStr : String → Option AnthropicEvent)

-- The loop of `next_chunk`.
def nextChunkFrom (stream : AnthropicTextStream) :
    List String → Except ProviderError (Option String) × AnthropicTextStream
  | [] => (.error (stream.ending.getD .invalidResponse), stream)
  | line :: lines =>
    let stream := { stream with lines }
    match payload line with
    | none         => nextChunkFrom stream lines
    | some payload =>
      match fromStr payload with
      | none       => (.error .invalidResponse, stream)
      | some event =>
        match event.eventType with
        | "message_start" =>
          match event.message with
          | none       => (.error .invalidResponse, stream)
          | some usage =>
            let usage := (stream.usage.withInput usage.inputTokens).withOutput usage.outputTokens
            nextChunkFrom { stream with usage } lines
        | "content_block_delta" =>
          match event.delta with
          | none       => (.error .invalidResponse, stream)
          | some delta =>
            match delta.text with
            | none      => nextChunkFrom stream lines
            | some text =>
              if delta.deltaType = "text_delta" ∧ text ≠ "" then
                (.ok (some text), stream)
              else
                nextChunkFrom stream lines
        | "message_delta" =>
          match event.usage with
          | none       => nextChunkFrom stream lines
          | some usage => nextChunkFrom { stream with usage := stream.usage.withOutput usage.outputTokens } lines
        | "message_stop" => (.ok none, { stream with completed := true })
        | "error"        => (.error (mapStreamError event.error), stream)
        | _              => nextChunkFrom stream lines

def nextChunk (stream : AnthropicTextStream) : Except ProviderError (Option String) × AnthropicTextStream :=
  if stream.completed then (.ok none, stream) else nextChunkFrom fromStr stream stream.lines

def textStream : LlmTextStream AnthropicTextStream where
  nextChunk := nextChunk fromStr
  usage     := (·.usage)

def openStream (body : ProviderBody) : AnthropicTextStream where
  lines     := body.lines.1
  ending    := body.lines.2
  usage     := .default
  completed := false

def applyEvent (event : AnthropicEvent) (r : AnthropicResponse) : Except ProviderError AnthropicResponse :=
  match event.eventType with
  | "message_start" => do
    let usage ← okOr .invalidResponse event.message
    return { r with usage := (r.usage.withInput usage.inputTokens).withOutput usage.outputTokens }
  | "content_block_delta" => do
    let delta ← okOr .invalidResponse event.delta
    match delta.text with
    | none      => return r
    | some text => return if delta.deltaType = "text_delta" ∧ text ≠ "" then { r with text := r.text ++ text } else r
  | "message_delta" =>
    match event.usage with
    | none       => .ok r
    | some usage => .ok { r with usage := r.usage.withOutput usage.outputTokens }
  | "message_stop" => .ok { r with sawStop := true }
  | "error"        => .error (mapStreamError event.error)
  | _              => .ok r

-- The loop of `consume_response`.
def consumeLines (r : AnthropicResponse) (ending : Option ProviderError) :
    List String → String × Except ProviderError UsageEvidence
  | [] =>
    match ending with
    | some e => (r.text, .error e)
    | none   => (r.text, if r.sawStop then .ok r.usage else .error .invalidResponse)
  | line :: lines =>
    match payload line with
    | none         => consumeLines r ending lines
    | some payload =>
      match fromStr payload with
      | none       => (r.text, .error .invalidResponse)
      | some event =>
        match applyEvent event r with
        | .error e => (r.text, .error e)
        | .ok r    => consumeLines r ending lines

def consumeResponse (body : ProviderBody) : String × Except ProviderError UsageEvidence :=
  consumeLines fromStr ⟨"", .default, false⟩ body.lines.2 body.lines.1

end Anthropic
