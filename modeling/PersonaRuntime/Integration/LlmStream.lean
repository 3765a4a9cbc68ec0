import PersonaRuntime.Integration.Provider
import PersonaRuntime.Runtime.MediaTimeline

-- The body of a response that is read without a cancellation: its bytes, and whether the read after
-- them fails.
structure ProviderBody where
  bytes  : List UInt8
  failed : Bool

-- An `LlmTextStream` over its states.
structure LlmTextStream (σ : Type) where
  nextChunk : σ → Except ProviderError (Option String) × σ
  usage     : σ → UsageEvidence

def maxProviderStreamLineBytes : Nat :=
  256 * 1024

namespace BoundedProviderLineReader

def finishLine (pending : List UInt8) : Option String :=
  let line := if pending.getLast? = some 13 then pending.dropLast else pending
  String.fromUTF8? ⟨line.toArray⟩

-- What the calls of `next_line` give: the lines, and the error that ends them if there is one.
def lines (failed : Bool) (pending : List UInt8) : List UInt8 → List String × Option ProviderError
  | [] =>
    if failed then
      ([], some .unavailable)
    else if pending = [] then
      ([], none)
    else
      match finishLine pending with
      | none      => ([], some .invalidResponse)
      | some line => ([line], none)
  | byte :: bytes =>
    if byte = 10 then
      match finishLine pending with
      | none      => ([], some .invalidResponse)
      | some line =>
        let (rest, ending) := lines failed [] bytes
        (line :: rest, ending)
    else if maxProviderStreamLineBytes < pending.length + 1 then
      ([], some .invalidResponse)
    else
      lines failed (pending ++ [byte]) bytes

end BoundedProviderLineReader

def ProviderBody.lines (body : ProviderBody) : List String × Option ProviderError :=
  BoundedProviderLineReader.lines body.failed [] body.bytes

-- `line.strip_prefix("data:").map(str::trim_start)`
def payload (line : String) : Option String :=
  (line.dropPrefix? "data:").map fun rest => String.ofList (rest.toString.toList.dropWhile isWhiteSpace)

-- Calls of `next_chunk` until there is no chunk, with everything that they gave. At most `fuel` of them.
def LlmTextStream.drain {σ : Type} (stream : LlmTextStream σ) (fuel : Nat) (s : σ) (text : String) :
    Option (String × Except ProviderError UsageEvidence) :=
  match fuel with
  | 0        => none
  | fuel + 1 =>
    match stream.nextChunk s with
    | (.error e, _)         => some (text, .error e)
    | (.ok none, s)         => some (text, .ok (stream.usage s))
    | (.ok (some chunk), s) => stream.drain fuel s (text ++ chunk)

def UsageEvidence.withOutput (usage : UsageEvidence) (tokens : Option Nat) : UsageEvidence :=
  { usage with outputUnits := tokens, outputUnit := tokens.map fun _ => .token }

def UsageEvidence.withInput (usage : UsageEvidence) (tokens : Option Nat) : UsageEvidence :=
  { usage with inputUnits := tokens, inputUnit := tokens.map fun _ => .token }
