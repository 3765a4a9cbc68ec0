import PersonaRuntime.Integration.DeepgramLive
import PersonaRuntime.OwnerLab.Requests
import PersonaRuntime.Runtime.Session

def mapProviderExecution : ProviderExecutionError → LabError
  | .denied reason  => .runtime reason.reasonCode
  | .provider error => .provider (providerReasonCode error.kind)

-- The calls of the engine change the turn that they have in hand.
abbrev TurnCallM := EStateM LabError (ActiveTurn × MediaTimeline)

def terminalizeFailedTurn {α : Type} (error : LabError) : TurnCallM α := do
  match (← get).1.state.state with
  | .processing | .outputting =>
    match ActiveTurn.fail.run (← get) with
    | .ok _ s         =>
      set s
      throw error
    | .error reason s =>
      set s
      throw (.runtime (if s.1.state.state = .cancelled then .turnCancelled else reason))
  | .cancelled => throw (.runtime .turnCancelled)
  | _          => throw error

def terminalizeProviderError {α : Type} (error : ProviderExecutionError) : TurnCallM α :=
  terminalizeFailedTurn (mapProviderExecution error)

namespace SttAudioStream

variable {σ α : Type} (stream : SttAudioStream σ)

-- `ProviderExecutionPermit::dispatch` for an operation on the stream.
def answered (result : Except ProviderError α) (s : σ) : Except ProviderExecutionError α :=
  if stream.cancelled s then
    match result with
    | .error e => if e.kind = .cancelled then .error (.provider e) else .error (.denied .turnCancelled)
    | .ok _    => .error (.denied .turnCancelled)
  else
    result.mapError .provider

def dispatchFinish (s : σ) : Except ProviderExecutionError Unit × σ :=
  if stream.cancelled s then
    (.error (.denied .turnCancelled), s)
  else
    let (result, s) := stream.finishInput s
    (stream.answered result s, s)

def dispatchNext (s : σ) : Option (Except ProviderExecutionError (Option SttStreamEvent) × σ) :=
  if stream.cancelled s then
    some (.error (.denied .turnCancelled), s)
  else
    (stream.nextEvent s).map fun (result, s) => (stream.answered result s, s)

end SttAudioStream

inductive VoiceSttMode (σ : Type)
  | streaming (s : σ)
  -- With what comes of the one request that has all the audio.
  | buffered (executed : Except ProviderExecutionError (Transcript × UsageEvidence))

namespace VoiceSttInput

variable {σ : Type} (stream : SttAudioStream σ)

def keepFinal (finalTranscript : Option Transcript) : SttStreamEvent → Option Transcript
  | .final transcript => if isBlank transcript.text then finalTranscript else some transcript
  | .interim _        => finalTranscript

-- The loop of `finish`, for at most `fuel` calls.
def finalTranscript (fuel : Nat) (s : σ) (kept : Option Transcript) :
    Option (Except ProviderExecutionError (Option Transcript) × σ) :=
  match fuel with
  | 0        => none
  | fuel + 1 =>
    match stream.dispatchNext s with
    | none                    => none
    | some (.error e, s)      => some (.error e, s)
    | some (.ok none, s)      => some (.ok kept, s)
    | some (.ok (some e), s)  => finalTranscript fuel s (keepFinal kept e)

-- `none` if a call of the stream does not come back or the fuel runs out.
def finish (fuel : Nat) (turn : ActiveTurn × MediaTimeline) :
    VoiceSttMode σ → Option (EStateM.Result LabError (ActiveTurn × MediaTimeline) (Transcript × UsageEvidence))
  | .streaming s =>
    match stream.dispatchFinish s with
    | (.error e, _) => some ((terminalizeProviderError e).run turn)
    | (.ok _, s)    =>
      (finalTranscript stream fuel s none).map fun
        | (.error e, _)               => (terminalizeProviderError e).run turn
        | (.ok none, _)               => (terminalizeFailedTurn .speechNotRecognized).run turn
        | (.ok (some transcript), s)  => .ok (transcript, stream.usage s) turn
  | .buffered (.error e) => some ((terminalizeProviderError e).run turn)
  | .buffered (.ok r)    => some (.ok r turn)

end VoiceSttInput
