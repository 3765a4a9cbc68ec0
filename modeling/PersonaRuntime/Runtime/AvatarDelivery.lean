import PersonaRuntime.Integration.GeneratedAudio

inductive RealtimeAvatarOutputError
  | runtime  (reason : Rt0ReasonCode)
  | provider (error : ProviderExecutionError)
deriving DecidableEq

-- A call of the PCM stream of an avatar provider with its answer. Nobody looks at the answer to an abort.
inductive PcmStreamCall
  | openPcmStream (rate channels : Nat) (answer : Except ProviderError Unit)
  | pushPcm       (pcm : List UInt8) (answer : Except ProviderError Unit)
  | finish        (answer : Except ProviderError Unit)
  | abort

-- A push of the synthesis with what its callback meets: whether the permit of the avatar is cancelled by
-- then, and what the provider answers to the calls that it gets.
structure TtsPush where
  chunk     : GeneratedAudioChunk
  cancelled : Bool
  opened    : Except ProviderError Unit
  pushed    : Except ProviderError Unit

-- What the callback keeps. A time that was taken is there or not.
structure PcmPublication where
  calls               : List PcmStreamCall
  published           : Bool
  firstPcmMillis      : Bool
  firstEchoSendMillis : Bool

namespace PcmPublication

def call (call : PcmStreamCall) (answer : Except ProviderError Unit) : EStateM ProviderError PcmPublication Unit := do
  modify fun s => { s with calls := s.calls ++ [call] }
  .check id answer

def send (p : TtsPush) : EStateM ProviderError PcmPublication Unit := do
  if p.cancelled then
    throw .cancelled
  modify ({ · with firstPcmMillis := true })
  if !(← get).published then
    call (.openPcmStream p.chunk.sampleRateHz p.chunk.channels p.opened) p.opened
    modify ({ · with published := true })
  call (.pushPcm p.chunk.pcm p.pushed) p.pushed
  modify ({ · with firstEchoSendMillis := true })

end PcmPublication

-- The sink of the synthesis, and its callback
structure PcmDelivery where
  sink        : GeneratedAudioStreamingSink
  publication : PcmPublication

namespace PcmDelivery

def new : PcmDelivery where
  sink        := .new
  publication := ⟨[], false, false, false⟩

-- The sink calls back only with a chunk that it admits, and then the answer of its callback counts.
def push (p : TtsPush) : EStateM ProviderError PcmDelivery Unit := fun s =>
  match (GeneratedAudioStreamingSink.pushGeneratedAudio (.ok ()) p.chunk).run s.sink with
  | .error e sink => .error e { s with sink }
  | .ok () sink   =>
    match (PcmPublication.send p).run s.publication with
    | .ok () publication   => .ok () ⟨sink, publication⟩
    | .error e publication =>
      .error e ⟨((GeneratedAudioStreamingSink.pushGeneratedAudio (.error e) p.chunk).run s.sink).state, publication⟩

end PcmDelivery

-- Everything that a delivery meets. The pushes are those that the synthesis makes, whatever it makes of
-- their answers.
structure PcmDeliveryRun where
  -- `validate_avatar_handle`
  validHandle  : Bool
  permit       : Except ProviderExecutionError Unit
  segment      : Except Rt0ReasonCode Nat
  pushes       : List TtsPush
  synthesis    : Except ProviderExecutionError Unit
  finish       : Except ProviderError Unit
  acknowledged : Except Rt0ReasonCode Unit

structure PcmDeliveryOutcome where
  calls  : List PcmStreamCall
  -- The segment was acknowledged as sent.
  sent   : Bool
  result : Except RealtimeAvatarOutputError Nat

namespace PcmDeliveryRun

variable (r : PcmDeliveryRun)

-- The answers to the pushes of the synthesis, and what they leave
def pushed : List (Except ProviderError Unit) × PcmDelivery :=
  pushAll PcmDelivery.push r.pushes .new

def invalidResponse : RealtimeAvatarOutputError :=
  .provider (.provider .invalidResponse)

-- What comes after the synthesis
def conclude (segment : Nat) (s : PcmDelivery) : PcmDeliveryOutcome :=
  let calls := s.publication.calls
  let aborted := calls ++ if s.publication.published then [.abort] else []
  match r.synthesis with
  | .error error => ⟨aborted, false, .error (.provider error)⟩
  | .ok ()       =>
    if s.sink.bytes = 0 then
      ⟨aborted, false, .error invalidResponse⟩
    else if !s.publication.published then
      ⟨calls, false, .error invalidResponse⟩
    else
      match r.finish with
      | .error error => ⟨calls ++ [.finish (.error error), .abort], false, .error (.provider (.provider error))⟩
      | .ok ()       =>
        let calls := calls ++ [.finish (.ok ())]
        match r.acknowledged with
        | .error reason => ⟨calls, false, .error (.runtime reason)⟩
        | .ok ()        =>
          if s.publication.firstPcmMillis && s.publication.firstEchoSendMillis then
            ⟨calls, true, .ok segment⟩
          else
            ⟨calls, true, .error invalidResponse⟩

def streamAndDeliverRealtimeAvatarPcm : PcmDeliveryOutcome :=
  if !r.validHandle then
    ⟨[], false, .error (.provider (.denied .invalidTurnState))⟩
  else
    match r.permit with
    | .error error => ⟨[], false, .error (.provider error)⟩
    | .ok ()       =>
      match r.segment with
      | .error reason => ⟨[], false, .error (.runtime reason)⟩
      | .ok segment   => r.conclude segment r.pushed.2

end PcmDeliveryRun
