import PersonaRuntime.Integration.Provider
import PersonaRuntime.Runtime.MediaDelivery

structure Transcript where
  text   : String
  locale : String
deriving DecidableEq, Repr

inductive SttStreamEvent
  | interim (transcript : Transcript)
  | final (transcript : Transcript)
deriving DecidableEq, Repr

-- An `SttAudioStream` that has all its audio, over its states. The probe of the permit goes with the
-- state. A call of `next_event` may not come back.
structure SttAudioStream (σ : Type) where
  cancelled   : σ → Bool
  finishInput : σ → Except ProviderError Unit × σ
  nextEvent   : σ → Option (Except ProviderError (Option SttStreamEvent) × σ)
  usage       : σ → UsageEvidence

structure SttStreamRequest where
  sampleRateHz : Nat
  channels     : Nat
  sampleFormat : PcmSampleFormat
  localeHint   : Option String
deriving DecidableEq, Repr

inductive WebSocketError
  | http (status : Nat)
  | capacity
  -- `WouldBlock` and `TimedOut`
  | idle
  | connectionClosed
  | other
deriving DecidableEq, Repr

-- The messages of the provider, as `serde_json` reads them.
structure LiveAlternative where
  transcript : String
deriving DecidableEq, Repr

structure LiveChannel where
  alternatives : List LiveAlternative
deriving DecidableEq, Repr

structure LiveMessage where
  messageType : Option String
  isFinal     : Bool
  channel     : Option LiveChannel
deriving DecidableEq, Repr

inductive SocketMessage
  -- A text that is no `LiveMessage` is `none`.
  | text (message : Option LiveMessage)
  -- With what comes of the answer to it.
  | ping (pong : Except WebSocketError Unit)
  | pong
  | binary
  | frame
  | close

-- One `read` of the socket: what it gives, and what the probe and the clock say from then on.
structure SocketRead where
  result    : Except WebSocketError SocketMessage
  cancelled : Bool
  elapsed   : Bool

structure DeepgramLiveStream where
  request       : SttStreamRequest
  inputBytes    : Nat
  inputFinished : Bool
  completed     : Bool
  -- What becomes of the message that ends the input.
  closeStream   : Except WebSocketError Unit
  cancelled     : Bool
  reads         : List SocketRead

def normalizeDeepgramLanguage (locale : String) : String :=
  if locale.map Char.toLower = "ru-ru" then "ru" else locale

def mapStatus (status : Nat) : ProviderError :=
  if status = 401 ∨ status = 403 then
    ⟨.authenticationDenied, false⟩
  else if status = 408 then
    .timeout
  else if status = 429 then
    ⟨.rateLimited, true⟩
  else if 500 ≤ status ∧ status ≤ 599 then
    .unavailable
  else
    .invalidResponse

def mapWebsocketError : WebSocketError → ProviderError
  | .http status      => if 300 ≤ status ∧ status ≤ 399 then ⟨.policyDenied, false⟩ else mapStatus status
  | .capacity         => .invalidResponse
  | .idle             => .timeout
  | .connectionClosed => .unavailable
  | .other            => .unavailable

def parseEvent (text : Option LiveMessage) (localeHint : Option String) :
    Except ProviderError (Option SttStreamEvent) := do
  let message ← okOr .invalidResponse text
  match message.messageType with
  | some "Results" | none => pure ()
  | some "Error"          => throw .invalidResponse
  | some _                => return none
  let some alternative := message.channel.bind (·.alternatives.head?) | return none
  if isBlank alternative.transcript then
    return none
  let transcript := ⟨alternative.transcript, localeHint.elim "und" normalizeDeepgramLanguage⟩
  return some (if message.isFinal then .final transcript else .interim transcript)

namespace DeepgramLiveStream

def ensureActive (stream : DeepgramLiveStream) : Except ProviderError Unit :=
  if stream.cancelled then
    .error .cancelled
  else if stream.completed then
    .error ⟨.unavailable, false⟩
  else
    .ok ()

def finishInput (stream : DeepgramLiveStream) : Except ProviderError Unit × DeepgramLiveStream :=
  match stream.ensureActive with
  | .error e => (.error e, stream)
  | .ok _    =>
    if stream.inputFinished then
      (.ok (), stream)
    else
      match stream.closeStream with
      | .error e => (.error (mapWebsocketError e), stream)
      | .ok _    => (.ok (), { stream with inputFinished := true })

-- The loop of `next_event`. `elapsed` says whether the time for the answer is over.
def nextEventFrom (stream : DeepgramLiveStream) (elapsed : Bool) :
    List SocketRead → Option (Except ProviderError (Option SttStreamEvent) × DeepgramLiveStream)
  | [] =>
    match stream.ensureActive with
    | .error e => some (.error e, stream)
    | .ok _    => if elapsed then some (.error .timeout, stream) else none
  | read :: reads =>
    match stream.ensureActive with
    | .error e => some (.error e, stream)
    | .ok _    =>
      if elapsed then
        some (.error .timeout, stream)
      else
        let stream := { stream with cancelled := read.cancelled, reads }
        match read.result with
        | .ok (.text text) =>
          match stream.ensureActive, parseEvent text stream.request.localeHint with
          | .error e, _             => some (.error e, stream)
          | .ok _, .error e         => some (.error e, stream)
          | .ok _, .ok (some event) => some (.ok (some event), stream)
          | .ok _, .ok none         => stream.nextEventFrom read.elapsed reads
        | .ok (.ping (.error e)) => some (.error (mapWebsocketError e), stream)
        | .ok (.ping (.ok _)) | .ok .pong | .ok .binary | .ok .frame =>
          stream.nextEventFrom read.elapsed reads
        | .ok .close =>
          match stream.ensureActive with
          | .error e => some (.error e, stream)
          | .ok _    => some (.ok none, { stream with completed := true })
        | .error .idle =>
          if stream.cancelled then some (.error .cancelled, stream) else stream.nextEventFrom read.elapsed reads
        | .error e => some (.error (mapWebsocketError e), stream)

-- The time for the answer starts with the call.
def nextEvent (stream : DeepgramLiveStream) :
    Option (Except ProviderError (Option SttStreamEvent) × DeepgramLiveStream) :=
  stream.nextEventFrom false stream.reads

def inputDurationMillis (request : SttStreamRequest) (bytes : Nat) : Option Nat := do
  let frameBytes ← checkedMul request.channels request.sampleFormat.bytesPerSample
  let bytesPerSecond ← checkedMul request.sampleRateHz frameBytes
  let scaled ← checkedMul bytes 1000
  if bytesPerSecond = 0 then none else some (scaled / bytesPerSecond)

def usage (stream : DeepgramLiveStream) : UsageEvidence where
  inputUnits               := inputDurationMillis stream.request stream.inputBytes
  inputUnit                := some .audioMillisecond
  outputUnits              := none
  outputUnit               := none
  estimatedCostMicrounits  := none
  providerChargeMicrounits := none

def audioStream : SttAudioStream DeepgramLiveStream where
  cancelled   := (·.cancelled)
  finishInput := finishInput
  nextEvent   := nextEvent
  usage       := usage

end DeepgramLiveStream
