import PersonaRuntime.Integration.Audio
import PersonaRuntime.Integration.Provider
import PersonaRuntime.Machine.Mutation
import PersonaRuntime.Runtime.MediaTimeline

def maxGeneratedAudioBytes : Nat :=
  16 * 1024 * 1024

def maxGeneratedAudioDurationMillis : Nat :=
  300000

-- `u64::checked_div`
def checkedDiv (a b : Nat) : Option Nat :=
  if b = 0 then none else some (a / b)

-- What `push_generated_audio` is called with.
structure GeneratedAudioChunk where
  pcm          : List UInt8
  sampleRateHz : Nat
  channels     : Nat
  sampleFormat : PcmSampleFormat
deriving DecidableEq

namespace GeneratedAudioBuffer

def new : GeneratedAudioBuffer where
  pcm          := []
  sampleRateHz := none
  channels     := none
  sampleFormat := none

def durationMillis (b : GeneratedAudioBuffer) : Option Nat := do
  let sampleRateHz ← b.sampleRateHz
  let channels ← b.channels
  let sampleFormat ← b.sampleFormat
  if b.pcm.isEmpty || sampleRateHz == 0 || channels == 0 then
    none
  let frameBytes ← checkedMul channels sampleFormat.bytesPerSample
  if b.pcm.length % frameBytes ≠ 0 then
    none
  checkedDiv (← checkedMul (b.pcm.length / frameBytes) 1000) sampleRateHz

def pushGeneratedAudio (c : GeneratedAudioChunk) : EStateM ProviderError GeneratedAudioBuffer Unit := do
  let buffer ← get
  let sameFormat := buffer.sampleRateHz.all (· == c.sampleRateHz) &&
    buffer.channels.all (· == c.channels) && buffer.sampleFormat.all (· == c.sampleFormat)
  let frameBytes := checkedMul c.channels c.sampleFormat.bytesPerSample
  if c.sampleRateHz == 0 || c.channels == 0 || c.pcm.isEmpty || !sameFormat ||
      !frameBytes.any (fun size => 0 < size && c.pcm.length % size == 0) then
    throw .invalidResponse
  let frameBytes ← .check id (okOr .invalidResponse frameBytes)
  let prospectiveLen ← .check id (okOr .invalidResponse (checkedAdd buffer.pcm.length c.pcm.length))
  let prospectiveDurationMillis ← .check id <| okOr .invalidResponse <|
    (checkedDiv prospectiveLen frameBytes).bind (checkedMul · 1000) |>.bind (checkedDiv · c.sampleRateHz)
  if prospectiveLen > maxGeneratedAudioBytes ||
      prospectiveDurationMillis > maxGeneratedAudioDurationMillis then
    throw .invalidResponse
  modify ({ · with sampleRateHz := some c.sampleRateHz })
  modify ({ · with channels := some c.channels })
  modify ({ · with sampleFormat := some c.sampleFormat })
  modify fun b => { b with pcm := b.pcm ++ c.pcm }

end GeneratedAudioBuffer

-- The chunks that the callback `emit` has taken stand for the callback.
structure GeneratedAudioStreamingSink where
  emitted  : List (List UInt8)
  bytes    : Nat
  rate     : Option Nat
  channels : Option Nat
deriving DecidableEq

namespace GeneratedAudioStreamingSink

def new : GeneratedAudioStreamingSink where
  emitted  := []
  bytes    := 0
  rate     := none
  channels := none

-- A call of the callback, which answers as it wants.
def emit (answer : Except ProviderError Unit) (pcm : List UInt8) :
    EStateM ProviderError GeneratedAudioStreamingSink Unit := do
  .check id answer
  modify fun s => { s with emitted := s.emitted ++ [pcm] }

def pushGeneratedAudio (answer : Except ProviderError Unit) (c : GeneratedAudioChunk) :
    EStateM ProviderError GeneratedAudioStreamingSink Unit := do
  let sink ← get
  let frameBytes := checkedMul c.channels c.sampleFormat.bytesPerSample
  if c.sampleRateHz == 0 || c.channels == 0 || c.pcm.isEmpty || sink.rate.any (· != c.sampleRateHz) ||
      sink.channels.any (· != c.channels) ||
      !frameBytes.any (fun size => 0 < size && c.pcm.length % size == 0) then
    throw .invalidResponse
  let size ← .check id (okOr .invalidResponse frameBytes)
  let prospective ← .check id (okOr .invalidResponse (checkedAdd sink.bytes c.pcm.length))
  let duration ← .check id <| okOr .invalidResponse <|
    (checkedDiv prospective size).bind (checkedMul · 1000) |>.bind (checkedDiv · c.sampleRateHz)
  if prospective > maxGeneratedAudioBytes || duration > maxGeneratedAudioDurationMillis then
    throw .invalidResponse
  emit answer c.pcm
  modify ({ · with bytes := prospective })
  modify ({ · with rate := some c.sampleRateHz })
  modify ({ · with channels := some c.channels })

end GeneratedAudioStreamingSink

-- The answers to calls that are made one after the other, and what is left after the last of them.
def pushAll {ε σ κ : Type} (push : κ → EStateM ε σ Unit) : List κ → σ → List (Except ε Unit) × σ
  | [], s      => ([], s)
  | c :: cs, s =>
    let r := (push c).run s
    let rest := pushAll push cs r.state
    (r.toExcept :: rest.1, rest.2)

def buffered (cs : List GeneratedAudioChunk) : List (Except ProviderError Unit) × GeneratedAudioBuffer :=
  pushAll GeneratedAudioBuffer.pushGeneratedAudio cs .new

-- Every push comes with the answer that the callback would give.
def streamed (cs : List (GeneratedAudioChunk × Except ProviderError Unit)) :
    List (Except ProviderError Unit) × GeneratedAudioStreamingSink :=
  pushAll (fun c => GeneratedAudioStreamingSink.pushGeneratedAudio c.2 c.1) cs .new
