import PersonaRuntime.Integration.Provider
import PersonaRuntime.Machine.ReadLoop

def maxProviderBinaryBodyBytes : Nat :=
  16 * 1024 * 1024

-- The odd byte that waits for the next read, and the chunks that the receiver was called with.
structure PcmStream where
  pendingByte : Option UInt8
  pushed      : List (List UInt8)
deriving DecidableEq

namespace PcmStream

variable {ε : Type}

def new : PcmStream where
  pendingByte := none
  pushed      := []

-- A call of the receiver, `push_generated_audio` or `push_audio`.
def push (receive : List UInt8 → Except ε Unit) (chunk : List UInt8) : EStateM ε PcmStream Unit := do
  modify fun s => { s with pushed := s.pushed ++ [chunk] }
  .check id (receive chunk)

-- `pending.take()`
def takePending : EStateM ε PcmStream (Option UInt8) := do
  let pending := (← get).pendingByte
  modify ({ · with pendingByte := none })
  return pending

-- The state of a loop is the number of bytes that were read and the stream.
def onStream (x : EStateM ε PcmStream Unit) : EStateM ε (Nat × PcmStream) Unit :=
  .zoom Prod.snd (fun s stream => (s.1, stream)) id x

end PcmStream

open PcmStream

-- A call that is not cancelled and whose reads do not fail.
def readBoundedProviderStream (contentLength : Option Nat) (maxBytes : Nat)
    (consume : List UInt8 → EStateM ProviderError PcmStream Unit) (response : Reader UInt8) :
    EStateM ProviderError (Nat × PcmStream) Nat := do
  if maxBytes = 0 then
    throw .invalidResponse
  if contentLength.any (maxBytes < ·) then
    throw .invalidResponse
  readLoop (fun s => min (maxBytes - s.1 + 1) 8192) (fun bytes => do
    let remaining := maxBytes - (← get).1
    if bytes.length > remaining then
      throw .invalidResponse
    onStream (consume bytes)
    modify fun s => (s.1 + bytes.length, s.2)) response
  return (← get).1

namespace ElevenLabs

def consume (receive : List UInt8 → Except ProviderError Unit) (bytes : List UInt8) :
    EStateM ProviderError PcmStream Unit := do
  let start ← match ← takePending with
    | some first => do
      push receive [first, bytes.getD 0 0]
      pure 1
    | none => pure 0
  let alignedEnd := start + (bytes.length - start) / 2 * 2
  if alignedEnd > start then
    push receive ((bytes.take alignedEnd).drop start)
  if alignedEnd < bytes.length then
    modify ({ · with pendingByte := some (bytes.getD alignedEnd 0) })

def streamPcm (contentLength : Option Nat) (receive : List UInt8 → Except ProviderError Unit)
    (response : Reader UInt8) : EStateM ProviderError (Nat × PcmStream) Nat := do
  let total ← readBoundedProviderStream contentLength maxProviderBinaryBodyBytes (consume receive) response
  if total = 0 ∨ (← get).2.pendingByte.isSome then
    throw .invalidResponse
  return total

end ElevenLabs

namespace OpenAiSpeech

-- The chunk is put together before it is cut.
def consume (receive : List UInt8 → Except ProviderError Unit) (bytes : List UInt8) :
    EStateM ProviderError PcmStream Unit := do
  let chunk := (← takePending).toList ++ bytes
  let chunk ←
    if chunk.length % 2 ≠ 0 then do
      modify ({ · with pendingByte := chunk.getLast? })
      pure chunk.dropLast
    else
      pure chunk
  if !chunk.isEmpty then
    push receive chunk

-- `stream_pcm_body` from where it has checked the headers.
def streamPcmBody (sampleRateHz textChars : Nat) (receive : List UInt8 → Except ProviderError Unit)
    (response : Reader UInt8) : EStateM ProviderError (Nat × PcmStream) UsageEvidence := do
  readLoop (fun _ => 8192) (fun bytes => do
    let total := (← get).1 + bytes.length
    if total > maxProviderBinaryBodyBytes then
      throw .invalidResponse
    modify fun s => (total, s.2)
    onStream (consume receive bytes)) response
  let (total, stream) ← get
  if total = 0 ∨ stream.pendingByte.isSome then
    throw .invalidResponse
  let duration := total * 1000 / (sampleRateHz * 2)
  return { UsageEvidence.default with
    inputUnits  := some textChars
    inputUnit   := some .textCharacter
    outputUnits := some duration
    outputUnit  := some .audioMillisecond }

end OpenAiSpeech
