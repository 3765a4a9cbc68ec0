import PersonaRuntime.Integration.PcmStream
import PersonaRuntime.OwnerLab.Requests

open PcmStream

namespace VoiceUpload

def maxVoiceBodyBytes : Nat :=
  960000

def readBytes : Nat :=
  3200

def consume (receive : List UInt8 → Except LabError Unit) (buffer : List UInt8) :
    EStateM LabError PcmStream Unit := do
  let read := buffer.length
  let start ← match ← takePending with
    | some first => do
      push receive [first, buffer.getD 0 0]
      pure 1
    | none => pure 0
  let evenEnd := start + (read - start) / 2 * 2
  if evenEnd > start then
    push receive ((buffer.take evenEnd).drop start)
  if evenEnd < read then
    modify ({ · with pendingByte := some (buffer.getD (read - 1) 0) })

def streamVoiceBody (receive : List UInt8 → Except LabError Unit) (request : Reader UInt8) :
    EStateM LabError (Nat × PcmStream) Unit := do
  readLoop (fun _ => readBytes) (fun buffer => do
    let totalBytes := (← get).1 + buffer.length
    modify fun s => (totalBytes, s.2)
    if totalBytes > maxVoiceBodyBytes then
      throw .invalidInput
    onStream (consume receive buffer)) request
  let (totalBytes, stream) ← get
  if totalBytes = 0 ∨ stream.pendingByte.isSome then
    throw .invalidInput

end VoiceUpload
