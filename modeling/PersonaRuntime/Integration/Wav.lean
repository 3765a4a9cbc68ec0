import PersonaRuntime.Collections.Bytes
import PersonaRuntime.Integration.Audio
import PersonaRuntime.Integration.Provider
import PersonaRuntime.Runtime.MediaTimeline

namespace AudioInput

def isWellFormed (a : AudioInput) : Bool :=
  let frameBytes := checkedMul a.channels a.sampleFormat.bytesPerSample
  0 < a.sampleRateHz && 0 < a.channels && !a.pcm.isEmpty &&
    frameBytes.any fun size => 0 < size && a.pcm.length % size == 0

end AudioInput

-- A call ends with an error or with a panic, which is what an index out of range is.
inductive Abort
  | error (e : ProviderError)
  | panicked
deriving DecidableEq

namespace Wav

def u16Max : Nat :=
  65535

def u32Max : Nat :=
  4294967295

-- The ids of the chunks, as bytes.
def riff : List UInt8 := [0x52, 0x49, 0x46, 0x46]
def wave : List UInt8 := [0x57, 0x41, 0x56, 0x45]
def fmt  : List UInt8 := [0x66, 0x6D, 0x74, 0x20]
def data : List UInt8 := [0x64, 0x61, 0x74, 0x61]

def encodeWav (a : AudioInput) : Except ProviderError (List UInt8) := do
  if a.sampleFormat ≠ .s16Le ∨ !a.isWellFormed then
    throw .invalidResponse
  if u32Max < a.pcm.length then
    throw .invalidResponse
  let dataLen := a.pcm.length
  let blockAlign := a.channels * 2
  if u16Max < blockAlign then
    throw .invalidResponse
  let byteRate := a.sampleRateHz * blockAlign
  if u32Max < byteRate then
    throw .invalidResponse
  let riffSize := 36 + dataLen
  if u32Max < riffSize then
    throw .invalidResponse
  return riff ++ leBytes 4 riffSize ++ wave ++ fmt ++ leBytes 4 16 ++ leBytes 2 1 ++ leBytes 2 a.channels ++
    leBytes 4 a.sampleRateHz ++ leBytes 4 byteRate ++ leBytes 2 blockAlign ++ leBytes 2 16 ++ data ++
    leBytes 4 dataLen ++ a.pcm

def invalid {α : Type} : Except Abort α :=
  .error (.error .invalidResponse)

-- `&bytes[start..stop]`
def index (bytes : List UInt8) (start stop : Nat) : Except Abort (List UInt8) :=
  match bytes.slice start stop with
  | some part => .ok part
  | none      => .error .panicked

def readLe (bytes : List UInt8) (start stop : Nat) : Except Abort Nat :=
  return leValue (← index bytes start stop)

structure Found where
  format : Option (Nat × Nat)
  pcm    : Option (List UInt8)
deriving DecidableEq

def readFormat (bytes : List UInt8) (dataStart chunkSize : Nat) : Except Abort (Nat × Nat) := do
  if chunkSize < 16 then
    invalid
  let audioFormat ← readLe bytes dataStart (dataStart + 2)
  let channels ← readLe bytes (dataStart + 2) (dataStart + 4)
  let sampleRate ← readLe bytes (dataStart + 4) (dataStart + 8)
  let bitsPerSample ← readLe bytes (dataStart + 14) (dataStart + 16)
  if audioFormat ≠ 1 ∨ channels = 0 ∨ sampleRate = 0 ∨ bitsPerSample ≠ 16 then
    invalid
  return (sampleRate, channels)

-- What a chunk adds to what was found before it.
def takeChunk (bytes id : List UInt8) (dataStart dataEnd chunkSize : Nat) (found : Found) :
    Except Abort Found :=
  if id = fmt then do
    return { found with format := some (← readFormat bytes dataStart chunkSize) }
  else if id = data then do
    return { found with pcm := some (← index bytes dataStart dataEnd) }
  else
    return found

-- The body of the loop: where the next chunk begins and what was found up to there.
def readChunk (bytes : List UInt8) (offset : Nat) (found : Found) : Except Abort (Nat × Found) := do
  let id ← index bytes offset (offset + 4)
  let chunkSize ← readLe bytes (offset + 4) (offset + 8)
  let dataStart := offset + 8
  match (checkedAdd dataStart chunkSize).filter (· ≤ bytes.length) with
  | none => invalid
  | some dataEnd =>
    let found ← takeChunk bytes id dataStart dataEnd chunkSize found
    match checkedAdd dataEnd (chunkSize % 2) with
    | none      => invalid
    | some next => return (next, found)

def chunkRemains (bytes : List UInt8) (offset : Nat) : Bool :=
  (checkedAdd offset 8).any (· ≤ bytes.length)

theorem readChunk_next {bytes : List UInt8} {offset next : Nat} {found found' : Found}
    (h : readChunk bytes offset found = .ok (next, found')) : offset + 8 ≤ next := by
  obtain ⟨id, -, h⟩ := Except.bind_eq_ok h
  obtain ⟨chunkSize, -, h⟩ := Except.bind_eq_ok h
  simp only at h
  split at h
  case h_1 => cases h
  case h_2 dataEnd he =>
    have ⟨he, _⟩ := Option.filter_eq_some_iff.mp he
    obtain ⟨-, rfl⟩ := checkedAdd_eq_some_iff.mp he
    obtain ⟨_, -, h⟩ := Except.bind_eq_ok h
    split at h
    case h_1 => cases h
    case h_2 next hn =>
      obtain ⟨-, rfl⟩ := checkedAdd_eq_some_iff.mp hn
      cases h
      omega

theorem readChunk_decreases {bytes : List UInt8} {offset next : Nat} {found found' : Found}
    (hc : chunkRemains bytes offset = true) (h : readChunk bytes offset found = .ok (next, found')) :
    bytes.length - next < bytes.length - offset := by
  have hn := readChunk_next h
  simp only [chunkRemains, Option.any_eq_true, checkedAdd_eq_some_iff, decide_eq_true_eq] at hc
  omega

-- Every chunk takes its header at least, so that the loop ends.
def readChunks (bytes : List UInt8) (offset : Nat) (found : Found) : Except Abort Found :=
  if hc : chunkRemains bytes offset = true then
    match hr : readChunk bytes offset found with
    | .error e          => .error e
    | .ok (next, found) =>
      have := readChunk_decreases hc hr
      readChunks bytes next found
  else
    .ok found
termination_by bytes.length - offset

def decodePcmWav (bytes : List UInt8) : Except Abort AudioInput := do
  if bytes.length < 12 then
    invalid
  if (← index bytes 0 4) ≠ riff then
    invalid
  if (← index bytes 8 12) ≠ wave then
    invalid
  let found ← readChunks bytes 12 ⟨none, none⟩
  match found.format, found.pcm with
  | some (sampleRateHz, channels), some pcm =>
    let audio : AudioInput := { pcm, sampleRateHz, channels, sampleFormat := .s16Le }
    if audio.isWellFormed then return audio else invalid
  | _, _ => invalid

end Wav
