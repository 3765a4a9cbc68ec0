import PersonaRuntime.Integration.LlmStream
import PersonaRuntime.Integration.PcmStream
import PersonaRuntime.Text.Utf8

def lineFeed : UInt8 :=
  10

def carriageReturn : UInt8 :=
  13

-- A `BufRead`: what is left of the last read, and the reads to come.
structure BufferedReader where
  buffer : List UInt8
  reads  : List (List UInt8)
deriving DecidableEq

namespace BufferedReader

def fillBuf (r : BufferedReader) : BufferedReader :=
  match r.buffer, r.reads with
  | [], read :: reads => ⟨read, reads⟩
  | _, _              => r

def consume (r : BufferedReader) (n : Nat) : BufferedReader :=
  { r with buffer := r.buffer.drop n }

def size (r : BufferedReader) : Nat :=
  r.buffer.length + (r.reads.flatten.length + r.reads.length)

theorem size_consumed {r : BufferedReader} (h : r.fillBuf.buffer ≠ []) :
    (r.fillBuf.consume r.fillBuf.buffer.length).size < r.size := by
  have hl := List.length_pos_iff.mpr h
  unfold fillBuf at hl ⊢
  split at hl
  case h_1 hb hr =>
    simp only [consume, size, hb, hr, List.drop_length, List.length_nil, List.flatten_cons, List.length_append,
      List.length_cons]
    omega
  case h_2 =>
    simp only [consume, size, List.drop_length, List.length_nil]
    omega

end BufferedReader

-- Both framers end a line in this way.
def finishFrame (pending : List UInt8) : Except ProviderError (Option String) :=
  let line := if pending.getLast? = some carriageReturn then pending.dropLast else pending
  match fromUtf8 line with
  | some text => .ok (some text)
  | none      => .error .invalidResponse

structure BoundedProviderLineReader where
  reader       : BufferedReader
  maxLineBytes : Nat
  pending      : List UInt8
deriving DecidableEq

namespace BoundedProviderLineReader

def new (reads : List (List UInt8)) (maxLineBytes : Nat) : BoundedProviderLineReader where
  reader       := ⟨[], reads⟩
  maxLineBytes := maxLineBytes
  pending      := []

-- The loop of `next_line`, where nothing is cancelled and no read fails.
def scan (b : BoundedProviderLineReader) : Except ProviderError (Option String) × BoundedProviderLineReader :=
  if h : b.reader.fillBuf.buffer = [] then
    if b.pending.isEmpty then
      (.ok none, { b with reader := b.reader.fillBuf })
    else
      (finishFrame b.pending, { b with reader := b.reader.fillBuf, pending := [] })
  else
    match b.reader.fillBuf.buffer.findIdx? (· == lineFeed) with
    | some newline =>
      if b.pending.length + newline > b.maxLineBytes then
        (.error .invalidResponse, { b with reader := b.reader.fillBuf })
      else
        (finishFrame (b.pending ++ b.reader.fillBuf.buffer.take newline),
          { b with reader := b.reader.fillBuf.consume (newline + 1), pending := [] })
    | none =>
      if b.pending.length + b.reader.fillBuf.buffer.length > b.maxLineBytes then
        (.error .invalidResponse, { b with reader := b.reader.fillBuf })
      else
        have := BufferedReader.size_consumed h
        scan { b with
          reader  := b.reader.fillBuf.consume b.reader.fillBuf.buffer.length
          pending := b.pending ++ b.reader.fillBuf.buffer }
termination_by b.reader.size

def nextLine (b : BoundedProviderLineReader) :
    Except ProviderError (Option String) × BoundedProviderLineReader :=
  if b.maxLineBytes = 0 then
    (.error .invalidResponse, b)
  else
    scan { b with pending := [] }

end BoundedProviderLineReader

-- The response by the reads that it will give. The usage and the end of the protocol are kept beside
-- the lines.
structure OpenAiTextStream where
  response    : Option (List (List UInt8))
  pending     : List UInt8
  chunk       : List UInt8
  chunkOffset : Nat
deriving DecidableEq

namespace OpenAiTextStream

def new (reads : List (List UInt8)) : OpenAiTextStream where
  response    := some reads
  pending     := []
  chunk       := []
  chunkOffset := 0

def size (s : OpenAiTextStream) : Nat :=
  (s.chunk.drop s.chunkOffset).length + s.response.elim 0 fun reads => reads.flatten.length + reads.length

-- Where nothing is cancelled and no read fails.
def nextLine (s : OpenAiTextStream) : Except ProviderError (Option String) × OpenAiTextStream :=
  if _h : s.chunkOffset < s.chunk.length then
    let newline := (s.chunk.drop s.chunkOffset).findIdx? (· == lineFeed)
    let lineBytes := newline.getD (s.chunk.drop s.chunkOffset).length
    if s.pending.length + lineBytes > maxProviderStreamLineBytes then
      (.error .invalidResponse, { s with response := none })
    else
      let pending := s.pending ++ (s.chunk.drop s.chunkOffset).take lineBytes
      match newline with
      | some _ => (finishFrame pending, { s with pending := [], chunkOffset := s.chunkOffset + lineBytes + 1 })
      | none   => nextLine { s with pending, chunk := [], chunkOffset := 0 }
  else
    match _hr : s.response with
    | none                => (.error .invalidResponse, { s with chunk := [], chunkOffset := 0 })
    | some []             =>
      let ended := { s with response := none, chunk := [], chunkOffset := 0 }
      if s.pending.isEmpty then
        (.ok none, ended)
      else if s.pending.length > maxProviderStreamLineBytes then
        (.error .invalidResponse, ended)
      else
        (finishFrame s.pending, { ended with pending := [] })
    | some (read :: reads) =>
      -- `AsyncProviderHttp::chunk`
      if read.length > maxProviderBinaryBodyBytes then
        (.error .invalidResponse, { s with response := none, chunk := [], chunkOffset := 0 })
      else
        nextLine { s with response := some reads, chunk := read, chunkOffset := 0 }
termination_by s.size
decreasing_by
  · simp only [size, List.length_drop, List.drop_nil, List.length_nil]
    omega
  · simp only [size, _hr, List.length_drop, Option.elim_some, List.flatten_cons, List.length_append, List.length_cons]
    omega

end OpenAiTextStream
