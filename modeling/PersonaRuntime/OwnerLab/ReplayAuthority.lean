import PersonaRuntime.Domain.Ids
import PersonaRuntime.Text.Sentences

namespace ReplayAuthority

def slice {α : Type} (s : List α) (start «end» : Nat) : List α :=
  (s.take «end»).drop start

section Server

def isEnding (c : Char) : Bool :=
  ['.', '!', '?', '…'].contains c

def serverMarks : TextMarks Char where
  space    := ' '
  isSpace  := isWhiteSpace
  isStop   := isEnding
  space_eq := rfl
  disjoint := by
    intro c hc
    by_contra hs
    simp only [isEnding, Bool.not_eq_false, List.contains_eq_mem, List.mem_cons, List.not_mem_nil, or_false,
      decide_eq_true_eq] at hs
    obtain rfl | rfl | rfl | rfl := hs <;> cases hc

def len : List Char → Nat :=
  TextMarks.weight Char.utf8Size

def trim : List Char → List Char :=
  serverMarks.trim

def splitWhitespace : List Char → List (List Char) :=
  serverMarks.words

def join (parts : List (List Char)) : List Char :=
  [' '].intercalate parts

structure AuthorizedReply where
  requestSequence : Nat
  reply           : List Char
  resumeCount     : Nat
  interrupted     : Bool
deriving DecidableEq, Repr

def retainCompletedReply (sessionEndRequested : Bool) (requestSequence : Nat) (reply : List Char) :
    Option AuthorizedReply :=
  if sessionEndRequested || (trim reply).isEmpty || len reply > 16000 then
    none
  else
    some { requestSequence, reply, resumeCount := 0, interrupted := false }

def normalized (reply : List Char) : List Char :=
  join (splitWhitespace reply)

-- The loop over the characters of the normalized reply. What the inner loop has consumed is skipped.
def sentenceLoop (normalized : List Char) :
    List Char → (index skip start : Nat) → List (List Char) → Nat × List (List Char)
  | [], _, _, start, sentences => (start, sentences)
  | _ :: iter, index, skip + 1, start, sentences =>
    sentenceLoop normalized iter (index + 1) skip start sentences
  | character :: iter, index, 0, start, sentences =>
    if !isEnding character then
      sentenceLoop normalized iter (index + 1) 0 start sentences
    else
      let run := (iter.takeWhile isEnding).length
      let «end» := index + 1 + run
      if (normalized.drop «end»).isEmpty || (normalized.drop «end»).head?.any isWhiteSpace then
        let sentence := trim (slice normalized start «end»)
        let sentences := if sentence.isEmpty then sentences else sentences ++ [sentence]
        sentenceLoop normalized iter (index + 1) run «end» sentences
      else
        sentenceLoop normalized iter (index + 1) run start sentences

def splitSentences (normalized : List Char) : List (List Char) :=
  let (start, sentences) := sentenceLoop normalized normalized 0 0 0 []
  let remaining := trim (normalized.drop start)
  if remaining.isEmpty then sentences else sentences ++ [remaining]

def authorizedSentenceSuffix (reply : List Char) (sentenceIndex : Nat) : Option (List Char) :=
  if len reply > 16000 || sentenceIndex ≥ 80 then
    none
  else
    let sentences := splitSentences (normalized reply)
    if sentences.isEmpty || sentences.length > 80 || sentenceIndex ≥ sentences.length then
      none
    else
      let suffix := join (sentences.drop sentenceIndex)
      if !suffix.isEmpty && len suffix ≤ 16000 then some suffix else none

def isPunctuation (c : Char) : Bool :=
  ['.', '!', '?', '…', ',', ':', ';', '—', '–', '(', ')', '«', '»'].contains c

-- Which characters are letters and digits is up to the version of Unicode.
variable (isAlphanumeric : Char → Bool)

def wordBoundary (chars : List Char) (offset : Nat) : Bool :=
  offset == 0 || (chars[offset - 1]?).any isWhiteSpace
    || (chars[offset - 1]?).any isPunctuation && (chars[offset]?).any fun c => !isAlphanumeric c

def authorizedCharacterSuffix (reply : List Char) (offset : Nat) : Option (List Char) :=
  if len reply > 16000 then
    none
  else
    let chars := normalized reply
    if offset ≥ chars.length || offset > 16000 then
      none
    else if !wordBoundary isAlphanumeric chars offset then
      none
    else
      let suffix := trim (chars.drop offset)
      if !suffix.isEmpty && len suffix ≤ 16000 then some suffix else none

end Server

section Browser

abbrev CodeUnit := UInt16

def surrogates (c : Char) : List CodeUnit :=
  if c.toNat < 0x10000 then
    [UInt16.ofNat c.toNat]
  else
    [UInt16.ofNat (0xD800 + (c.toNat - 0x10000) / 0x400), UInt16.ofNat (0xDC00 + (c.toNat - 0x10000) % 0x400)]

def utf16 (s : List Char) : List CodeUnit :=
  s.flatMap surrogates

-- What `\s` matches, and what `trim` removes.
def isSpaceUnit (u : CodeUnit) : Bool :=
  (0x0009 ≤ u.toNat && u.toNat ≤ 0x000D) || (0x2000 ≤ u.toNat && u.toNat ≤ 0x200A)
    || [0x0020, 0x00A0, 0x1680, 0x2028, 0x2029, 0x202F, 0x205F, 0x3000, 0xFEFF].contains u.toNat

def isEndingUnit (u : CodeUnit) : Bool :=
  ['.', '!', '?', '…'].any fun c => c.toNat == u.toNat

def browserMarks : TextMarks CodeUnit where
  space    := 0x0020
  isSpace  := isSpaceUnit
  isStop   := isEndingUnit
  space_eq := rfl
  disjoint := by
    intro u hu
    by_contra hs
    simp only [isEndingUnit, Bool.not_eq_false, List.any_cons, List.any_nil, Bool.or_false, Bool.or_eq_true,
      beq_iff_eq] at hs
    obtain hs | hs | hs | hs := hs <;> simp [isSpaceUnit, ← hs] at hu

-- `/[.!?…]+(?=\s|$)/` at the start of a text: the longest run that what comes behind it allows.
def ending (s : List CodeUnit) : Option Nat :=
  go (s.takeWhile isEndingUnit).length
where
  go : Nat → Option Nat
    | 0          => none
    | length + 1 => if (s.drop (length + 1)).head?.all isSpaceUnit then some (length + 1) else go length

-- The matches by their index and their length. The next one is looked for behind the last one.
def matchAll : List CodeUnit → (index skip : Nat) → List (Nat × Nat)
  | [], _, _ => []
  | _ :: s, index, skip + 1 => matchAll s (index + 1) skip
  | u :: s, index, 0 =>
    match ending (u :: s) with
    | none        => matchAll s (index + 1) 0
    | some length => (index, length) :: matchAll s (index + 1) (length - 1)

def pushPhrase (joined : List CodeUnit) (state : Nat × List (List CodeUnit)) (matched : Nat × Nat) :
    Nat × List (List CodeUnit) :=
  let «end» := matched.1 + matched.2
  let phrase := browserMarks.trim (slice joined state.1 «end»)
  («end», if phrase.isEmpty then state.2 else state.2 ++ [phrase])

def phrases (joined : List CodeUnit) : List (List CodeUnit) :=
  let (start, sentences) := (matchAll joined 0 0).foldl (pushPhrase joined) (0, [])
  let remainder := browserMarks.trim (joined.drop start)
  if remainder.isEmpty then sentences else sentences ++ [remainder]

def joinUnits (parts : List (List CodeUnit)) : List CodeUnit :=
  [0x0020].intercalate parts

def resumeSentences (parts : List (List CodeUnit)) : List (List CodeUnit) :=
  if parts.length = 0 || parts.length > 32 then
    []
  else
    let joined := browserMarks.trim (browserMarks.collapse false (joinUnits parts))
    if joined.isEmpty || joined.length > 16000 then
      []
    else
      let sentences := phrases joined
      if sentences.length ≤ 80 then sentences else []

def replayTextFrom (sentences : List (List CodeUnit)) (index : Int) : Option (List CodeUnit) :=
  if index < 0 || index ≥ sentences.length then
    none
  else
    let text := browserMarks.trim (joinUnits (sentences.drop index.toNat))
    if text.length > 0 && text.length ≤ 16000 then some text else none

-- `Array.from`: a pair of surrogates is one element.
def arrayFrom : List CodeUnit → List (List CodeUnit)
  | u :: v :: s =>
    if 0xD800 ≤ u.toNat && u.toNat < 0xDC00 && 0xDC00 ≤ v.toNat && v.toNat < 0xE000 then
      [u, v] :: arrayFrom s
    else
      [u] :: arrayFrom (v :: s)
  | [u] => [[u]]
  | []  => []

def wordStart (reply : List CodeUnit) : Nat → Nat
  | 0          => 0
  | cursor + 1 => if (reply[cursor]?).any isSpaceUnit then cursor + 1 else wordStart reply cursor

def resumeWordOffset (reply : List CodeUnit) (utf16Cursor : Int) : Option Nat :=
  if utf16Cursor < 0 || utf16Cursor ≥ reply.length then
    none
  else
    some (arrayFrom (reply.take (wordStart reply utf16Cursor.toNat))).length

end Browser

end ReplayAuthority
