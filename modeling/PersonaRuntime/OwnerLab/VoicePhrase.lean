import PersonaRuntime.Text.Trim

def firstClauseMinChars : Nat :=
  12

def nextClauseMinChars : Nat :=
  48

def firstPhraseSoftLimitChars : Nat :=
  24

def nextPhraseSoftLimitChars : Nat :=
  96

-- The indices of the source are byte offsets of characters. Here they count the characters.
structure RealtimePhraseBuffer where
  pending    : List Char
  emittedAny : Bool
deriving DecidableEq

namespace RealtimePhraseBuffer

def default : RealtimePhraseBuffer where
  pending    := []
  emittedAny := false

-- `char::is_ascii_digit`
def isAsciiDigit (c : Char) : Bool :=
  '0' ≤ c && c ≤ '9'

def endsSentence (c : Char) : Bool :=
  c == '.' || c == '!' || c == '?' || c == '…' || c == '\n'

def endsClause (c : Char) : Bool :=
  c == ',' || c == ';' || c == ':' || c == '—'

-- A period between digits, or behind a digit where the next character has not arrived.
def deferred (previous : Option Char) (c : Char) (rest : List Char) : Bool :=
  c == '.' && previous.any isAsciiDigit && rest.head?.all isAsciiDigit

def sentenceBoundary (previous : Option Char) : List Char → Option Nat
  | []        => none
  | c :: rest =>
    if endsSentence c && !deferred previous c rest then
      some 1
    else
      (sentenceBoundary (some c) rest).map (· + 1)

def clauseBoundary (clauseMin charsSeen : Nat) : List Char → Option Nat
  | []        => none
  | c :: rest =>
    if charsSeen + 1 ≥ clauseMin ∧ endsClause c then
      some 1
    else
      (clauseBoundary clauseMin (charsSeen + 1) rest).map (· + 1)

def noteWhitespace (found : Option Nat) (c : Char) (boundary : Nat) : Option Nat :=
  if isWhiteSpace c then some boundary else found

-- The last one within the limit.
def whitespaceBoundary (limit charsSeen : Nat) (found : Option Nat) : List Char → Option Nat
  | []        => found
  | c :: rest =>
    if charsSeen + 1 ≥ limit then
      noteWhitespace found c (charsSeen + 1)
    else
      whitespaceBoundary limit (charsSeen + 1) (noteWhitespace found c (charsSeen + 1)) rest

variable (b : RealtimePhraseBuffer)

def clauseMin : Nat :=
  if b.emittedAny then nextClauseMinChars else firstClauseMinChars

def limit : Nat :=
  if b.emittedAny then nextPhraseSoftLimitChars else firstPhraseSoftLimitChars

def nextBoundary : Option Nat :=
  match sentenceBoundary none b.pending with
  | some boundary => some boundary
  | none          =>
    match clauseBoundary b.clauseMin 0 b.pending with
    | some boundary => some boundary
    | none          =>
      if b.pending.length < b.limit then
        none
      else
        whitespaceBoundary b.limit 0 none b.pending

-- Everything up to a boundary, and what is left.
def splitOff (boundary : Nat) : RealtimePhraseBuffer where
  pending    := b.pending.drop boundary
  emittedAny := b.emittedAny || !(trimmed (b.pending.take boundary)).isEmpty

def phrase (text : List Char) : List (List Char) :=
  if (trimmed text).isEmpty then [] else [trimmed text]

-- A character that a phrase may end with.
def isBreak (c : Char) : Bool :=
  isWhiteSpace c || endsSentence c || endsClause c

section

variable {previous : Option Char} {text : List Char} {min limit seen n : Nat}

-- A boundary stands behind a character with the property, which may look to both sides.
def Behind (p : List Char → Char → List Char → Prop) (text : List Char) (n : Nat) : Prop :=
  ∃ front c back, text = front ++ c :: back ∧ n = front.length + 1 ∧ p front c back

theorem Behind.cons {p : List Char → Char → List Char → Prop} {c : Char}
    (h : Behind (fun front => p (c :: front)) text n) : Behind p (c :: text) (n + 1) := by
  obtain ⟨front, d, back, rfl, rfl, hp⟩ := h
  exact ⟨c :: front, d, back, rfl, rfl, hp⟩

theorem Behind.mono {p q : List Char → Char → List Char → Prop} (h : Behind p text n)
    (hm : ∀ {front c back}, p front c back → q front c back) : Behind q text n := by
  obtain ⟨front, c, back, ht, hn, hp⟩ := h
  exact ⟨front, c, back, ht, hn, hm hp⟩

theorem sentenceBoundary_behind (h : sentenceBoundary previous text = some n) :
    Behind (fun front c back => endsSentence c ∧ deferred (front.getLast?.or previous) c back = false) text n := by
  induction text generalizing previous n
  case nil => cases h
  case cons c rest hi =>
    unfold sentenceBoundary at h
    split at h
    case isTrue hc =>
      cases h
      refine ⟨[], c, rest, rfl, rfl, ?_⟩
      simpa using hc
    case isFalse =>
      obtain ⟨m, hm, rfl⟩ := Option.map_eq_some_iff.mp h
      apply Behind.cons
      apply (hi hm).mono
      intro front d back hd
      rw [List.getLast?_cons, Option.some_or]
      cases hl : front.getLast? <;> simpa [hl] using hd

theorem clauseBoundary_behind (h : clauseBoundary min seen text = some n) :
    Behind (fun _ c _ => endsClause c) text n := by
  induction text generalizing seen n
  case nil => cases h
  case cons c rest hi =>
    unfold clauseBoundary at h
    split at h
    case isTrue hc =>
      cases h
      exact ⟨[], c, rest, rfl, rfl, hc.right⟩
    case isFalse =>
      obtain ⟨m, hm, rfl⟩ := Option.map_eq_some_iff.mp h
      exact (hi hm).cons

theorem whitespaceBoundary_behind {found : Option Nat} {before : List Char} (hl : before.length = seen)
    (hf : ∀ {n}, found = some n → Behind (fun _ c _ => isWhiteSpace c) (before ++ text) n)
    (h : whitespaceBoundary limit seen found text = some n) :
    Behind (fun _ c _ => isWhiteSpace c) (before ++ text) n := by
  induction text generalizing seen found before
  case nil => exact hf h
  case cons c rest hi =>
    have hf' {n : Nat} (hn : noteWhitespace found c (seen + 1) = some n) :
        Behind (fun _ c _ => isWhiteSpace c) (before ++ c :: rest) n := by
      unfold noteWhitespace at hn
      split at hn
      case isTrue hc =>
        cases hn
        exact ⟨before, c, rest, rfl, by rw [hl], hc⟩
      case isFalse => exact hf hn
    unfold whitespaceBoundary at h
    split at h
    case isTrue => exact hf' h
    case isFalse =>
      have hb : Behind (fun _ c _ => isWhiteSpace c) ((before ++ [c]) ++ rest) n :=
        hi (by simp [hl]) (by intro n hn; simpa using hf' hn) h
      simpa using hb

end

variable {b : RealtimePhraseBuffer} {n : Nat}

-- A period that ends a phrase is not one that waits for a digit.
theorem nextBoundary_behind (h : b.nextBoundary = some n) :
    Behind (fun front c back => isBreak c ∧ (c = '.' → deferred front.getLast? c back = false)) b.pending n := by
  unfold nextBoundary at h
  split at h
  case h_1 boundary hs =>
    cases h
    apply (sentenceBoundary_behind hs).mono
    intro front c back hc
    simp only [Option.or_none] at hc
    exact ⟨by simp [isBreak, hc.left], fun _ => hc.right⟩
  case h_2 =>
    split at h
    case h_1 boundary hc =>
      cases h
      apply (clauseBoundary_behind hc).mono
      intro front c back hc
      refine ⟨by simp [isBreak, hc], ?_⟩
      rintro rfl
      exact absurd hc (by decide)
    case h_2 =>
      split at h
      case isTrue => cases h
      case isFalse =>
        have hw : Behind (fun _ c _ => isWhiteSpace c) ([] ++ b.pending) n :=
          whitespaceBoundary_behind rfl (fun hf => by cases hf) h
        apply hw.mono
        intro front c back hc
        refine ⟨by simp [isBreak, hc], ?_⟩
        rintro rfl
        exact absurd hc (by decide)

theorem length_splitOff (h : b.nextBoundary = some n) : (b.splitOff n).pending.length < b.pending.length := by
  obtain ⟨front, c, back, hp, rfl, -⟩ := nextBoundary_behind h
  simp only [splitOff, hp, List.length_drop, List.length_append, List.length_cons]
  omega

-- The loop of `push`.
def drain (b : RealtimePhraseBuffer) : List (List Char) × RealtimePhraseBuffer :=
  match h : b.nextBoundary with
  | none          => ([], b)
  | some boundary =>
    have := length_splitOff h
    let (output, b') := drain (b.splitOff boundary)
    (phrase (b.pending.take boundary) ++ output, b')
termination_by b.pending.length

def push (b : RealtimePhraseBuffer) (chunk : List Char) : List (List Char) × RealtimePhraseBuffer :=
  drain { b with pending := b.pending ++ chunk }

def finish (b : RealtimePhraseBuffer) : List (List Char) × RealtimePhraseBuffer :=
  (phrase b.pending, { b with pending := [] })

-- A reply that arrives in chunks.
def speak (b : RealtimePhraseBuffer) : List (List Char) → List (List Char)
  | []              => (b.finish).1
  | chunk :: chunks => (b.push chunk).1 ++ speak (b.push chunk).2 chunks

end RealtimePhraseBuffer
