import PersonaRuntime.OwnerLab.VoicePhrase

section

variable {text : List Char}

theorem trimmed_isEmpty : (trimmed text).isEmpty = text.all isWhiteSpace := by
  rw [Bool.eq_iff_iff, List.isEmpty_iff, trimmed, List.rdropWhile_eq_nil_iff, List.all_eq_true]
  constructor
  case mp =>
    intro h c hc
    rw [← List.takeWhile_append_dropWhile (p := isWhiteSpace) (l := text)] at hc
    exact (List.mem_append.mp hc).elim List.mem_takeWhile_imp (h c)
  case mpr => exact fun h c hc => h c (List.dropWhile_sublist _ |>.mem hc)

-- Only white space is trimmed.
theorem filter_trimmed : (trimmed text).filter (!isWhiteSpace ·) = text.filter (!isWhiteSpace ·) := by
  have hd (text : List Char) : (text.dropWhile isWhiteSpace).filter (!isWhiteSpace ·) =
      text.filter (!isWhiteSpace ·) := by
    induction text
    case nil => rfl
    case cons c rest hi =>
      by_cases hc : isWhiteSpace c = true <;> simp [hc, hi]
  rw [trimmed, List.rdropWhile, List.filter_reverse, hd, List.filter_reverse, List.reverse_reverse, hd]

theorem all_trimmed : (trimmed text).all isWhiteSpace = text.all isWhiteSpace := by
  have hf (text : List Char) : text.all isWhiteSpace = (text.filter (!isWhiteSpace ·)).isEmpty := by
    rw [Bool.eq_iff_iff, List.isEmpty_iff, List.filter_eq_nil_iff, List.all_eq_true]
    simp
  rw [hf, filter_trimmed, ← hf]

end

namespace RealtimePhraseBuffer

-- A character inside a word or a number.
def isOrdinary (c : Char) : Bool :=
  !isWhiteSpace c && !(c ∈ ['.', '!', '?', '…', ',', ';', ':', '—'])

-- Where a text may be cut in two.
structure Cut (front back : List Char) : Prop where
  ends  : ∃ c, front.getLast? = some c ∧ isBreak c = true
  point : ∀ {rest a}, front = rest ++ [a, '.'] → isAsciiDigit a → ∃ c, back.head? = some c ∧ isAsciiDigit c = false

theorem Cut.append {front back : List Char} (h : Cut front back) (more : List Char) : Cut front (back ++ more) where
  ends        := h.ends
  point hf ha := by
    obtain ⟨c, hc, hd⟩ := h.point hf ha
    exact ⟨c, by simp [List.head?_append, hc], hd⟩

theorem not_isAsciiDigit_of_isBreak {c : Char} (h : isBreak c = true) : isAsciiDigit c = false := by
  simp only [isBreak, Bool.or_eq_true] at h
  obtain (h | h) | h := h
  case inl.inl =>
    rw [Bool.eq_false_iff]
    intro hd
    have hc : 48 ≤ c.toNat ∧ c.toNat ≤ 57 := by
      simpa [isAsciiDigit, Char.le_def, UInt32.le_iff_toNat_le] using hd
    simp only [isWhiteSpace, Bool.or_eq_true, Bool.and_eq_true, decide_eq_true_eq, beq_iff_eq] at h
    omega
  case inl.inr =>
    simp only [endsSentence, Bool.or_eq_true, beq_iff_eq] at h
    obtain (((rfl | rfl) | rfl) | rfl) | rfl := h <;> rfl
  case inr =>
    simp only [endsClause, Bool.or_eq_true, beq_iff_eq] at h
    obtain ((rfl | rfl) | rfl) | rfl := h <;> rfl

-- A cut of what follows another cut.
theorem Cut.behind {before front back : List Char} (h : Cut front back)
    (hb : ∀ c, before.getLast? = some c → isBreak c = true) : Cut (before ++ front) back where
  ends := by
    obtain ⟨c, hc, hk⟩ := h.ends
    exact ⟨c, by simp [List.getLast?_append, hc], hk⟩
  point {rest a} hf ha := by
    obtain ⟨d, hd, -⟩ := h.ends
    obtain rfl | ⟨front, x, rfl⟩ := List.eq_nil_or_concat front
    case inl => cases hd
    case inr =>
      rw [List.concat_eq_append, ← List.append_assoc, List.append_cons rest a ['.']] at hf
      have hi := List.append_inj' hf rfl
      cases hi.right
      -- The character before the period is on one of the two sides.
      obtain rfl | ⟨start, y, rfl⟩ := List.eq_nil_or_concat front
      case inl =>
        have ht : before = rest ++ [a] := by simpa using hi.left
        have hk := not_isAsciiDigit_of_isBreak (hb a (by simp [ht]))
        simp [hk] at ha
      case inr =>
        have ht : before ++ start ++ [y] = rest ++ [a] := by simpa using hi.left
        have hy : y = a := by simpa using (List.append_inj' ht rfl).right
        have hs : (start.concat y).concat '.' = start ++ [a, '.'] := by simp [hy]
        exact h.point hs ha

theorem nextBoundary_cut {b : RealtimePhraseBuffer} {n : Nat} (h : b.nextBoundary = some n) :
    b.pending.take n ≠ [] ∧ Cut (b.pending.take n) (b.pending.drop n) := by
  obtain ⟨front, c, back, hp, rfl, hb, hd⟩ := nextBoundary_behind h
  have ht : b.pending.take (front.length + 1) = front ++ [c] := by
    simp [hp, List.take_append, List.take_of_length_le]
  have hr : b.pending.drop (front.length + 1) = back := by simp [hp, List.drop_append]
  rw [ht, hr]
  refine ⟨by simp, ⟨c, by simp, hb⟩, fun {rest a} hf ha => ?_⟩
  obtain ⟨rfl, hc⟩ := List.append_inj' (hf.trans (List.append_cons rest a ['.'])) rfl
  obtain rfl : c = '.' := by simpa using hc
  have hx := hd rfl
  cases back
  case nil => simp [deferred, ha] at hx
  case cons e back => exact ⟨e, rfl, by simpa [deferred, ha] using hx⟩

-- The pieces that a text was cut into, and what is still uncut.
structure Cuts (slices : List (List Char)) (rest : List Char) : Prop where
  nonempty : ∀ slice ∈ slices, slice ≠ []
  cut      : ∀ {before after}, slices = before ++ after → before ≠ [] → Cut before.flatten (after.flatten ++ rest)

namespace Cuts

variable {slices : List (List Char)} {rest : List Char}

theorem nil : Cuts [] rest where
  nonempty := nofun
  cut h hn := absurd (List.append_eq_nil_iff.mp h.symm).left hn

theorem append (h : Cuts slices rest) (more : List Char) : Cuts slices (rest ++ more) where
  nonempty    := h.nonempty
  cut hs hn   := by
    rw [← List.append_assoc]
    exact (h.cut hs hn).append more

theorem breaks (h : Cuts slices rest) {c : Char} (hc : slices.flatten.getLast? = some c) : isBreak c = true := by
  by_cases hn : slices = []
  case pos => simp [hn] at hc
  case neg =>
    obtain ⟨d, hd, hk⟩ := (h.cut (List.append_nil slices).symm hn).ends
    rw [hc] at hd
    cases hd
    exact hk

theorem snoc (h : Cuts slices rest) {front back : List Char} (hr : rest = front ++ back) (hn : front ≠ [])
    (hc : Cut front back) : Cuts (slices ++ [front]) back where
  nonempty slice hs := by
    obtain hs | hs := List.mem_append.mp hs
    · exact h.nonempty slice hs
    · exact List.mem_singleton.mp hs ▸ hn
  cut {before after} hs hb := by
    obtain rfl | ⟨after, last, rfl⟩ := List.eq_nil_or_concat after
    case inl =>
      rw [List.append_nil] at hs
      subst hs
      simpa using hc.behind fun c hc => h.breaks hc
    case inr =>
      rw [List.concat_eq_append, ← List.append_assoc] at hs
      have hl := List.append_inj' hs rfl
      cases hl.right
      have hx := h.cut hl.left hb
      rw [hr] at hx
      simpa using hx

end Cuts

-- What was fed to a buffer, in the slices that it was cut into, and what it has said.
structure Fed (b : RealtimePhraseBuffer) (input : List Char) (slices said : List (List Char)) : Prop where
  whole : slices.flatten ++ b.pending = input
  said  : said = slices.flatMap phrase
  cuts  : Cuts slices b.pending

variable {b : RealtimePhraseBuffer} {input : List Char} {slices said : List (List Char)}

theorem drain_none (h : b.nextBoundary = none) : b.drain = ([], b) := by
  unfold drain
  split
  case h_1 => rfl
  case h_2 hs => simp [h] at hs

theorem drain_some {n : Nat} (h : b.nextBoundary = some n) :
    b.drain = (phrase (b.pending.take n) ++ (b.splitOff n).drain.1, (b.splitOff n).drain.2) := by
  rw [drain]
  split
  case h_1 hn => simp [h] at hn
  case h_2 m hs =>
    rw [h] at hs
    cases hs
    rfl

theorem Fed.splitOff {n : Nat} (f : Fed b input slices said) (h : b.nextBoundary = some n) :
    Fed (b.splitOff n) input (slices ++ [b.pending.take n]) (said ++ phrase (b.pending.take n)) where
  whole := by simpa [RealtimePhraseBuffer.splitOff] using f.whole
  said  := by simp [f.said]
  cuts  := by
    have hc := nextBoundary_cut h
    exact f.cuts.snoc (List.take_append_drop n _).symm hc.left hc.right

theorem Fed.drain (f : Fed b input slices said) :
    ∃ slices, Fed (b.drain).2 input slices (said ++ (b.drain).1) := by
  induction b using RealtimePhraseBuffer.drain.induct generalizing slices said
  case case1 b h =>
    refine ⟨slices, ?_⟩
    rw [drain_none h, List.append_nil]
    exact f
  case case2 b n h _ hi =>
    rw [drain_some ‹_›, ← List.append_assoc]
    exact hi (f.splitOff ‹_›)

theorem Fed.push (f : Fed b input slices said) (chunk : List Char) :
    ∃ slices, Fed (b.push chunk).2 (input ++ chunk) slices (said ++ (b.push chunk).1) := by
  apply Fed.drain
  exact {
    whole := by simp [← f.whole]
    said  := f.said
    cuts  := f.cuts.append chunk }

-- Where a reply may be cut: neither inside a number nor inside a word.
structure Boundary (front back : List Char) : Prop where
  number : ∀ {rest a}, front = rest ++ [a, '.'] → isAsciiDigit a → ∀ c, back.head? = some c → isAsciiDigit c = false
  word   : ∀ a c, front.getLast? = some a → back.head? = some c → ¬(isOrdinary a ∧ isOrdinary c)

-- A reply in consecutive slices, of which those that are not blank are spoken.
structure Spoken (input : List Char) (slices phrases : List (List Char)) : Prop where
  whole    : slices.flatten = input
  nonempty : ∀ slice ∈ slices, slice ≠ []
  said     : phrases = (slices.filter fun slice => !slice.all isWhiteSpace).map trimmed
  spoken   : ∀ phrase ∈ phrases, ¬phrase.all isWhiteSpace
  kept     : phrases.flatten.filter (!isWhiteSpace ·) = input.filter (!isWhiteSpace ·)
  boundary : ∀ {before after}, slices = before ++ after → Boundary before.flatten after.flatten

theorem not_isOrdinary_of_isBreak {c : Char} (h : isBreak c = true) : isOrdinary c = false := by
  simp only [isBreak, endsSentence, endsClause, Bool.or_eq_true, beq_iff_eq] at h
  obtain (h | (((rfl | rfl) | rfl) | rfl) | rfl) | ((rfl | rfl) | rfl) | rfl := h
  case inl.inl => simp [isOrdinary, h]
  all_goals rfl

theorem Cut.boundary {front back : List Char} (h : Cut front back) : Boundary front back where
  number hf ha c hc := by
    obtain ⟨d, hd, hn⟩ := h.point hf ha
    rw [hd] at hc
    cases hc
    exact hn
  word a c ha _ := by
    obtain ⟨d, hd, hk⟩ := h.ends
    rw [hd] at ha
    cases ha
    simp [not_isOrdinary_of_isBreak hk]

theorem flatMap_phrase (slices : List (List Char)) :
    slices.flatMap phrase = (slices.filter fun slice => !slice.all isWhiteSpace).map trimmed := by
  induction slices
  case nil => rfl
  case cons slice slices hi =>
    by_cases h : slice.all isWhiteSpace = true <;>
      simp only [List.flatMap_cons, List.filter_cons, phrase, trimmed_isEmpty, h, hi] <;> rfl

theorem filter_phrases (slices : List (List Char)) :
    (slices.flatMap phrase).flatten.filter (!isWhiteSpace ·) = slices.flatten.filter (!isWhiteSpace ·) := by
  induction slices
  case nil => rfl
  case cons slice slices hi =>
    have hp : (phrase slice).flatten = trimmed slice := by
      unfold phrase
      split
      case isTrue h => exact (List.isEmpty_iff.mp h).symm
      case isFalse  => simp
    simp only [List.flatMap_cons, List.flatten_append, List.flatten_cons, List.filter_append, hp, filter_trimmed, hi]

theorem Boundary.start {back : List Char} : Boundary [] back where
  number hf := by simp at hf
  word _ _ ha := by cases ha

theorem Boundary.finish {front : List Char} : Boundary front [] where
  number _ _ _ hc := by cases hc
  word _ _ _ hc   := by cases hc

-- The slices of a buffer, with what is left as the last one.
theorem Fed.boundary (f : Fed b input slices said) {last before after : List (List Char)}
    (hl : last = [] ∧ b.pending = [] ∨ last = [b.pending]) (hs : slices ++ last = before ++ after) :
    Boundary before.flatten after.flatten := by
  by_cases hb : before = []
  case pos => exact hb ▸ .start
  case neg =>
    obtain ⟨rfl, hp⟩ | rfl := hl
    case inl =>
      rw [List.append_nil] at hs
      simpa [hp] using (f.cuts.cut hs hb).boundary
    case inr =>
      obtain rfl | ⟨after, x, rfl⟩ := List.eq_nil_or_concat after
      case inl => exact .finish
      case inr =>
        rw [List.concat_eq_append, ← List.append_assoc] at hs
        have hi := List.append_inj' hs rfl
        have hx : b.pending = x := by simpa using hi.right
        simpa [hx] using (f.cuts.cut hi.left hb).boundary

theorem Fed.spoken (f : Fed b input slices said) : ∃ slices, Spoken input slices (said ++ phrase b.pending) := by
  obtain ⟨last, hl, hn⟩ : ∃ last, (last = [] ∧ b.pending = [] ∨ last = [b.pending]) ∧ ∀ slice ∈ last, slice ≠ [] := by
    by_cases hp : b.pending = []
    case pos => exact ⟨[], .inl ⟨rfl, hp⟩, nofun⟩
    case neg => exact ⟨[b.pending], .inr rfl, by simpa using hp⟩
  have hw : (slices ++ last).flatten = input ∧ said ++ phrase b.pending = (slices ++ last).flatMap phrase := by
    rw [← f.whole, f.said]
    obtain ⟨rfl, hp⟩ | rfl := hl
    case inl => simp [hp, phrase, trimmed]
    case inr => simp
  refine ⟨slices ++ last, hw.left, ?_, ?_, ?_, ?_, f.boundary hl⟩ <;> try rw [hw.right]
  case refine_1 => exact fun slice hm => (List.mem_append.mp hm).elim (f.cuts.nonempty slice) (hn slice)
  case refine_2 => exact flatMap_phrase _
  case refine_3 =>
    intro p hm
    rw [flatMap_phrase] at hm
    obtain ⟨slice, hs, rfl⟩ := List.mem_map.mp hm
    simpa [all_trimmed] using (List.mem_filter.mp hs).right
  case refine_4 => rw [filter_phrases, hw.left]

theorem Fed.speak (f : Fed b input slices said) (chunks : List (List Char)) :
    ∃ slices, Spoken (input ++ chunks.flatten) slices (said ++ b.speak chunks) := by
  induction chunks generalizing b input slices said
  case nil => simpa [RealtimePhraseBuffer.speak, finish] using f.spoken
  case cons chunk chunks hi =>
    obtain ⟨slices, f⟩ := f.push chunk
    simpa [RealtimePhraseBuffer.speak] using hi f

-- Every reply, in whatever chunks it arrives.
theorem speak_spoken (chunks : List (List Char)) :
    ∃ slices, Spoken chunks.flatten slices (default.speak chunks) :=
  have f : Fed default [] [] [] := ⟨rfl, rfl, .nil⟩
  f.speak chunks

end RealtimePhraseBuffer
