import Mathlib.Data.List.TakeWhile
import PersonaRuntime.OwnerLab.ReplayAuthority

namespace ReplayAuthority

open TextMarks (glue)

section Slices

variable {α : Type} {m : TextMarks α} {n pre w rest : List α} {start index : Nat}

theorem slice_append (hn : n = pre ++ (w ++ rest)) (h : start ≤ pre.length) :
    slice n start (pre.length + w.length) = slice n start pre.length ++ w := by
  subst hn
  rw [slice, slice, ← List.append_assoc, ← List.length_append, List.take_left, List.drop_append_of_le_length h,
    List.append_assoc, List.take_left]

theorem slice_self (n : List α) (start : Nat) : slice n start start = [] := by
  simp [slice]

-- What is read so far of the piece that the text is in, with the pieces that the rest of the text gives.
def Ahead (m : TextMarks α) (n : List α) (start index : Nat) (rest : List α) : List (List α) :=
  m.kept (glue (slice n start index) (m.pieces rest))

theorem ahead_nil (hn : n = pre) : Ahead m n start pre.length [] = m.kept [n.drop start] := by
  simp [Ahead, hn, slice, TextMarks.pieces, glue]

theorem ahead_self (n : List α) (index : Nat) (rest : List α) : Ahead m n index index rest = m.sentences rest := by
  rw [Ahead, slice_self, TextMarks.kept_glue_nil]
  rfl

-- Reading on without a cut.
theorem ahead_append (hn : n = pre ++ (w ++ rest)) (h : start ≤ pre.length)
    (hw : m.pieces (w ++ rest) = glue w (m.pieces rest)) :
    Ahead m n start pre.length (w ++ rest) = Ahead m n start (pre.length + w.length) rest := by
  rw [Ahead, hw, ← TextMarks.glue_append, ← slice_append hn h]
  rfl

-- A cut ends the piece.
theorem ahead_cut (hn : n = pre ++ (w ++ rest)) (h : start ≤ pre.length)
    (hw : m.pieces (w ++ rest) = w :: m.pieces rest) :
    Ahead m n start pre.length (w ++ rest)
      = m.kept [slice n start (pre.length + w.length)] ++ Ahead m n (pre.length + w.length) (pre.length + w.length) rest := by
  rw [ahead_self, Ahead, hw, glue, ← slice_append hn h, TextMarks.sentences, ← TextMarks.kept_append]
  rfl

theorem kept_single (p : List α) (ps : List (List α)) :
    (if (m.trim p).isEmpty then ps else ps ++ [m.trim p]) = ps ++ m.kept [p] := by
  cases h : (m.trim p).isEmpty <;> simp [TextMarks.kept, h]

end Slices

section Server

theorem normalized_eq (reply : List Char) : normalized reply = serverMarks.squeeze reply :=
  TextMarks.join_words (m := serverMarks) reply

theorem cut_eq (s : List Char) : (s.isEmpty || s.head?.any isWhiteSpace) = s.head?.all serverMarks.isSpace := by
  cases s <;> rfl

-- What the loop returns with what is left for after the loop.
theorem sentenceLoop_eq {n pre rest : List Char} {skip start : Nat} {sentences : List (List Char)}
    (hn : n = pre ++ rest) (hk : skip ≤ rest.length) (hs : start ≤ pre.length + skip) {r : Nat × List (List Char)}
    (hr : sentenceLoop n rest pre.length skip start sentences = r) :
    r.2 ++ serverMarks.kept [n.drop r.1]
      = sentences ++ Ahead serverMarks n start (pre.length + skip) (rest.drop skip) := by
  induction rest generalizing pre skip start sentences
  case nil =>
    obtain rfl : skip = 0 := by simpa using hk
    subst hr
    rw [List.drop_zero, Nat.add_zero, ahead_nil (by simpa using hn)]
    rfl
  case cons c rest hi =>
    have hn' : n = (pre ++ [c]) ++ rest := by simpa using hn
    have hl : (pre ++ [c]).length = pre.length + 1 := by simp
    cases skip
    case succ skip =>
      rw [sentenceLoop, ← hl] at hr
      rw [hi hn' (by simpa using hk) (by omega) hr, hl, Nat.add_right_comm]
      rfl
    case zero =>
      by_cases hc : isEnding c = true
      case neg =>
        rw [sentenceLoop, if_pos (by simpa using hc), ← hl] at hr
        have hp := TextMarks.pieces_cons (m := serverMarks) (c := c) (s := rest) (by
          rw [Bool.and_eq_true]
          exact fun h => hc h.1)
        rw [hi hn' (Nat.zero_le _) (by omega) hr, hl, Nat.add_zero, Nat.add_zero, List.drop_zero, List.drop_zero]
        exact congrArg _ (ahead_append (w := [c]) hn hs hp).symm
      case pos =>
        obtain ⟨run, rest', hrun, hrest⟩ :
            ∃ run rest', rest.takeWhile isEnding = run ∧ rest = run ++ rest' :=
          ⟨_, _, rfl, List.takeWhile_append_dropWhile.symm⟩
        have hw : ∀ d ∈ c :: run, serverMarks.isStop d = true :=
          List.forall_mem_cons.mpr ⟨hc, fun d hd => List.mem_takeWhile_imp (hrun ▸ hd)⟩
        have hp := TextMarks.pieces_run (m := serverMarks) (s := rest') (List.cons_ne_nil c run) hw
        have hd : n.drop ((pre ++ [c]).length + run.length) = rest' := by
          rw [hn', hrest, ← List.append_assoc, ← List.length_append, List.drop_left]
        have he : (pre ++ [c]).length + run.length = pre.length + (c :: run).length := by
          rw [hl, List.length_cons, Nat.add_assoc, Nat.add_comm 1]
        have hn'' : n = pre ++ (c :: run ++ rest') := by rw [hn, hrest]; rfl
        have hr' : run.length ≤ rest.length := by simp [hrest]
        have hrd : rest.drop run.length = rest' := by rw [hrest, List.drop_left]
        rw [sentenceLoop, if_neg (by simp [hc]), hrun] at hr
        simp only [cut_eq, ← hl, hd] at hr
        rw [Nat.add_zero, List.drop_zero, hrest, ← List.cons_append]
        split at hr
        case isTrue hcut =>
          rw [if_pos hcut] at hp
          rw [hi hn' hr' (Nat.le_refl _) hr, hrd, he, trim, kept_single, ahead_cut hn'' hs hp, List.append_assoc]
        case isFalse hcut =>
          rw [if_neg hcut] at hp
          rw [hi hn' hr' (by omega) hr, hrd, he, ahead_append hn'' hs hp]

theorem splitSentences_eq (n : List Char) : splitSentences n = serverMarks.sentences n := by
  have h := sentenceLoop_eq (List.nil_append n).symm (Nat.zero_le _) (Nat.le_refl 0)
    (rfl : sentenceLoop n n 0 0 0 [] = _)
  rw [← kept_single] at h
  exact h.trans (ahead_self n 0 n)

end Server

section Browser

-- Inside of a run nothing ends a sentence.
theorem ending_go {s w rest : List CodeUnit} (hs : s = w ++ rest) (hw : ∀ u ∈ w, isEndingUnit u = true) {k : Nat}
    (hk : k < w.length) : ending.go s k = none := by
  induction k
  case zero => rfl
  case succ k hi =>
    have hu := hw _ (List.getElem_mem hk)
    have hd : (s.drop (k + 1)).head? = some w[k + 1] := by
      rw [List.head?_drop, hs, List.getElem?_append_left hk, List.getElem?_eq_getElem hk]
    have hsp : isSpaceUnit w[k + 1] = false := TextMarks.isSpace_of_isStop (m := browserMarks) hu
    rw [ending.go, hd, Option.all_some, hsp, if_neg (by simp)]
    exact hi (by omega)

theorem ending_eq {s w rest : List CodeUnit} (hs : s = w ++ rest) (hw : s.takeWhile isEndingUnit = w) :
    ending s = if w ≠ [] ∧ rest.head?.all isSpaceUnit = true then some w.length else none := by
  have hall : ∀ u ∈ w, isEndingUnit u = true := fun u hu => List.mem_takeWhile_imp (hw ▸ hu)
  rw [ending, hw]
  cases hl : w.length
  case zero => simp [List.length_eq_zero_iff.mp hl, ending.go]
  case succ k =>
    have hne : w ≠ [] := by
      rintro rfl
      cases hl
    have hd : s.drop (k + 1) = rest := by rw [← hl, hs, List.drop_left]
    rw [ending.go, hd, ending_go hs hall (by omega)]
    simp [hne]

theorem pieces_of_no_ending {u : CodeUnit} {s : List CodeUnit} (h : ending (u :: s) = none) :
    browserMarks.pieces (u :: s) = glue [u] (browserMarks.pieces s) := by
  refine TextMarks.pieces_cons fun hc => ?_
  obtain ⟨hu, hs⟩ : isEndingUnit u = true ∧ s.head?.all isSpaceUnit = true :=
    Bool.and_eq_true_iff.mp hc
  have hw : (u :: s).takeWhile isEndingUnit = [u] := by
    rw [List.takeWhile_cons_of_pos hu]
    cases s
    case nil => rfl
    case cons v s =>
      have hv : isEndingUnit v = false := browserMarks.disjoint (by simpa using hs : isSpaceUnit v = true)
      simp [hv]
  simp [ending_eq (s := u :: s) (w := [u]) rfl hw, hs] at h

-- What the matches lead to with what is left for after them.
theorem matchAll_eq {n pre rest : List CodeUnit} {skip start : Nat} {sentences : List (List CodeUnit)}
    (hn : n = pre ++ rest) (hk : skip ≤ rest.length) (hs : start ≤ pre.length + skip)
    {r : Nat × List (List CodeUnit)}
    (hr : (matchAll rest pre.length skip).foldl (pushPhrase n) (start, sentences) = r) :
    r.2 ++ browserMarks.kept [n.drop r.1]
      = sentences ++ Ahead browserMarks n start (pre.length + skip) (rest.drop skip) := by
  induction rest generalizing pre skip start sentences
  case nil =>
    obtain rfl : skip = 0 := by simpa using hk
    subst hr
    rw [List.drop_zero, Nat.add_zero, ahead_nil (by simpa using hn)]
    rfl
  case cons u rest hi =>
    have hn' : n = (pre ++ [u]) ++ rest := by simpa using hn
    have hl : (pre ++ [u]).length = pre.length + 1 := by simp
    cases skip
    case succ skip =>
      rw [matchAll, ← hl] at hr
      rw [hi hn' (by simpa using hk) (by omega) hr, hl, Nat.add_right_comm]
      rfl
    case zero =>
      obtain ⟨w, rest', hw, hrest⟩ :
          ∃ w rest', (u :: rest).takeWhile isEndingUnit = w ∧ u :: rest = w ++ rest' :=
        ⟨_, _, rfl, List.takeWhile_append_dropWhile.symm⟩
      have hall : ∀ d ∈ w, browserMarks.isStop d = true := fun d hd => List.mem_takeWhile_imp (hw ▸ hd)
      have hend := ending_eq hrest hw
      rw [Nat.add_zero, List.drop_zero]
      by_cases hcut : w ≠ [] ∧ rest'.head?.all isSpaceUnit = true
      case pos =>
        rw [if_pos hcut] at hend
        have hp := TextMarks.pieces_run (m := browserMarks) (s := rest') hcut.1 hall
        rw [if_pos (by exact hcut.2)] at hp
        have hpos := List.length_pos_of_ne_nil hcut.1
        have hwl : w.length ≤ rest.length + 1 := by
          rw [← List.length_cons (a := u), hrest]
          simp
        have he : (pre ++ [u]).length + (w.length - 1) = pre.length + w.length := by omega
        have hrd : rest.drop (w.length - 1) = rest' := by
          have hd : (u :: rest).drop w.length = rest' := by rw [hrest, List.drop_left]
          rwa [show w.length = w.length - 1 + 1 by omega, List.drop_succ_cons] at hd
        have hpush : pushPhrase n (start, sentences) (pre.length, w.length)
            = (pre.length + w.length, sentences ++ browserMarks.kept [slice n start (pre.length + w.length)]) := by
          rw [pushPhrase, kept_single]
        simp only [matchAll, hend, List.foldl_cons, hpush, ← hl] at hr
        rw [hi hn' (by omega) (by omega) hr, hrd, he, hrest, ahead_cut (hn.trans (congrArg _ hrest)) hs hp,
          List.append_assoc]
      case neg =>
        rw [if_neg hcut] at hend
        have hp := pieces_of_no_ending hend
        simp only [matchAll, hend, ← hl] at hr
        rw [hi hn' (Nat.zero_le _) (by omega) hr, hl, Nat.add_zero, List.drop_zero]
        exact congrArg _ (ahead_append (w := [u]) hn hs hp).symm

theorem phrases_eq (n : List CodeUnit) : phrases n = browserMarks.sentences n := by
  have h := matchAll_eq (List.nil_append n).symm (Nat.zero_le _) (Nat.le_refl 0)
    (rfl : (matchAll n 0 0).foldl (pushPhrase n) (0, []) = _)
  rw [← kept_single] at h
  exact h.trans (ahead_self n 0 n)

end Browser

section Encoding

theorem toNat_lt (c : Char) : c.toNat < 0x110000 := by
  obtain h | h := c.valid <;> simp only [Char.toNat] <;> omega

theorem surrogates_small {c : Char} (h : c.toNat < 0x10000) : surrogates c = [UInt16.ofNat c.toNat] := by
  simp [surrogates, h]

theorem toNat_unit {c : Char} (h : c.toNat < 0x10000) : (UInt16.ofNat c.toNat).toNat = c.toNat := by
  rw [UInt16.toNat_ofNat']
  omega

theorem surrogates_large {c : Char} (h : ¬c.toNat < 0x10000) :
    ∃ u v, surrogates c = [u, v] ∧ (0xD800 ≤ u.toNat ∧ u.toNat < 0xDC00) ∧ (0xDC00 ≤ v.toNat ∧ v.toNat < 0xE000) := by
  have hc := toNat_lt c
  refine ⟨_, _, by rw [surrogates, if_neg h], ?_, ?_⟩ <;> simp only [UInt16.toNat_ofNat'] <;> omega

theorem not_space_of_surrogate {u : CodeUnit} (h : 0xD800 ≤ u.toNat) (h' : u.toNat < 0xE000) :
    isSpaceUnit u = false ∧ isEndingUnit u = false := by
  constructor
  · simp [isSpaceUnit]; omega
  · simp [isEndingUnit]; omega

theorem isEnding_eq (c : Char) : isEnding c = ['.', '!', '?', '…'].any fun d => d.toNat == c.toNat := by
  have hb : ∀ d : Char, (c == d) = (d.toNat == c.toNat) := by
    intro d
    rw [Bool.eq_iff_iff, beq_iff_eq, beq_iff_eq, Char.toNat_inj, eq_comm]
  simp only [isEnding, List.contains_cons, List.contains_nil, List.any_cons, List.any_nil, hb]

-- A character that both sides read the same way.
theorem writes_surrogates {c : Char} (hn : c.toNat ≠ 0x85) (hf : c.toNat ≠ 0xFEFF) :
    TextMarks.Writes serverMarks browserMarks surrogates c := by
  by_cases hc : c.toNat < 0x10000
  case pos =>
    have hu := toNat_unit hc
    have hsp : isSpaceUnit (UInt16.ofNat c.toNat) = isWhiteSpace c := by
      rw [Bool.eq_iff_iff]
      simp [isSpaceUnit, isWhiteSpace, hu, hn, hf]
      omega
    have hst : isEndingUnit (UInt16.ofNat c.toNat) = isEnding c := by
      rw [isEnding_eq, isEndingUnit, hu]
    constructor
    case ne_nil  => simp [surrogates_small hc]
    case isSpace =>
      intro u hm
      rw [surrogates_small hc, List.mem_singleton] at hm
      exact hm ▸ hsp
    case isStop =>
      intro u hm
      rw [surrogates_small hc, List.mem_singleton] at hm
      exact hm ▸ hst
    case single  => exact fun _ => ⟨_, surrogates_small hc⟩
  case neg =>
    obtain ⟨u, v, he, hu, hv⟩ := surrogates_large hc
    have hsp : isWhiteSpace c = false := by simp [isWhiteSpace]; omega
    have hst : isEnding c = false := by simp [isEnding_eq]; omega
    constructor
    case ne_nil  => simp [he]
    case isSpace =>
      have h1 := (not_space_of_surrogate hu.1 (by omega)).1
      have h2 := (not_space_of_surrogate (by omega) hv.2).1
      simpa [he, serverMarks, browserMarks, hsp] using ⟨h1, h2⟩
    case isStop =>
      have h1 := (not_space_of_surrogate hu.1 (by omega)).2
      have h2 := (not_space_of_surrogate (by omega) hv.2).2
      simpa [he, serverMarks, browserMarks, hst] using ⟨h1, h2⟩
    case single =>
      intro hm
      simp [serverMarks, hsp, hst] at hm

-- A unit that is no surrogate stands for one character.
theorem mem_utf16 {c : Char} (hc : c.toNat < 0xD800 ∨ 0xE000 ≤ c.toNat ∧ c.toNat < 0x10000) (s : List Char) :
    UInt16.ofNat c.toNat ∈ utf16 s ↔ c ∈ s := by
  rw [utf16, List.mem_flatMap]
  constructor
  case mp =>
    rintro ⟨d, hd, hm⟩
    have hu := toNat_unit (c := c) (by omega)
    by_cases hds : d.toNat < 0x10000
    case pos =>
      have he := toNat_unit hds
      rw [surrogates_small hds, List.mem_singleton] at hm
      rw [hm, he] at hu
      exact Char.toNat_inj.mp hu ▸ hd
    case neg =>
      obtain ⟨u, v, he, hdu, hdv⟩ := surrogates_large hds
      rw [he] at hm
      simp only [List.mem_cons, List.not_mem_nil, or_false] at hm
      obtain rfl | rfl := hm <;> omega
  case mpr => exact fun h => ⟨c, h, by simp [surrogates_small (by omega : c.toNat < 0x10000)]⟩

theorem arrayFrom_cons {u : CodeUnit} (h : ¬(0xD800 ≤ u.toNat ∧ u.toNat < 0xDC00)) (s : List CodeUnit) :
    arrayFrom (u :: s) = [u] :: arrayFrom s := by
  cases s
  case nil => rfl
  case cons v s =>
    rw [arrayFrom, if_neg]
    simp only [Bool.and_eq_true, decide_eq_true_eq]
    exact fun hn => h hn.1.1

theorem arrayFrom_utf16 (s : List Char) : arrayFrom (utf16 s) = s.map surrogates := by
  induction s
  case nil => rfl
  case cons c s hi =>
    rw [utf16, List.flatMap_cons, List.map_cons, ← utf16, ← hi]
    by_cases hc : c.toNat < 0x10000
    case pos =>
      have hu := toNat_unit hc
      have hv : ¬(0xD800 ≤ c.toNat ∧ c.toNat < 0xDC00) := by
        obtain h | h := c.valid <;> simp only [Char.toNat] <;> omega
      rw [surrogates_small hc]
      rw [← hu] at hv
      exact arrayFrom_cons hv _
    case neg =>
      obtain ⟨u, v, he, hu, hv⟩ := surrogates_large hc
      rw [he, List.cons_append, List.singleton_append, arrayFrom, if_pos (by simp; omega)]

theorem length_surrogates (c : Char) : (surrogates c).length ≤ c.utf8Size := by
  by_cases hc : c.toNat < 0x10000
  case pos =>
    rw [surrogates_small hc]
    exact c.utf8Size_pos
  case neg =>
    obtain ⟨u, v, he, -, -⟩ := surrogates_large hc
    rw [he, Char.utf8Size]
    split
    case isTrue h => exact absurd (Nat.lt_of_le_of_lt (UInt32.le_iff_toNat_le.mp h) (by decide)) hc
    case isFalse  => repeat' split <;> simp

theorem length_utf16 (s : List Char) : (utf16 s).length ≤ len s := by
  induction s
  case nil => exact Nat.le_refl 0
  case cons c s hi =>
    have hc := length_surrogates c
    simp only [utf16, len, TextMarks.weight, List.flatMap_cons, List.length_append] at hi ⊢
    omega

end Encoding

section Sizes

theorem len_suffix {s t : List Char} (h : s <:+ t) : len s ≤ len t := by
  obtain ⟨r, rfl⟩ := h
  rw [len, TextMarks.weight_append]
  omega

theorem len_squeeze (s : List Char) : len (serverMarks.squeeze s) ≤ len s :=
  (TextMarks.weight_squeeze (m := serverMarks) (f := Char.utf8Size) (fun c _ => c.utf8Size_pos) s).1

theorem length_squeeze (s : List CodeUnit) : (browserMarks.squeeze s).length ≤ s.length := by
  simpa only [TextMarks.weight_one] using
    (TextMarks.weight_squeeze (m := browserMarks) (f := fun _ => 1) (fun _ _ => Nat.le_refl 1) s).1

end Sizes

section Suffixes

variable {reply : List Char}

def serverSentences (reply : List Char) : List (List Char) :=
  serverMarks.sentences (serverMarks.squeeze reply)

def browserSentences (reply : List Char) : List (List CodeUnit) :=
  browserMarks.sentences (browserMarks.squeeze (utf16 reply))

theorem join_serverSentences (reply : List Char) : join (serverSentences reply) = normalized reply := by
  rw [normalized_eq]
  exact TextMarks.join_sentences (m := serverMarks) (TextMarks.spaced_squeeze reply) (TextMarks.squeeze_head reply)

theorem join_browserSentences (reply : List Char) :
    joinUnits (browserSentences reply) = browserMarks.squeeze (utf16 reply) :=
  TextMarks.join_sentences (m := browserMarks) (TextMarks.spaced_squeeze _) (TextMarks.squeeze_head _)

theorem join_drop_suffix (reply : List Char) (i : Nat) : join ((serverSentences reply).drop i) <:+ normalized reply := by
  have h := TextMarks.join_drop (m := serverMarks) (serverSentences reply) i
  exact join_serverSentences reply ▸ h

theorem drop_ne_nil {α : Type} {l : List α} {i : Nat} (h : i < l.length) : l.drop i ≠ [] := by
  simpa using h

theorem authorizedSentenceSuffix_eq (h : len reply ≤ 16000) (i : Nat) :
    authorizedSentenceSuffix reply i
      = if (serverSentences reply).length ≤ 80 ∧ i < (serverSentences reply).length then
          some (join ((serverSentences reply).drop i))
        else
          none := by
  have hs : splitSentences (normalized reply) = serverSentences reply := by
    rw [splitSentences_eq, normalized_eq, serverSentences]
  have hlen := len_suffix (join_drop_suffix reply i)
  have hsq := len_squeeze reply
  rw [← normalized_eq] at hsq
  rw [authorizedSentenceSuffix, hs]
  by_cases hi : (serverSentences reply).length ≤ 80 ∧ i < (serverSentences reply).length
  case pos =>
    have hne : join ((serverSentences reply).drop i) ≠ [] :=
      TextMarks.join_ne_nil (m := serverMarks)
        (fun w hw => TextMarks.ne_nil_of_mem_sentences (List.mem_of_mem_drop hw)) (drop_ne_nil hi.2)
    have hss : serverSentences reply ≠ [] := by
      rintro hn
      simp [hn] at hi
    rw [if_pos hi, if_neg (by simp; omega), if_neg (by simp [hss]; omega), if_pos (by simp [hne]; omega)]
  case neg =>
    rw [if_neg hi]
    split
    case isTrue  => rfl
    case isFalse => rw [if_pos (by simp; omega)]

theorem resumeSentences_eq (h : len reply ≤ 16000) :
    resumeSentences [utf16 reply]
      = if (browserSentences reply).length ≤ 80 then browserSentences reply else [] := by
  have hj : browserMarks.trim (browserMarks.collapse false (joinUnits [utf16 reply])) = browserMarks.squeeze (utf16 reply) := by
    rw [joinUnits, List.intercalate_singleton, TextMarks.trim_collapse]
  have hlen := length_squeeze (utf16 reply)
  have hu := length_utf16 reply
  simp only [resumeSentences, hj, phrases_eq]
  by_cases hn : browserMarks.squeeze (utf16 reply) = []
  case pos => simp [browserSentences, hn, TextMarks.sentences, TextMarks.pieces, TextMarks.kept]
  case neg =>
    rw [if_neg (by simp), if_neg (by simp [hn]; omega)]
    rfl

theorem replayTextFrom_eq (h : len reply ≤ 16000) (i : Nat) :
    replayTextFrom (browserSentences reply) i
      = if i < (browserSentences reply).length then some (joinUnits ((browserSentences reply).drop i)) else none := by
  have ht : browserMarks.trim (joinUnits ((browserSentences reply).drop i)) = joinUnits ((browserSentences reply).drop i) :=
    TextMarks.trim_join_drop (m := browserMarks) (TextMarks.spaced_squeeze _) (TextMarks.squeeze_head _) i
  have hs := (TextMarks.join_drop (m := browserMarks) (browserSentences reply) i).length_le
  have hj : ([browserMarks.space].intercalate (browserSentences reply)).length ≤ 16000 := by
    have hlen := length_squeeze (utf16 reply)
    have hu := length_utf16 reply
    have he := congrArg List.length (join_browserSentences reply)
    rw [joinUnits] at he
    change ([0x0020].intercalate _).length ≤ _
    omega
  rw [replayTextFrom, Int.toNat_natCast, ht]
  by_cases hi : i < (browserSentences reply).length
  case pos =>
    have hne : joinUnits ((browserSentences reply).drop i) ≠ [] :=
      TextMarks.join_ne_nil (m := browserMarks)
        (fun w hw => TextMarks.ne_nil_of_mem_sentences (List.mem_of_mem_drop hw)) (drop_ne_nil hi)
    have hl : (joinUnits ((browserSentences reply).drop i)).length ≤ 16000 := hs.trans hj
    rw [if_neg (by simp; omega), if_pos hi, if_pos (by simp [List.length_pos_iff, hne]; omega)]
  case neg =>
    rw [if_pos (by simp; omega), if_neg hi]

theorem trim_suffix {v w : List Char} (hvw : normalized reply = v ++ w) (hv : v.getLast?.all isWhiteSpace = true) :
    trim w = w := by
  rw [normalized_eq] at hvw
  have hs : serverMarks.Spaced (v ++ w) := hvw ▸ TextMarks.spaced_squeeze reply
  rw [trim, hs.of_append.trim]
  refine TextMarks.trimStart_eq_self ?_
  by_cases hn : v = []
  case pos =>
    subst hn
    exact List.nil_append w ▸ hvw ▸ TextMarks.squeeze_head reply
  case neg =>
    rw [List.getLast?_eq_some_getLast hn, Option.all_some] at hv
    have hw := hs.head_of_append (by rw [List.getLast?_eq_some_getLast hn]; exact hv)
    cases w
    case nil => rfl
    case cons => simpa using hw

theorem length_le_len (s : List Char) : s.length ≤ len s := by
  induction s
  case nil => exact Nat.le_refl 0
  case cons c s hi =>
    have hc := c.utf8Size_pos
    simp only [len, TextMarks.weight, List.length_cons] at hi ⊢
    omega

theorem authorizedCharacterSuffix_eq {isAlphanumeric : Char → Bool} {v w : List Char} (h : len reply ≤ 16000)
    (hvw : normalized reply = v ++ w) (hw : w ≠ []) (hv : v.getLast?.all isWhiteSpace = true) :
    authorizedCharacterSuffix isAlphanumeric reply v.length = some w := by
  have hlen := len_squeeze reply
  rw [← normalized_eq] at hlen
  have hl : (normalized reply).length = v.length + w.length := by rw [hvw, List.length_append]
  have hc := length_le_len (normalized reply)
  have hpos := List.length_pos_of_ne_nil hw
  have hwl := len_suffix (s := w) (t := normalized reply) ⟨v, hvw.symm⟩
  have hb : wordBoundary isAlphanumeric (normalized reply) v.length = true := by
    by_cases hn : v = []
    case pos => simp [wordBoundary, hn]
    case neg =>
      have hvl := List.length_pos_of_ne_nil hn
      have hlast : (normalized reply)[v.length - 1]? = v.getLast? := by
        rw [hvw, List.getElem?_append_left (by omega), List.getLast?_eq_getElem?]
      rw [List.getLast?_eq_some_getLast hn] at hlast hv
      simp only [wordBoundary, hlast, Option.any_some]
      simp_all
  rw [authorizedCharacterSuffix, if_neg (by simp; omega)]
  simp only [hb]
  rw [if_neg (by simp; omega), if_neg (by simp), hvw, List.drop_left, trim_suffix hvw hv,
    if_pos (by simp [hw]; omega)]

theorem suffix_of_character {isAlphanumeric : Char → Bool} {offset : Nat} {suffix : List Char}
    (h : authorizedCharacterSuffix isAlphanumeric reply offset = some suffix) : suffix <:+ normalized reply := by
  simp only [authorizedCharacterSuffix] at h
  split at h
  case isTrue => cases h
  case isFalse =>
    split at h
    case isTrue => cases h
    case isFalse =>
      split at h
      case isTrue => cases h
      case isFalse =>
        obtain ⟨-, he⟩ := Option.ite_none_right_eq_some.mp h
        obtain rfl := Option.some.inj he
        have hd := List.drop_suffix offset (normalized reply)
        have hs : serverMarks.Spaced (normalized reply) := normalized_eq reply ▸ TextMarks.spaced_squeeze reply
        rw [trim, (hs.of_suffix hd).trim]
        exact (List.dropWhile_suffix _).trans hd

theorem suffix_of_sentence {i : Nat} {suffix : List Char}
    (h : authorizedSentenceSuffix reply i = some suffix) : suffix <:+ normalized reply := by
  have hlen : len reply ≤ 16000 := by
    by_contra hn
    rw [authorizedSentenceSuffix, if_pos (by simp; omega)] at h
    cases h
  rw [authorizedSentenceSuffix_eq hlen] at h
  split at h
  case isTrue  => exact Option.some.inj h ▸ join_drop_suffix reply i
  case isFalse => cases h

end Suffixes

section Carets

theorem wordStart_spec (reply : List CodeUnit) {cursor : Nat} (h : cursor < reply.length) :
    wordStart reply cursor ≤ cursor ∧ (reply.take (wordStart reply cursor)).getLast?.all isSpaceUnit = true := by
  induction cursor
  case zero => exact ⟨Nat.le_refl 0, by simp [wordStart]⟩
  case succ cursor hi =>
    rw [wordStart]
    split
    case isTrue hs =>
      refine ⟨Nat.le_refl _, ?_⟩
      have hc : cursor < reply.length := by omega
      rw [List.getElem?_eq_getElem hc] at hs
      rw [List.take_succ_eq_append_getElem hc, List.getLast?_append]
      simpa using hs
    case isFalse =>
      obtain ⟨hl, ha⟩ := hi (by omega)
      exact ⟨by omega, ha⟩

-- The caret is put behind a space, and the rest of the text is what is left of its characters.
theorem resumeWordOffset_spec {t : List Char} (ht : ∀ c ∈ t, TextMarks.Writes serverMarks browserMarks surrogates c)
    {c : Int} {o : Nat} (h : resumeWordOffset (utf16 t) c = some o) :
    ∃ v w, t = v ++ w ∧ w ≠ [] ∧ v.getLast?.all isWhiteSpace = true ∧ v.length = o
      ∧ ((arrayFrom (utf16 t)).drop o).flatten = utf16 w := by
  rw [resumeWordOffset] at h
  split at h
  case isTrue => cases h
  case isFalse hc =>
    simp only [Bool.or_eq_true, decide_eq_true_eq, not_or] at hc
    obtain ⟨hle, hs⟩ := wordStart_spec (utf16 t) (show c.toNat < (utf16 t).length by omega)
    obtain ⟨v, w, rfl, hv, hw, hvs⟩ :=
      TextMarks.flatMap_cut ht (List.take_append_drop (wordStart (utf16 t) c.toNat) (utf16 t)).symm hs
    have ho : v.length = o := by
      rw [← hv, ← utf16, arrayFrom_utf16, List.length_map] at h
      exact Option.some.inj h
    refine ⟨v, w, rfl, ?_, hvs, ho, ?_⟩
    · rintro rfl
      have hd := congrArg List.length hw
      simp only [List.flatMap_nil, List.length_nil, List.length_drop] at hd
      omega
    · rw [arrayFrom_utf16, List.map_append, ← ho, List.drop_left' (List.length_map _)]
      rfl

end Carets

section Agreement

def resumedText (reply : List Char) : List CodeUnit :=
  joinUnits (resumeSentences [utf16 reply])

-- What the browser may ask for is what the server answers with, and all of it is the server's own text.
structure Agree (isAlphanumeric : Char → Bool) (reply : List Char) : Prop where
  offered : ∀ i : Nat, i < (resumeSentences [utf16 reply]).length →
    ∃ text, replayTextFrom (resumeSentences [utf16 reply]) i = some text
      ∧ (authorizedSentenceSuffix reply i).map utf16 = some text
  notOffered : ∀ i, (resumeSentences [utf16 reply]).length ≤ i → authorizedSentenceSuffix reply i = none
  caret : ∀ c o, resumeWordOffset (resumedText reply) c = some o →
    (authorizedCharacterSuffix isAlphanumeric reply o).map utf16 = some ((arrayFrom (resumedText reply)).drop o).flatten
  sentence : ∀ i suffix, authorizedSentenceSuffix reply i = some suffix → suffix <:+ normalized reply
  character : ∀ offset suffix,
    authorizedCharacterSuffix isAlphanumeric reply offset = some suffix → suffix <:+ normalized reply

-- The next line is a space for the server only, and the byte order mark for the browser only.
def Common (reply : List Char) : Prop :=
  Char.ofNat 0x85 ∉ reply ∧ Char.ofNat 0xFEFF ∉ reply

variable {isAlphanumeric : Char → Bool} {reply : List Char}

theorem Common.writes (h : Common reply) :
    ∀ c ∈ reply, TextMarks.Writes serverMarks browserMarks surrogates c := by
  intro c hc
  refine writes_surrogates (fun hn => h.1 ?_) (fun hn => h.2 ?_)
  · rwa [← hn, Char.ofNat_toNat]
  · rwa [← hn, Char.ofNat_toNat]

theorem writes_space : TextMarks.Writes serverMarks browserMarks surrogates serverMarks.space :=
  writes_surrogates (by decide) (by decide)

theorem Common.squeeze (h : Common reply) : browserMarks.squeeze (utf16 reply) = utf16 (normalized reply) := by
  rw [normalized_eq]
  exact TextMarks.squeeze_flatMap writes_space rfl h.writes

theorem Common.writes_normalized (h : Common reply) :
    ∀ c ∈ normalized reply, TextMarks.Writes serverMarks browserMarks surrogates c := by
  rw [normalized_eq]
  exact TextMarks.writes_squeeze writes_space h.writes

theorem Common.sentences (h : Common reply) : browserSentences reply = (serverSentences reply).map utf16 := by
  have hq := h.squeeze
  rw [normalized_eq] at hq
  have hs : browserMarks.Spaced (utf16 (serverMarks.squeeze reply)) := hq ▸ TextMarks.spaced_squeeze _
  rw [browserSentences, serverSentences, hq]
  exact TextMarks.sentences_flatMap (TextMarks.spaced_squeeze reply) hs (normalized_eq reply ▸ h.writes_normalized)

theorem utf16_join (l : List (List Char)) : utf16 (join l) = joinUnits (l.map utf16) := by
  induction l
  case nil => rfl
  case cons w l hi =>
    cases l
    case nil => simp [join, joinUnits]
    case cons v l =>
      simp only [join, joinUnits, List.map_cons, List.intercalate_cons_cons] at hi ⊢
      rw [← hi]
      simp [utf16, surrogates]

theorem agree_of_common (h : Common reply) (hl : len reply ≤ 16000) : Agree isAlphanumeric reply := by
  have hc : (browserSentences reply).length = (serverSentences reply).length := by
    rw [h.sentences, List.length_map]
  have hr := resumeSentences_eq hl
  constructor
  case offered =>
    intro i hi
    rw [hr] at hi ⊢
    split at hi
    case isFalse => cases hi
    case isTrue hn =>
      rw [if_pos hn, replayTextFrom_eq hl, if_pos hi, authorizedSentenceSuffix_eq hl, if_pos (by omega)]
      refine ⟨_, rfl, ?_⟩
      rw [Option.map_some, utf16_join, List.map_drop, h.sentences]
  case notOffered =>
    intro i hi
    rw [hr] at hi
    rw [authorizedSentenceSuffix_eq hl, if_neg]
    rintro ⟨hn, hlt⟩
    rw [if_pos (by omega)] at hi
    omega
  case caret =>
    intro c o ho
    rw [resumedText, hr] at ho ⊢
    split at ho
    case isFalse hn =>
      simp [resumeWordOffset, joinUnits] at ho
      omega
    case isTrue hn =>
      rw [if_pos hn, join_browserSentences, h.squeeze]
      rw [join_browserSentences, h.squeeze] at ho
      obtain ⟨v, w, hvw, hw, hv, rfl, he⟩ := resumeWordOffset_spec h.writes_normalized ho
      rw [authorizedCharacterSuffix_eq hl hvw hw hv, he]
      rfl
  case sentence  => exact fun i suffix => suffix_of_sentence
  case character => exact fun offset suffix => suffix_of_character

theorem agree_of_many (hs : 80 < (serverSentences reply).length) (hb : 80 < (browserSentences reply).length)
    (hl : len reply ≤ 16000) : Agree isAlphanumeric reply := by
  have hr : resumeSentences [utf16 reply] = [] := by
    rw [resumeSentences_eq hl, if_neg (by omega)]
  constructor
  case offered => simp [hr]
  case notOffered =>
    intro i hi
    rw [authorizedSentenceSuffix_eq hl, if_neg (by omega)]
  case caret =>
    intro c o ho
    simp [resumedText, hr, resumeWordOffset, joinUnits] at ho
    omega
  case sentence  => exact fun i suffix => suffix_of_sentence
  case character => exact fun offset suffix => suffix_of_character

theorem serverSentences_ne_nil (h : trim reply ≠ []) : serverSentences reply ≠ [] := by
  intro hn
  have hj := join_serverSentences reply
  rw [hn, normalized_eq] at hj
  exact h (TextMarks.trim_eq_nil (TextMarks.squeeze_eq_nil.mp hj.symm))

-- A text of spaces for the browser ends no sentence for the server.
theorem length_serverSentences_le (h : browserSentences reply = []) : (serverSentences reply).length ≤ 1 := by
  have hj := join_browserSentences reply
  rw [h] at hj
  have hsp := TextMarks.squeeze_eq_nil.mp hj.symm
  have hst : ∀ c ∈ serverMarks.squeeze reply, serverMarks.isStop c = false := by
    intro c hc
    by_contra hs
    rw [Bool.not_eq_false] at hs
    have hm := (TextMarks.mem_squeeze (TextMarks.isSpace_of_isStop hs)).mp hc
    have hw : TextMarks.Writes serverMarks browserMarks surrogates c := by
      refine writes_surrogates ?_ ?_ <;>
      · intro hn
        have he := isEnding_eq c
        simp [hn, show isEnding c = true from hs] at he
    obtain ⟨u, hu⟩ := hw.single (by simp [hs])
    have hu' := hsp u (List.mem_flatMap.mpr ⟨c, hm, hu ▸ List.mem_singleton_self u⟩)
    have hus := hw.isStop u (hu ▸ List.mem_singleton_self u)
    rw [hs] at hus
    simp [TextMarks.isSpace_of_isStop hus] at hu'
  rw [serverSentences, (TextMarks.spaced_squeeze reply).sentences, List.length_map]
  exact TextMarks.length_pieces_le hst

theorem common_of_eq (h : utf16 (normalized reply) = browserMarks.squeeze (utf16 reply)) : Common reply := by
  constructor
  case left =>
    intro hm
    have hu := (mem_utf16 (c := Char.ofNat 0x85) (by decide) reply).mpr hm
    have hb := (TextMarks.mem_squeeze (m := browserMarks) (by decide)).mpr hu
    rw [← h, mem_utf16 (by decide), normalized_eq] at hb
    exact absurd (TextMarks.eq_space_of_mem_spaced (TextMarks.spaced_squeeze reply) hb (by decide)) (by decide)
  case right =>
    intro hm
    have hs := (TextMarks.mem_squeeze (m := serverMarks) (by decide)).mpr hm
    rw [← normalized_eq] at hs
    have hb := (mem_utf16 (c := Char.ofNat 0xFEFF) (by decide) _).mpr hs
    rw [h] at hb
    exact absurd (TextMarks.eq_space_of_mem_spaced (TextMarks.spaced_squeeze _) hb (by decide)) (by decide)

theorem Agree.common_or_many (h : Agree isAlphanumeric reply) (hl : len reply ≤ 16000) (hne : trim reply ≠ []) :
    Common reply ∨ 80 < (serverSentences reply).length ∧ 80 < (browserSentences reply).length := by
  have hpos := List.length_pos_of_ne_nil (serverSentences_ne_nil hne)
  have hr := resumeSentences_eq hl
  have ha := authorizedSentenceSuffix_eq hl 0
  by_cases hs : (serverSentences reply).length ≤ 80
  case pos =>
    rw [if_pos ⟨hs, hpos⟩, List.drop_zero, join_serverSentences] at ha
    have hlt : 0 < (resumeSentences [utf16 reply]).length := by
      by_contra hn
      rw [h.notOffered 0 (by omega)] at ha
      cases ha
    obtain ⟨text, ht, hat⟩ := h.offered 0 hlt
    rw [hr] at hlt ht
    split at ht
    case isFalse hn =>
      rw [if_neg hn] at hlt
      cases hlt
    case isTrue hn =>
      rw [if_pos hn] at hlt
      rw [replayTextFrom_eq hl, if_pos hlt, List.drop_zero, join_browserSentences] at ht
      rw [ha, ← ht] at hat
      exact .inl (common_of_eq (Option.some.inj hat))
  case neg =>
    rw [if_neg (fun hn => hs hn.1)] at ha
    refine .inr ⟨by omega, ?_⟩
    by_contra hb
    rw [if_pos (by omega)] at hr
    by_cases hlt : 0 < (browserSentences reply).length
    case pos =>
      obtain ⟨text, -, hat⟩ := h.offered 0 (hr ▸ hlt)
      rw [ha] at hat
      cases hat
    case neg =>
      have hn : browserSentences reply = [] := List.length_eq_zero_iff.mp (by omega)
      have hle := length_serverSentences_le hn
      omega

theorem retained {ended : Bool} {request : Nat} {kept : AuthorizedReply}
    (h : retainCompletedReply ended request reply = some kept) :
    kept.reply = reply ∧ trim reply ≠ [] ∧ len reply ≤ 16000 := by
  rw [retainCompletedReply, Option.ite_none_left_eq_some] at h
  obtain ⟨hn, he⟩ := h
  obtain rfl := Option.some.inj he
  simp at hn
  exact ⟨rfl, hn.1.2, hn.2⟩

-- Browser and server agree on a reply that the server has retained as long as it has none of the two characters that
-- only one of them takes for a space, and else only by both of them giving up on it.
theorem replay_agrees_iff {ended : Bool} {request : Nat} {kept : AuthorizedReply}
    (h : retainCompletedReply ended request reply = some kept) :
    Agree isAlphanumeric kept.reply ↔
      Common kept.reply ∨ 80 < (serverSentences kept.reply).length ∧ 80 < (browserSentences kept.reply).length := by
  obtain ⟨rfl, hne, hl⟩ := retained h
  constructor
  case mp => exact fun ha => ha.common_or_many hl hne
  case mpr =>
    rintro (hc | ⟨hs, hb⟩)
    · exact agree_of_common hc hl
    · exact agree_of_many hs hb hl

theorem replay_agrees_two_sentences :
    Agree Char.isAlphanum "One.  Two.".toList ↔
      Common "One.  Two.".toList ∨ 80 < (serverSentences "One.  Two.".toList).length
        ∧ 80 < (browserSentences "One.  Two.".toList).length :=
  replay_agrees_iff (show retainCompletedReply false 1 "One.  Two.".toList = some ⟨1, "One.  Two.".toList, 0, false⟩ by
    decide +kernel)

-- The browser asks for the text with the next line in it, and the server has put a space there.
theorem replay_disagrees :
    ¬∀ (reply : List Char) (kept : AuthorizedReply), retainCompletedReply false 1 reply = some kept →
      Agree Char.isAlphanum kept.reply := by
  intro h
  have ha := h ['a', Char.ofNat 0x85, 'b'] ⟨1, ['a', Char.ofNat 0x85, 'b'], 0, false⟩ (by decide +kernel)
  obtain ⟨text, hb, hs⟩ := ha.offered 0 (by decide +kernel)
  have hbt : replayTextFrom (resumeSentences [utf16 ['a', Char.ofNat 0x85, 'b']]) 0 = some [0x61, 0x85, 0x62] := by
    decide +kernel
  have hst : (authorizedSentenceSuffix ['a', Char.ofNat 0x85, 'b'] 0).map utf16 = some [0x61, 0x20, 0x62] := by
    decide +kernel
  exact absurd (hbt.symm.trans (hb.trans (hs.symm.trans hst))) (by decide)

end Agreement

end ReplayAuthority
