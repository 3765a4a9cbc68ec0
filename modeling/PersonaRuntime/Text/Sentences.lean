import Mathlib.Data.List.Basic

-- How a text is read: what separates its words and what ends its sentences.
structure TextMarks (α : Type) where
  space    : α
  isSpace  : α → Bool
  isStop   : α → Bool
  space_eq : isSpace space = true
  disjoint : ∀ {a}, isSpace a = true → isStop a = false

namespace TextMarks

variable {α β : Type} (m : TextMarks α)

def trimStart : List α → List α :=
  List.dropWhile m.isSpace

def trimEnd : List α → List α
  | []     => []
  | c :: s => if (trimEnd s).isEmpty && m.isSpace c then [] else c :: trimEnd s

def trim (s : List α) : List α :=
  m.trimStart (m.trimEnd s)

-- The words with one space between them.
def squeeze : List α → List α
  | []     => []
  | c :: s =>
    if m.isSpace c then
      squeeze s
    else if s.head?.any m.isSpace && !(squeeze s).isEmpty then
      c :: m.space :: squeeze s
    else
      c :: squeeze s

-- Every space is one between two words.
def Spaced : List α → Prop
  | []     => True
  | c :: s => (m.isSpace c = true → c = m.space ∧ s.head?.any (fun d => !m.isSpace d) = true) ∧ Spaced s

def glue (w : List α) : List (List α) → List (List α)
  | []      => [w]
  | p :: ps => (w ++ p) :: ps

-- A text cut behind every stop that a space or the end follows.
def pieces : List α → List (List α)
  | []     => []
  | c :: s => if m.isStop c && s.head?.all m.isSpace then [c] :: pieces s else glue [c] (pieces s)

def kept (ps : List (List α)) : List (List α) :=
  (ps.map m.trim).filter fun p => !p.isEmpty

def sentences (s : List α) : List (List α) :=
  m.kept (m.pieces s)

-- Every run of spaces as one space.
def collapse (inRun : Bool) : List α → List α
  | []     => []
  | c :: s =>
    if m.isSpace c then
      if inRun then collapse true s else m.space :: collapse true s
    else
      c :: collapse false s

def words (s : List α) : List (List α) :=
  (s.splitOnP m.isSpace).filter fun w => !w.isEmpty

def weight (f : α → Nat) : List α → Nat
  | []     => 0
  | c :: s => f c + weight f s

variable {m} {s t : List α} {c : α}

theorem isSpace_of_isStop (h : m.isStop c = true) : m.isSpace c = false := by
  by_contra hs
  rw [Bool.not_eq_false] at hs
  simp [m.disjoint hs] at h

theorem trimEnd_cons (h : m.isSpace c = false) : m.trimEnd (c :: s) = c :: m.trimEnd s := by
  simp [trimEnd, h]

theorem trimStart_cons (h : m.isSpace c = false) : m.trimStart (c :: s) = c :: s := by
  simp [trimStart, h]

theorem trim_eq_nil (h : ∀ c ∈ s, m.isSpace c = true) : m.trim s = [] := by
  have he : m.trimEnd s = [] := by
    induction s
    case nil => rfl
    case cons c s hi =>
      simp [trimEnd, hi fun c hc => h c (List.mem_cons_of_mem _ hc), h c List.mem_cons_self]
  simp [trim, he, trimStart]

section Squeeze

theorem squeeze_head (s : List α) : (m.squeeze s).head?.all (fun c => !m.isSpace c) = true := by
  induction s
  case nil => rfl
  case cons c s hi =>
    simp only [squeeze]
    split
    case isTrue => exact hi
    case isFalse h =>
      split <;> simpa using h

theorem spaced_squeeze (s : List α) : m.Spaced (m.squeeze s) := by
  induction s
  case nil => trivial
  case cons c s hi =>
    simp only [squeeze]
    split
    case isTrue => exact hi
    case isFalse h =>
      split
      case isFalse => exact ⟨fun hs => absurd hs h, hi⟩
      case isTrue hs =>
        refine ⟨fun hs => absurd hs h, fun _ => ⟨rfl, ?_⟩, hi⟩
        have hh := squeeze_head (m := m) s
        cases hq : m.squeeze s
        case nil       => simp [hq] at hs
        case cons d s' => simpa [hq] using hh

theorem squeeze_eq_nil : m.squeeze s = [] ↔ ∀ c ∈ s, m.isSpace c = true := by
  induction s
  case nil => simp [squeeze]
  case cons c s hi =>
    simp only [squeeze]
    split
    case isTrue h => simp [hi, h]
    case isFalse h =>
      refine ⟨fun hn => ?_, fun hs => absurd (hs c List.mem_cons_self) h⟩
      split at hn <;> cases hn

-- What a text keeps, apart from its spaces.
theorem mem_squeeze (h : m.isSpace c = false) : c ∈ m.squeeze s ↔ c ∈ s := by
  have hc : c ≠ m.space := by
    rintro rfl
    simp [m.space_eq] at h
  induction s
  case nil => rfl
  case cons d s hi =>
    simp only [squeeze]
    split
    case isTrue hd =>
      have hne : c ≠ d := by
        rintro rfl
        simp [hd] at h
      simp [hi, hne]
    case isFalse =>
      split <;> simp [hi, hc]

theorem eq_space_of_mem_spaced (hs : m.Spaced s) (hm : c ∈ s) (h : m.isSpace c = true) : c = m.space := by
  induction s
  case nil => cases hm
  case cons d s hi =>
    obtain rfl | hm := List.mem_cons.mp hm
    · exact (hs.1 h).1
    · exact hi hs.2 hm

end Squeeze

section Pieces

@[simp]
theorem glue_append (w v : List α) (ps : List (List α)) : glue (w ++ v) ps = glue w (glue v ps) := by
  cases ps <;> simp [glue]

@[simp]
theorem glue_flatten (w : List α) (ps : List (List α)) : (glue w ps).flatten = w ++ ps.flatten := by
  cases ps <;> simp [glue]

theorem pieces_cons_stop (h : (m.isStop c && s.head?.all m.isSpace) = true) :
    m.pieces (c :: s) = [c] :: m.pieces s := by
  simp [pieces, h]

theorem pieces_cons (h : ¬(m.isStop c && s.head?.all m.isSpace) = true) :
    m.pieces (c :: s) = glue [c] (m.pieces s) := by
  simp only [pieces, if_neg h]

-- Behind a run of stops there is a cut or not, and inside of it there is none.
theorem pieces_run {w : List α} (hw : w ≠ []) (h : ∀ c ∈ w, m.isStop c = true) :
    m.pieces (w ++ s) = if s.head?.all m.isSpace then w :: m.pieces s else glue w (m.pieces s) := by
  induction w
  case nil => exact absurd rfl hw
  case cons c w hi =>
    have hc := h c List.mem_cons_self
    cases w
    case nil =>
      simp [pieces, hc]
    case cons d w =>
      have hd := isSpace_of_isStop (h d (by simp))
      have hn : ¬(m.isStop c && (d :: w ++ s).head?.all m.isSpace) = true := by
        simp [hd]
      rw [List.cons_append, pieces_cons hn, hi (by simp) fun c hc => h c (List.mem_cons_of_mem _ hc)]
      split
      case isTrue  => rfl
      case isFalse => rw [← glue_append]; rfl

theorem pieces_word {w : List α} (hw : w ≠ []) (h : ∀ c ∈ w, m.isStop c = false) :
    m.pieces (w ++ s) = glue w (m.pieces s) := by
  induction w
  case nil => exact absurd rfl hw
  case cons c w hi =>
    have hn : ¬(m.isStop c && (w ++ s).head?.all m.isSpace) = true := by
      simp [h c List.mem_cons_self]
    rw [List.cons_append, pieces_cons hn]
    cases w
    case nil => rfl
    case cons d w =>
      rw [hi (by simp) fun c hc => h c (List.mem_cons_of_mem _ hc), ← glue_append]
      rfl

theorem pieces_flatten (s : List α) : (m.pieces s).flatten = s := by
  induction s
  case nil => rfl
  case cons c s hi =>
    by_cases h : (m.isStop c && s.head?.all m.isSpace) = true
    case pos => simp [pieces_cons_stop h, hi]
    case neg =>
      rw [pieces_cons h, glue_flatten, hi]
      rfl

theorem ne_nil_of_mem_pieces {p : List α} (h : p ∈ m.pieces s) : p ≠ [] := by
  induction s generalizing p
  case nil => cases h
  case cons c s hi =>
    by_cases hc : (m.isStop c && s.head?.all m.isSpace) = true
    case pos =>
      rw [pieces_cons_stop hc, List.mem_cons] at h
      obtain rfl | h := h
      · simp
      · exact hi h
    case neg =>
      rw [pieces_cons hc] at h
      cases hp : m.pieces s
      case nil => simp_all [glue]
      case cons q ps =>
        rw [hp, glue, List.mem_cons] at h
        obtain rfl | h := h
        · simp
        · exact hi (hp ▸ List.mem_cons_of_mem _ h)

theorem pieces_head_head (s : List α) : ((m.pieces s).head?.bind fun p => p.head?) = s.head? := by
  cases s
  case nil => rfl
  case cons c s =>
    by_cases hc : (m.isStop c && s.head?.all m.isSpace) = true
    case pos => simp [pieces_cons_stop hc]
    case neg =>
      rw [pieces_cons hc]
      cases m.pieces s <;> rfl

theorem kept_append (ps qs : List (List α)) : m.kept (ps ++ qs) = m.kept ps ++ m.kept qs := by
  simp [kept]

-- An empty text in front of the first piece adds nothing.
theorem kept_glue_nil (ps : List (List α)) : m.kept (glue [] ps) = m.kept ps := by
  cases ps <;> simp [glue, kept, trim, trimEnd, trimStart]

-- A text without a stop is in one piece.
theorem length_pieces_le (h : ∀ c ∈ s, m.isStop c = false) : (m.pieces s).length ≤ 1 := by
  cases s
  case nil => simp [pieces]
  case cons c s =>
    have hp := pieces_word (m := m) (s := []) (List.cons_ne_nil c s) h
    rw [List.append_nil] at hp
    rw [hp]
    simp [pieces, glue]

end Pieces

section Spaced

theorem Spaced.of_append (h : m.Spaced (t ++ s)) : m.Spaced s := by
  induction t
  case nil          => exact h
  case cons c t hi  => exact hi h.2

theorem Spaced.of_suffix (h : m.Spaced t) (hs : s <:+ t) : m.Spaced s := by
  obtain ⟨r, rfl⟩ := hs
  exact h.of_append

theorem Spaced.trimEnd (h : m.Spaced s) : m.trimEnd s = s := by
  induction s
  case nil => rfl
  case cons c s hi =>
    rw [TextMarks.trimEnd, hi h.2]
    split
    case isFalse => rfl
    case isTrue hs =>
      simp only [Bool.and_eq_true, List.isEmpty_iff] at hs
      have hh := (h.1 hs.2).2
      simp [hs.1] at hh

theorem Spaced.head_of_append (h : m.Spaced (t ++ s)) (ht : t.getLast?.any m.isSpace = true) :
    s.head?.any (fun c => !m.isSpace c) = true := by
  induction t
  case nil => cases ht
  case cons c t hi =>
    by_cases hn : t = []
    case pos =>
      subst hn
      exact (h.1 (by simpa using ht)).2
    case neg =>
      rw [List.getLast?_cons_of_ne_nil hn] at ht
      exact hi h.2 ht

-- A single space is all there is before a word.
theorem Spaced.trimStart (h : m.Spaced (c :: s)) (hc : m.isSpace c = true) : m.trimStart (c :: s) = s := by
  have hh := (h.1 hc).2
  cases s
  case nil      => simp at hh
  case cons d s => simp_all [TextMarks.trimStart]

theorem trimStart_eq_self (h : s.head?.all (fun c => !m.isSpace c) = true) : m.trimStart s = s := by
  cases s
  case nil      => rfl
  case cons c s => exact trimStart_cons (by simpa using h)

theorem Spaced.trimStart_ne_nil (h : m.Spaced s) (hs : s ≠ []) : m.trimStart s ≠ [] := by
  cases s
  case nil => exact absurd rfl hs
  case cons c s =>
    by_cases hc : m.isSpace c = true
    case pos =>
      rw [h.trimStart hc]
      rintro rfl
      simpa using (h.1 hc).2
    case neg => simp [trimStart_cons (Bool.not_eq_true _ ▸ hc)]

theorem Spaced.trim (h : m.Spaced s) : m.trim s = m.trimStart s := by
  rw [TextMarks.trim, h.trimEnd]

theorem spaced_pieces (h : m.Spaced s) {p : List α} (hp : p ∈ m.pieces s) : m.Spaced p := by
  induction s generalizing p
  case nil => cases hp
  case cons c s hi =>
    by_cases hc : (m.isStop c && s.head?.all m.isSpace) = true
    case pos =>
      rw [pieces_cons_stop hc, List.mem_cons] at hp
      obtain rfl | hp := hp
      · rw [Bool.and_eq_true] at hc
        exact ⟨fun hs => by simp [isSpace_of_isStop hc.1] at hs, trivial⟩
      · exact hi h.2 hp
    case neg =>
      have hh := pieces_head_head (m := m) s
      rw [pieces_cons hc] at hp
      cases hq : m.pieces s
      case nil =>
        obtain rfl : p = [c] := by simpa [hq, glue] using hp
        have hs : s = [] := by simpa [hq] using pieces_flatten (m := m) s
        exact hs ▸ h
      case cons q ps =>
        rw [hq, glue, List.mem_cons] at hp
        obtain rfl | hp := hp
        · refine ⟨fun hs => ⟨(h.1 hs).1, ?_⟩, hi h.2 (hq ▸ List.mem_cons_self)⟩
          rw [hq] at hh
          change (q.head?).any _ = true
          simpa [← hh] using (h.1 hs).2
        · exact hi h.2 (hq ▸ List.mem_cons_of_mem _ hp)

-- A piece after the first begins with the space that cuts it off.
theorem pieces_tail (h : m.Spaced s) {p : List α} (hp : p ∈ (m.pieces s).tail) : p.head? = some m.space := by
  induction s
  case nil => cases hp
  case cons c s hi =>
    by_cases hc : (m.isStop c && s.head?.all m.isSpace) = true
    case pos =>
      rw [pieces_cons_stop hc, List.tail_cons] at hp
      have hh := pieces_head_head (m := m) s
      cases hq : m.pieces s
      case nil => simp [hq] at hp
      case cons q ps =>
        rw [hq, List.mem_cons] at hp
        obtain rfl | hp := hp
        · cases s
          case nil => simp [pieces] at hq
          case cons d s =>
            have hd : m.isSpace d = true := by simp_all
            rw [hq] at hh
            simpa [(h.2.1 hd).1] using hh
        · exact hi h.2 (hq ▸ hp)
    case neg =>
      rw [pieces_cons hc] at hp
      refine hi h.2 ?_
      cases hq : m.pieces s
      case nil       => simp [hq, glue] at hp
      case cons q ps => simpa [hq, glue] using hp

end Spaced

section Join

theorem join_cons (w : List α) {l : List (List α)} (h : l ≠ []) :
    [m.space].intercalate (w :: l) = w ++ m.space :: [m.space].intercalate l := by
  cases l
  case nil => exact absurd rfl h
  case cons => simp [List.intercalate_cons_cons]

theorem join_drop (l : List (List α)) (i : Nat) :
    [m.space].intercalate (l.drop i) <:+ [m.space].intercalate l := by
  induction l generalizing i
  case nil => simp
  case cons w l hi =>
    cases i
    case zero => exact List.suffix_rfl
    case succ i =>
      by_cases hl : l = []
      case pos => simp [hl]
      case neg =>
        rw [join_cons w hl, List.drop_succ_cons]
        exact ((hi i).trans (List.suffix_cons _ _)).trans (List.suffix_append _ _)

theorem join_head {l : List (List α)} (h : ∀ w ∈ l, w ≠ []) :
    ([m.space].intercalate l).head? = l.head?.bind fun w => w.head? := by
  cases l
  case nil => rfl
  case cons w l =>
    obtain ⟨c, w, rfl⟩ := List.exists_cons_of_ne_nil (h w List.mem_cons_self)
    by_cases hl : l = []
    case pos => simp [hl]
    case neg => rw [join_cons _ hl]; rfl

theorem join_ne_nil {l : List (List α)} (h : ∀ w ∈ l, w ≠ []) (hl : l ≠ []) : [m.space].intercalate l ≠ [] := by
  intro hn
  have hh := join_head (m := m) h
  obtain ⟨w, l, rfl⟩ := List.exists_cons_of_ne_nil hl
  simp [hn, eq_comm, h w] at hh

theorem join_cons_cons (w : List α) (l : List (List α)) :
    [m.space].intercalate ((c :: w) :: l) = c :: [m.space].intercalate (w :: l) := by
  cases l <;> simp [List.intercalate_cons_cons]

theorem ne_nil_of_mem_sentences {p : List α} (h : p ∈ m.sentences s) : p ≠ [] := by
  simpa using (List.mem_filter.mp h).2

theorem sentences_head {p : List α} (h : p ∈ m.sentences s) :
    p.head?.all (fun c => !m.isSpace c) = true := by
  obtain ⟨q, -, rfl⟩ := List.mem_map.mp (List.mem_filter.mp h).1
  have hd := List.head?_dropWhile_not m.isSpace (m.trimEnd q)
  rw [trim, trimStart]
  cases hq : (List.dropWhile m.isSpace (m.trimEnd q)).head? <;> simp_all

theorem trimStart_append (h : m.trimStart s ≠ []) : m.trimStart (s ++ t) = m.trimStart s ++ t := by
  have hn : ¬(List.dropWhile m.isSpace s).isEmpty = true := by
    simpa [trimStart] using h
  rw [trimStart, List.dropWhile_append, if_neg hn]

theorem Spaced.sentences (h : m.Spaced s) : m.sentences s = (m.pieces s).map m.trimStart := by
  have ht : (m.pieces s).map m.trim = (m.pieces s).map m.trimStart :=
    List.map_congr_left fun p hp => (spaced_pieces h hp).trim
  rw [TextMarks.sentences, kept, ht, List.filter_eq_self]
  intro q hq
  obtain ⟨p, hp, rfl⟩ := List.mem_map.mp hq
  simpa using (spaced_pieces h hp).trimStart_ne_nil (ne_nil_of_mem_pieces hp)

theorem join_trimStart {ps : List (List α)} (h : ∀ p ∈ ps, m.Spaced p ∧ p ≠ [])
    (ht : ∀ p ∈ ps.tail, p.head? = some m.space) :
    [m.space].intercalate (ps.map m.trimStart) = m.trimStart ps.flatten := by
  induction ps
  case nil => rfl
  case cons p ps hi =>
    obtain ⟨hp, hn⟩ := h p List.mem_cons_self
    replace hi := hi (fun q hq => h q (List.mem_cons_of_mem _ hq)) fun q hq => ht q (List.mem_of_mem_tail hq)
    rw [List.map_cons, List.flatten_cons, trimStart_append (hp.trimStart_ne_nil hn)]
    cases ps
    case nil => simp
    case cons q ps =>
      obtain ⟨hq, hqn⟩ := h q (by simp)
      obtain ⟨q, rfl⟩ : ∃ q', q = m.space :: q' := by
        have hh := ht q List.mem_cons_self
        cases q
        case nil      => cases hh
        case cons d q => exact ⟨q, by simpa using hh⟩
      rw [join_cons _ (by simp), hi, List.flatten_cons, trimStart_append (hq.trimStart_ne_nil hqn),
        hq.trimStart m.space_eq]
      rfl

-- A text with one space between its words is its sentences with one space between them.
theorem join_sentences (h : m.Spaced s) (hh : s.head?.all (fun c => !m.isSpace c) = true) :
    [m.space].intercalate (m.sentences s) = s := by
  have hp : ∀ p ∈ m.pieces s, m.Spaced p ∧ p ≠ [] :=
    fun p hp => ⟨spaced_pieces h hp, ne_nil_of_mem_pieces hp⟩
  rw [h.sentences, join_trimStart hp fun p hp => pieces_tail h hp, pieces_flatten, trimStart_eq_self hh]

theorem trim_join_drop (h : m.Spaced s) (hh : s.head?.all (fun c => !m.isSpace c) = true) (i : Nat) :
    m.trim ([m.space].intercalate ((m.sentences s).drop i)) = [m.space].intercalate ((m.sentences s).drop i) := by
  have hs := join_drop (m := m) (m.sentences s) i
  rw [join_sentences h hh] at hs
  rw [(h.of_suffix hs).trim]
  refine trimStart_eq_self ?_
  rw [join_head fun w hw => ne_nil_of_mem_sentences (List.mem_of_mem_drop hw)]
  cases hd : (m.sentences s).drop i
  case nil => rfl
  case cons w l =>
    exact sentences_head (List.mem_of_mem_drop (hd ▸ List.mem_cons_self : w ∈ (m.sentences s).drop i))

end Join

section Squeezing

-- What is left of a text whose spaces came from the text before it.
def gap (m : TextMarks α) (s : List α) : List α :=
  if s.head?.any m.isSpace && !(m.squeeze s).isEmpty then m.space :: m.squeeze s else m.squeeze s

theorem squeeze_cons_space (h : m.isSpace c = true) : m.squeeze (c :: s) = m.squeeze s := by
  simp [squeeze, h]

theorem squeeze_cons (h : m.isSpace c = false) : m.squeeze (c :: s) = c :: m.gap s := by
  rw [squeeze, if_neg (by simp [h]), gap]
  split <;> rfl

theorem squeeze_word {w : List α} (hw : w ≠ []) (h : ∀ c ∈ w, m.isSpace c = false) :
    m.squeeze (w ++ s) = w ++ m.gap s := by
  induction w
  case nil => exact absurd rfl hw
  case cons c w hi =>
    rw [List.cons_append, squeeze_cons (h c List.mem_cons_self)]
    cases w
    case nil => rfl
    case cons d w =>
      have hd : m.isSpace d = false := h d (by simp)
      have hg : m.gap (d :: w ++ s) = m.squeeze (d :: w ++ s) := by simp [gap, hd]
      rw [hg, hi (by simp) fun c hc => h c (List.mem_cons_of_mem _ hc)]
      rfl

theorem trimEnd_collapse (s : List α) :
    m.trimEnd (m.collapse true s) = m.squeeze s ∧ m.trimEnd (m.collapse false s) = m.gap s := by
  induction s
  case nil => exact ⟨rfl, rfl⟩
  case cons c s hi =>
    by_cases hc : m.isSpace c = true
    case pos =>
      have he : m.collapse true (c :: s) = m.collapse true s := by simp [collapse, hc]
      have hf : m.collapse false (c :: s) = m.space :: m.collapse true s := by simp [collapse, hc]
      rw [he, hf, trimEnd, hi.1, squeeze_cons_space hc, gap, squeeze_cons_space hc]
      refine ⟨rfl, ?_⟩
      cases m.squeeze s <;> simp [hc, m.space_eq]
    case neg =>
      rw [Bool.not_eq_true] at hc
      have he : ∀ b, m.collapse b (c :: s) = c :: m.collapse false s := by simp [collapse, hc]
      have hg : m.gap (c :: s) = m.squeeze (c :: s) := by simp [gap, hc]
      rw [he, he, trimEnd_cons hc, hi.2, hg, squeeze_cons hc]
      exact ⟨rfl, rfl⟩

theorem trim_collapse (s : List α) : m.trim (m.collapse false s) = m.squeeze s := by
  rw [trim, (trimEnd_collapse s).2, gap]
  split
  case isTrue =>
    have hh := squeeze_head (m := m) s
    cases hs : m.squeeze s
    case nil       => simp_all
    case cons d s' => simp_all [trimStart, m.space_eq]
  case isFalse => exact trimStart_eq_self (squeeze_head s)

theorem words_cons_space (h : m.isSpace c = true) : m.words (c :: s) = m.words s := by
  simp [words, List.splitOnP_cons_eq_if_modifyHead, h]

theorem words_cons_last (h : m.isSpace c = false) (hs : s.head?.all m.isSpace = true) :
    m.words (c :: s) = [c] :: m.words s := by
  cases s
  case nil => simp [words, List.splitOnP_cons_eq_if_modifyHead, h]
  case cons d s =>
    have hd : m.isSpace d = true := by simpa using hs
    simp [words, List.splitOnP_cons_eq_if_modifyHead, h, hd]

theorem words_cons (h : m.isSpace c = false) (hs : ¬s.head?.all m.isSpace = true) :
    ∃ w ws, m.words s = w :: ws ∧ m.words (c :: s) = (c :: w) :: ws := by
  cases s
  case nil => simp at hs
  case cons d s =>
    have hd : m.isSpace d = false := by simpa using hs
    cases hp : s.splitOnP m.isSpace
    case nil => exact absurd hp (List.splitOnP_ne_nil _ _)
    case cons w ws =>
      refine ⟨d :: w, ws.filter fun w => !w.isEmpty, ?_, ?_⟩ <;>
        simp [words, List.splitOnP_cons_eq_if_modifyHead, h, hd, hp]

-- The words of a text with one space between them.
theorem join_words (s : List α) : [m.space].intercalate (m.words s) = m.squeeze s := by
  induction s
  case nil => simp [words, squeeze]
  case cons c s hi =>
    by_cases hc : m.isSpace c = true
    case pos => rw [words_cons_space hc, squeeze_cons_space hc, hi]
    case neg =>
      rw [Bool.not_eq_true] at hc
      rw [squeeze_cons hc, gap, ← hi]
      by_cases hs : s.head?.all m.isSpace = true
      case pos =>
        rw [words_cons_last hc hs]
        by_cases hw : m.words s = []
        case pos => simp [hw]
        case neg =>
          have hn := join_ne_nil (m := m) (fun w hm => by simpa using (List.mem_filter.mp hm).2) hw
          have ha : s.head?.any m.isSpace = true := by
            cases s
            case nil      => simp [words] at hw
            case cons d s => simpa using hs
          rw [join_cons [c] hw, ha]
          simp [hn]
      case neg =>
        obtain ⟨w, ws, hw, hcw⟩ := words_cons hc hs
        have ha : s.head?.any m.isSpace = false := by
          cases s
          case nil      => rfl
          case cons d s => simpa using hs
        rw [hcw, hw, join_cons_cons, ha]
        rfl

theorem weight_append (f : α → Nat) (s t : List α) : weight f (s ++ t) = weight f s + weight f t := by
  induction s
  case nil          => simp [weight]
  case cons c s hi  => simp [weight, hi, Nat.add_assoc]

theorem weight_one (s : List α) : weight (fun _ => 1) s = s.length := by
  induction s
  case nil         => rfl
  case cons c s hi => simp [weight, hi, Nat.add_comm]

-- Single spaces weigh least.
theorem weight_squeeze {f : α → Nat} (hf : ∀ c, m.isSpace c = true → f m.space ≤ f c) (s : List α) :
    weight f (m.squeeze s) ≤ weight f s ∧ weight f (m.gap s) ≤ weight f s := by
  induction s
  case nil => exact ⟨Nat.le_refl _, Nat.le_refl _⟩
  case cons c s hi =>
    by_cases hc : m.isSpace c = true
    case pos =>
      have hw := hf c hc
      rw [gap, squeeze_cons_space hc]
      split <;> simp only [weight] <;> omega
    case neg =>
      rw [Bool.not_eq_true] at hc
      have hg : m.gap (c :: s) = m.squeeze (c :: s) := by simp [gap, hc]
      rw [hg, squeeze_cons hc]
      simpa only [weight, and_self, Nat.add_le_add_iff_left] using hi.2

end Squeezing

section Encoding

variable {n : TextMarks β} {e : α → List β}

-- A text in another alphabet, where only what marks nothing may take more than one letter.
structure Writes (m : TextMarks α) (n : TextMarks β) (e : α → List β) (c : α) : Prop where
  ne_nil  : e c ≠ []
  isSpace : ∀ u ∈ e c, n.isSpace u = m.isSpace c
  isStop  : ∀ u ∈ e c, n.isStop u = m.isStop c
  single  : (m.isSpace c || m.isStop c) = true → ∃ u, e c = [u]

theorem flatMap_head (h : ∀ c ∈ s, Writes m n e c) :
    (s.flatMap e).head?.map n.isSpace = s.head?.map m.isSpace := by
  cases s
  case nil => rfl
  case cons c s =>
    have hc := h c List.mem_cons_self
    obtain ⟨u, w, hw⟩ := List.exists_cons_of_ne_nil hc.ne_nil
    have hu : n.isSpace u = m.isSpace c := hc.isSpace u (hw ▸ List.mem_cons_self)
    simp [hw, hu]

theorem flatMap_any (h : ∀ c ∈ s, Writes m n e c) :
    (s.flatMap e).head?.any n.isSpace = s.head?.any m.isSpace := by
  have hh := flatMap_head h
  cases hs : s.head? <;> cases hf : (s.flatMap e).head? <;> simp_all

theorem flatMap_all (h : ∀ c ∈ s, Writes m n e c) :
    (s.flatMap e).head?.all n.isSpace = s.head?.all m.isSpace := by
  have hh := flatMap_head h
  cases hs : s.head? <;> cases hf : (s.flatMap e).head? <;> simp_all

theorem flatMap_eq_nil (h : ∀ c ∈ s, Writes m n e c) : s.flatMap e = [] ↔ s = [] := by
  cases s
  case nil => simp
  case cons c s => simp [(h c List.mem_cons_self).ne_nil]

theorem isEmpty_flatMap (h : ∀ c ∈ s, Writes m n e c) : (s.flatMap e).isEmpty = s.isEmpty := by
  rw [Bool.eq_iff_iff, List.isEmpty_iff, List.isEmpty_iff, flatMap_eq_nil h]

theorem writes_squeeze (hp : Writes m n e m.space) (h : ∀ c ∈ s, Writes m n e c) :
    ∀ c ∈ m.squeeze s, Writes m n e c := by
  intro c hc
  by_cases hs : m.isSpace c = true
  case pos => exact eq_space_of_mem_spaced (spaced_squeeze s) hc hs ▸ hp
  case neg => exact h c ((mem_squeeze (Bool.not_eq_true _ ▸ hs)).mp hc)

theorem squeeze_flatMap (hp : Writes m n e m.space) (hn : e m.space = [n.space]) (h : ∀ c ∈ s, Writes m n e c) :
    n.squeeze (s.flatMap e) = (m.squeeze s).flatMap e := by
  induction s
  case nil => rfl
  case cons c s hi =>
    have hc := h c List.mem_cons_self
    have hs : ∀ c ∈ s, Writes m n e c := fun c hc => h c (List.mem_cons_of_mem _ hc)
    replace hi := hi hs
    rw [List.flatMap_cons]
    by_cases hcs : m.isSpace c = true
    case pos =>
      obtain ⟨u, hu⟩ := hc.single (by simp [hcs])
      have hus : n.isSpace u = true := (hc.isSpace u (hu ▸ List.mem_cons_self)).trans hcs
      rw [hu, List.singleton_append, squeeze_cons_space hus, squeeze_cons_space hcs, hi]
    case neg =>
      rw [Bool.not_eq_true] at hcs
      rw [squeeze_word hc.ne_nil fun u hu => (hc.isSpace u hu).trans hcs, squeeze_cons hcs, List.flatMap_cons,
        gap, gap, flatMap_any hs, hi, isEmpty_flatMap (writes_squeeze hp hs)]
      split
      case isTrue  => simp [hn]
      case isFalse => rfl

theorem glue_map (w : List α) (ps : List (List α)) :
    (glue w ps).map (List.flatMap e) = glue (w.flatMap e) (ps.map (List.flatMap e)) := by
  cases ps <;> simp [glue]

theorem pieces_flatMap (h : ∀ c ∈ s, Writes m n e c) :
    n.pieces (s.flatMap e) = (m.pieces s).map (List.flatMap e) := by
  induction s
  case nil => rfl
  case cons c s hi =>
    have hc := h c List.mem_cons_self
    have hs : ∀ c ∈ s, Writes m n e c := fun c hc => h c (List.mem_cons_of_mem _ hc)
    replace hi := hi hs
    rw [List.flatMap_cons]
    by_cases hcs : m.isStop c = true
    case pos =>
      obtain ⟨u, hu⟩ := hc.single (by simp [hcs])
      have hus : n.isStop u = true := (hc.isStop u (hu ▸ List.mem_cons_self)).trans hcs
      rw [hu, List.singleton_append, pieces, pieces, flatMap_all hs, hus, hcs, hi]
      split
      case isTrue  => simp [hu]
      case isFalse => rw [glue_map]; simp [hu]
    case neg =>
      rw [Bool.not_eq_true] at hcs
      rw [pieces_word hc.ne_nil fun u hu => (hc.isStop u hu).trans hcs, pieces_cons (by simp [hcs]), hi,
        glue_map]
      simp

theorem trimStart_flatMap (h : ∀ c ∈ s, Writes m n e c) :
    n.trimStart (s.flatMap e) = (m.trimStart s).flatMap e := by
  induction s
  case nil => rfl
  case cons c s hi =>
    have hc := h c List.mem_cons_self
    replace hi := hi fun c hc => h c (List.mem_cons_of_mem _ hc)
    by_cases hcs : m.isSpace c = true
    case pos =>
      obtain ⟨u, hu⟩ := hc.single (by simp [hcs])
      have hus : n.isSpace u = true := (hc.isSpace u (hu ▸ List.mem_cons_self)).trans hcs
      simpa [trimStart, hu, hus, hcs] using hi
    case neg =>
      rw [Bool.not_eq_true] at hcs
      obtain ⟨u, w, hw⟩ := List.exists_cons_of_ne_nil hc.ne_nil
      have hus : n.isSpace u = false := (hc.isSpace u (hw ▸ List.mem_cons_self)).trans hcs
      simp [trimStart, hw, hus, hcs]

theorem sentences_flatMap (hs : m.Spaced s) (hn : n.Spaced (s.flatMap e)) (h : ∀ c ∈ s, Writes m n e c) :
    n.sentences (s.flatMap e) = (m.sentences s).map (List.flatMap e) := by
  rw [hn.sentences, hs.sentences, pieces_flatMap h, List.map_map, List.map_map]
  refine List.map_congr_left fun p hp => trimStart_flatMap fun c hc => h c ?_
  rw [← pieces_flatten (m := m) s]
  exact List.mem_flatten_of_mem hp hc

-- A text can be cut behind a space of what it is written as.
theorem flatMap_cut (h : ∀ c ∈ s, Writes m n e c) {a b : List β} (hab : s.flatMap e = a ++ b)
    (ha : a.getLast?.all n.isSpace = true) :
    ∃ v w, s = v ++ w ∧ v.flatMap e = a ∧ w.flatMap e = b ∧ v.getLast?.all m.isSpace = true := by
  induction s generalizing a
  case nil =>
    obtain ⟨rfl, rfl⟩ := List.append_eq_nil_iff.mp hab.symm
    exact ⟨[], [], rfl, rfl, rfl, rfl⟩
  case cons c s hi =>
    have hc := h c List.mem_cons_self
    replace hi := @hi fun c hc => h c (List.mem_cons_of_mem _ hc)
    by_cases hn : a = []
    case pos =>
      subst hn
      exact ⟨[], c :: s, rfl, rfl, hab, rfl⟩
    case neg =>
      rw [List.flatMap_cons, List.append_eq_append_iff] at hab
      -- The letter where the cut ends is in front of the cut or is the one that the cut is behind.
      obtain ⟨a', rfl, hs⟩ | ⟨b', hb, rfl⟩ := hab
      case inl =>
        have hl : a'.getLast?.all n.isSpace = true := by
          rw [List.getLast?_append] at ha
          cases hl : a'.getLast? <;> simp_all
        obtain ⟨v, w, rfl, rfl, rfl, hv⟩ := hi hs hl
        refine ⟨c :: v, w, rfl, rfl, rfl, ?_⟩
        by_cases hv' : v = []
        case pos =>
          subst hv'
          have hcl := hc.isSpace ((e c).getLast hc.ne_nil) (List.getLast_mem hc.ne_nil)
          rw [List.flatMap_nil, List.append_nil, List.getLast?_eq_getLast_of_ne_nil hc.ne_nil] at ha
          simpa [← hcl] using ha
        case neg =>
          rw [List.getLast?_cons_of_ne_nil hv']
          exact hv
      case inr =>
        have hl := hc.isSpace (a.getLast hn) (hb ▸ List.mem_append_left _ (List.getLast_mem hn))
        rw [List.getLast?_eq_getLast_of_ne_nil hn, Option.all_some, hl] at ha
        obtain ⟨u, hu⟩ := hc.single (by simp [ha])
        obtain ⟨rfl, rfl⟩ : a = [u] ∧ b' = [] := by
          rw [hu, eq_comm, List.append_eq_singleton_iff] at hb
          simpa [hn] using hb
        exact ⟨[c], s, rfl, by simp [hu], by simp, by simpa using ha⟩

end Encoding

end TextMarks
