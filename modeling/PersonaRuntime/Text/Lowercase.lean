import Mathlib.Data.List.Infix

-- What `str::to_lowercase` reads of the Unicode tables.
structure CaseTables where
  lower         : Char → List Char
  cased         : Char → Bool
  caseIgnorable : Char → Bool

namespace CaseTables

variable (u : CaseTables)

def caseIgnorableThenCased (cs : List Char) : Bool :=
  (cs.dropWhile u.caseIgnorable).head?.any u.cased

-- A sigma is final when a word ends with it. `before` runs backwards from the sigma.
def mapUppercaseSigma (before after : List Char) : Char :=
  if u.caseIgnorableThenCased before && !u.caseIgnorableThenCased after then 'ς' else 'σ'

-- How a part of a text is mapped where it stands behind `before`, which runs backwards, and in front of
-- `after`. Every character but the capital sigma is mapped by itself.
def lowerBetween : List Char → List Char → List Char → List Char
  | _, [], _ => []
  | before, c :: part, after =>
    (if c = 'Σ' then [u.mapUppercaseSigma before (part ++ after)] else u.lower c) ++
      lowerBetween (c :: before) part after

-- `str::to_lowercase`
def toLowercase (text : String) : String :=
  .ofList (u.lowerBetween [] text.toList [])

variable {u : CaseTables} {part part' before before' after after' : List Char} {token text : String}

theorem lowerBetween_append :
    u.lowerBetween before (part ++ part') after =
      u.lowerBetween before part (part' ++ after) ++ u.lowerBetween (part.reverse ++ before) part' after := by
  induction part generalizing before
  case nil            => rfl
  case cons c part hi => simp [lowerBetween, hi]

-- Each capital sigma of the part is mapped alike in both places.
def SigmasAgree (u : CaseTables) (before part after before' after' : List Char) : Prop :=
  ∀ p q, part = p ++ 'Σ' :: q →
    u.mapUppercaseSigma (p.reverse ++ before) (q ++ after) = u.mapUppercaseSigma (p.reverse ++ before') (q ++ after')

theorem sigmasAgree_nil : u.SigmasAgree before [] after before' after' :=
  fun p q h => by simp at h

theorem sigmasAgree_cons {c : Char} : u.SigmasAgree before (c :: part) after before' after' ↔
    (c = 'Σ' → u.mapUppercaseSigma before (part ++ after) = u.mapUppercaseSigma before' (part ++ after')) ∧
      u.SigmasAgree (c :: before) part after (c :: before') after' := by
  constructor
  case mp =>
    intro h
    constructor
    case left =>
      rintro rfl
      exact h [] part rfl
    case right =>
      intro p q hp
      simpa using h (c :: p) q (by rw [hp, List.cons_append])
  case mpr =>
    intro ⟨hc, hp⟩ p q he
    cases p
    case nil =>
      obtain ⟨rfl, rfl⟩ := List.cons.inj he
      exact hc rfl
    case cons c' p =>
      obtain ⟨rfl, rfl⟩ := List.cons.inj he
      simpa using hp p q rfl

-- Only the capital sigmas look at what stands around them.
theorem SigmasAgree.lowerBetween (h : u.SigmasAgree before part after before' after') :
    u.lowerBetween before part after = u.lowerBetween before' part after' := by
  induction part generalizing before before'
  case nil            => rfl
  case cons c part hi =>
    obtain ⟨hc, hp⟩ := sigmasAgree_cons.mp h
    rw [CaseTables.lowerBetween, CaseTables.lowerBetween, hi hp]
    by_cases hs : c = 'Σ'
    case pos => rw [if_pos hs, if_pos hs, hc hs]
    case neg => rw [if_neg hs, if_neg hs]

-- The token stands somewhere in the text with its capital sigmas mapped as they are in the token alone.
def Kept (u : CaseTables) (text token : String) : Prop :=
  ∃ before after, text.toList = before ++ token.toList ++ after ∧
    u.SigmasAgree before.reverse token.toList after [] []

theorem Kept.isInfix (k : u.Kept text token) : (u.toLowercase token).toList <:+: (u.toLowercase text).toList := by
  obtain ⟨before, after, h, hk⟩ := k
  simp only [toLowercase, String.toList_ofList, h, lowerBetween_append, List.append_nil]
  rw [hk.lowerBetween]
  exact List.infix_append ..

-- No two of the characters are mapped alike, and each of them is mapped to one character.
structure OneSpelling (u : CaseTables) (cs : List Char) : Prop where
  single    : ∀ {c}, c ∈ cs → c ≠ 'Σ' → ∃ d, u.lower c = [d] ∧ d ≠ 'σ' ∧ d ≠ 'ς'
  injective : ∀ {c c'}, c ∈ cs → c' ∈ cs → c ≠ 'Σ' → c' ≠ 'Σ' → u.lower c = u.lower c' → c = c'

theorem OneSpelling.mono {cs cs' : List Char} (o : u.OneSpelling cs) (h : ∀ c ∈ cs', c ∈ cs) : u.OneSpelling cs' where
  single hc           := o.single (h _ hc)
  injective hc hc'    := o.injective (h _ hc) (h _ hc')

theorem OneSpelling.length_eq_one {cs : List Char} {c : Char} (o : u.OneSpelling cs) (hm : c ∈ cs) :
    (if c = 'Σ' then [u.mapUppercaseSigma before after] else u.lower c).length = 1 := by
  by_cases hc : c = 'Σ'
  case pos => rw [if_pos hc, List.length_singleton]
  case neg =>
    obtain ⟨d, hd, -⟩ := o.single hm hc
    rw [if_neg hc, hd, List.length_singleton]

theorem OneSpelling.length_lowerBetween (o : u.OneSpelling part) :
    (u.lowerBetween before part after).length = part.length := by
  induction part generalizing before
  case nil            => rfl
  case cons c part hi =>
    rw [lowerBetween, List.length_append, o.length_eq_one List.mem_cons_self,
      hi (o.mono fun _ => List.mem_cons_of_mem c), List.length_cons, Nat.add_comm]

-- A capital sigma is mapped like no other character.
theorem OneSpelling.lower_ne {cs : List Char} {c : Char} (o : u.OneSpelling cs) (hm : c ∈ cs) (hc : c ≠ 'Σ') :
    u.lower c ≠ [u.mapUppercaseSigma before after] := by
  obtain ⟨d, hd, hn, hn'⟩ := o.single hm hc
  rw [hd, mapUppercaseSigma]
  split
  · simpa using hn'
  · simpa using hn

-- What is mapped alike is the same text, with its sigmas mapped alike.
theorem OneSpelling.eq_of_lowerBetween (o : u.OneSpelling (part ++ part'))
    (h : u.lowerBetween before part after = u.lowerBetween before' part' after') :
    part = part' ∧ u.SigmasAgree before part after before' after' := by
  have hl := congrArg List.length h
  rw [(o.mono fun _ => List.mem_append_left _).length_lowerBetween,
    (o.mono fun _ => List.mem_append_right _).length_lowerBetween] at hl
  induction part generalizing before before' part'
  case nil =>
    obtain rfl := List.eq_nil_of_length_eq_zero hl.symm
    exact ⟨rfl, sigmasAgree_nil⟩
  case cons c part hi =>
    cases part'
    case nil => cases hl
    case cons c' part' =>
      have hm : c ∈ c :: part ++ c' :: part' := List.mem_append_left _ List.mem_cons_self
      have hm' : c' ∈ c :: part ++ c' :: part' := List.mem_append_right _ List.mem_cons_self
      have ho : u.OneSpelling (part ++ part') := by
        apply o.mono
        intro d hd
        obtain hd | hd := List.mem_append.mp hd
        · exact List.mem_append_left _ (List.mem_cons_of_mem c hd)
        · exact List.mem_append_right _ (List.mem_cons_of_mem c' hd)
      obtain ⟨hd, ht⟩ := List.append_inj h ((o.length_eq_one hm).trans (o.length_eq_one hm').symm)
      obtain ⟨rfl, ha⟩ := hi ho ht (Nat.succ.inj hl)
      by_cases hc : c = 'Σ'
      case pos =>
        rw [if_pos hc] at hd
        by_cases hc' : c' = 'Σ'
        case pos =>
          rw [if_pos hc'] at hd
          subst hc hc'
          exact ⟨rfl, sigmasAgree_cons.mpr ⟨fun _ => List.singleton_inj.mp hd, ha⟩⟩
        case neg =>
          rw [if_neg hc'] at hd
          exact absurd hd.symm (o.lower_ne hm' hc')
      case neg =>
        rw [if_neg hc] at hd
        by_cases hc' : c' = 'Σ'
        case pos =>
          rw [if_pos hc'] at hd
          exact absurd hd (o.lower_ne hm hc)
        case neg =>
          rw [if_neg hc'] at hd
          obtain rfl := o.injective hm hm' hc hc' hd
          exact ⟨rfl, sigmasAgree_cons.mpr ⟨fun hs => absurd hs hc, ha⟩⟩

-- Where no letter is spelled in two ways, nothing else is found by its lower-case form.
theorem OneSpelling.kept (o : u.OneSpelling (text.toList ++ token.toList))
    (h : (u.toLowercase token).toList <:+: (u.toLowercase text).toList) : u.Kept text token := by
  obtain ⟨xs, ys, h⟩ := h
  simp only [toLowercase, String.toList_ofList] at h
  have ht : u.OneSpelling text.toList := o.mono fun _ => List.mem_append_left _
  have hk : u.OneSpelling token.toList := o.mono fun _ => List.mem_append_right _
  have hlen := congrArg List.length h
  simp only [List.length_append, ht.length_lowerBetween, hk.length_lowerBetween] at hlen
  -- The part of the text that is mapped to the lower-case form of the token.
  obtain ⟨before, part, after, he, hb, hp⟩ : ∃ before part after, text.toList = before ++ part ++ after ∧
      before.length = xs.length ∧ part.length = token.toList.length := by
    refine ⟨text.toList.take xs.length, (text.toList.drop xs.length).take token.toList.length,
      (text.toList.drop xs.length).drop token.toList.length, ?_, ?_, ?_⟩
    · rw [List.append_assoc, List.take_append_drop, List.take_append_drop]
    · rw [List.length_take]
      omega
    · rw [List.length_take, List.length_drop]
      omega
  have hob : u.OneSpelling before := ht.mono fun c hc => by simp [he, hc]
  have hop : u.OneSpelling part := ht.mono fun c hc => by simp [he, hc]
  rw [he, lowerBetween_append, lowerBetween_append, List.append_nil] at h
  obtain ⟨h, -⟩ := List.append_inj h (by
    simp [hob.length_lowerBetween, hop.length_lowerBetween, hk.length_lowerBetween, hb, hp])
  obtain ⟨-, h⟩ := List.append_inj h (by rw [hob.length_lowerBetween, hb])
  have hm : u.OneSpelling (part ++ token.toList) := by
    apply o.mono
    intro c hc
    obtain hc | hc := List.mem_append.mp hc
    · simp [he, hc]
    · exact List.mem_append_right _ hc
  obtain ⟨rfl, ha⟩ := hm.eq_of_lowerBetween h.symm
  rw [List.append_nil] at ha
  exact ⟨before, after, he, ha⟩

end CaseTables
