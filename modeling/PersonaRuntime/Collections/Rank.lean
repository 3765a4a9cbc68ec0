import Mathlib.Data.List.Pairwise
import Mathlib.Data.List.Sort

-- The nearest-rank percentile of some values: fewer than `p` percent of them are below it, and at
-- least `p` percent are not above it.
structure NearestRank {α : Type} [LinearOrder α] (values : List α) (p : Nat) (v : α) : Prop where
  mem   : v ∈ values
  below : 100 * values.countP (· < v) < p * values.length
  above : p * values.length ≤ 100 * values.countP (· ≤ v)

section Sorted

variable {α : Type} [LinearOrder α] {values : List α} {i : Nat}

theorem getElem_le_sorted {j : Nat} (hs : values.Pairwise (· ≤ ·)) (hj : j < values.length) (hij : i ≤ j)
    (hi : i < values.length) : values[i] ≤ values[j] :=
  hs.rel_get_of_le (a := ⟨i, hi⟩) (b := ⟨j, hj⟩) hij

theorem countP_lt_sorted (hs : values.Pairwise (· ≤ ·)) (hi : i < values.length) :
    values.countP (· < values[i]) ≤ i := by
  have hd : (values.drop i).countP (· < values[i]) = 0 := by
    rw [List.countP_eq_zero]
    intro v hv
    obtain ⟨j, hj, rfl⟩ := List.getElem_of_mem hv
    rw [List.length_drop] at hj
    simpa using getElem_le_sorted hs (j := i + j) (by omega) (Nat.le_add_right i j) hi
  calc values.countP (· < values[i])
    _ = (values.take i ++ values.drop i).countP (· < values[i]) := by rw [List.take_append_drop]
    _ = (values.take i).countP (· < values[i])                  := by rw [List.countP_append, hd, Nat.add_zero]
    _ ≤ (values.take i).length                                  := List.countP_le_length
    _ ≤ i                                                       := List.length_take_le i values

theorem lt_countP_le_sorted (hs : values.Pairwise (· ≤ ·)) (hi : i < values.length) :
    i < values.countP (· ≤ values[i]) := by
  have ht : (values.take (i + 1)).countP (· ≤ values[i]) = (values.take (i + 1)).length := by
    rw [List.countP_eq_length]
    intro v hv
    obtain ⟨j, hj, rfl⟩ := List.getElem_of_mem hv
    rw [List.length_take] at hj
    simpa using getElem_le_sorted hs hi (i := j) (by omega) (by omega)
  have hl : (values.take (i + 1)).length = i + 1 := by
    rw [List.length_take]
    omega
  have hle : (values.take (i + 1)).countP (· ≤ values[i]) ≤ values.countP (· ≤ values[i]) :=
    (List.take_sublist _ _).countP_le
  rw [ht, hl] at hle
  exact hle

end Sorted

namespace NearestRank

variable {α : Type} [LinearOrder α] {values values' : List α} {p q : Nat} {v w : α}

theorem perm (hp : values.Perm values') (h : NearestRank values p v) : NearestRank values' p v where
  mem   := hp.mem_iff.mp h.mem
  below := by
    rw [← hp.countP_eq, ← hp.length_eq]
    exact h.below
  above := by
    rw [← hp.countP_eq, ← hp.length_eq]
    exact h.above

theorem countP_le_lt (h : v < w) : values.countP (· ≤ v) ≤ values.countP (· < w) :=
  List.countP_mono_left fun _ _ hx => by simpa using (of_decide_eq_true hx).trans_lt h

-- A greater percentile is not below.
theorem mono (hpq : p ≤ q) (h : NearestRank values p v) (h' : NearestRank values q w) : v ≤ w := by
  by_contra hn
  have hle : values.countP (· ≤ w) ≤ values.countP (· < v) := countP_le_lt (not_le.mp hn)
  have hmul : p * values.length ≤ q * values.length := Nat.mul_le_mul_right _ hpq
  have := h.below
  have := h'.above
  omega

theorem unique (h : NearestRank values p v) (h' : NearestRank values p w) : v = w :=
  le_antisymm (h.mono (Nat.le_refl p) h') (h'.mono (Nat.le_refl p) h)

-- The value at the rank of a percentile in a sorted list.
theorem of_sorted (hs : values.Pairwise (· ≤ ·)) (hi : i < values.length) (hb : 100 * i < p * values.length)
    (ha : p * values.length ≤ 100 * (i + 1)) : NearestRank values p values[i] where
  mem   := List.getElem_mem hi
  below := Nat.lt_of_le_of_lt (Nat.mul_le_mul_left _ (countP_lt_sorted hs hi)) hb
  above := Nat.le_trans ha (Nat.mul_le_mul_left _ (lt_countP_le_sorted hs hi))

end NearestRank
