import Mathlib.Data.List.AList

variable {α β : Type} {key : α → Nat} {val : α → β} {m : Std.TreeMap Nat β} {xs : List α} {x : α} {k : Nat}

-- A map has the values of the elements of a list under their keys.
def Indexes (key : α → Nat) (val : α → β) (m : Std.TreeMap Nat β) (xs : List α) : Prop :=
  ∀ k v, m[k]? = some v ↔ ∃ x ∈ xs, key x = k ∧ val x = v

namespace Indexes

theorem nil : Indexes key val ∅ [] := by
  simp [Indexes]

theorem mem_iff (h : Indexes key val m xs) : k ∈ m ↔ k ∈ xs.map key := by
  rw [← Std.TreeMap.isSome_getElem?_iff_mem, Option.isSome_iff_exists]
  simp [h k]

-- One more element. The value that the map may have for its key has to be the same.
theorem snoc (h : Indexes key val m xs) (hv : ∀ y ∈ xs, key y = key x → val y = val x) :
    Indexes key val (m.insert (key x) (val x)) (xs ++ [x]) := by
  intro k v
  simp only [Std.TreeMap.getElem?_insert, Std.LawfulEqCmp.compare_eq_iff_eq, List.mem_append, List.mem_singleton]
  split
  case isTrue hk =>
    subst hk
    rw [Option.some.injEq]
    constructor
    case mp => exact fun hx => ⟨x, .inr rfl, rfl, hx⟩
    case mpr =>
      rintro ⟨y, hy | rfl, hk, rfl⟩
      · exact (hv y hy hk).symm
      · rfl
  case isFalse hk =>
    rw [h k v]
    constructor
    case mp =>
      rintro ⟨y, hy, hs⟩
      exact ⟨y, .inl hy, hs⟩
    case mpr =>
      rintro ⟨y, hy | rfl, hs⟩
      · exact ⟨y, hy, hs⟩
      · exact absurd hs.left hk

theorem snoc_of_notMem (h : Indexes key val m xs) (hx : key x ∉ m) :
    Indexes key val (m.insert (key x) (val x)) (xs ++ [x]) := by
  apply h.snoc
  intro y hy hk
  exact absurd (h.mem_iff.mpr (hk ▸ List.mem_map_of_mem hy)) hx

end Indexes

section Insert

variable {v : β} {f : β → Nat}

theorem size_insert_of_some (h : m[k]? = some v) (w : β) : (m.insert k w).size = m.size := by
  have hm : m.contains k = true := by
    rw [Std.TreeMap.contains_eq_isSome_getElem?, h]
    rfl
  rw [Std.TreeMap.size_insert, if_pos hm]

theorem size_insert_of_notMem (h : k ∉ m) (w : β) : (m.insert k w).size = m.size + 1 := by
  rw [Std.TreeMap.size_insert, if_neg (by simpa using h)]

-- What holds of every value holds after one more.
theorem forall_insert {P : Nat → β → Prop} (h : ∀ {k v}, m[k]? = some v → P k v) (hv : P k v) {k' : Nat} {w : β}
    (hw : (m.insert k v)[k']? = some w) : P k' w := by
  simp only [Std.TreeMap.getElem?_insert, Std.LawfulEqCmp.compare_eq_iff_eq] at hw
  split at hw
  case isTrue he =>
    cases hw
    exact he ▸ hv
  case isFalse => exact h hw

theorem mem_map_toList : v ∈ m.toList.map Prod.snd ↔ ∃ k : Nat, m[k]? = some v := by
  simp [Std.TreeMap.mem_toList_iff_getElem?_eq_some]

-- The keys of the values in the order of the map are not repeated.
theorem nodup_map_toList (h : ∀ {k v}, m[k]? = some v → f v = k) : ((m.toList.map Prod.snd).map f).Nodup := by
  have hk : (m.toList.map Prod.snd).map f = m.toList.map Prod.fst := by
    rw [List.map_map]
    apply List.map_congr_left
    intro x hx
    exact h (Std.TreeMap.mem_toList_iff_getElem?_eq_some.mp hx)
  rw [hk, List.Nodup, List.pairwise_map]
  apply Std.TreeMap.distinct_keys_toList.imp
  simp

end Insert
