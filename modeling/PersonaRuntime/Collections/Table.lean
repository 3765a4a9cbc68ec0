import Mathlib.Data.List.AList

-- A table with a primary key. `AList` carries the uniqueness of the keys.
abbrev Table (κ ρ : Type) := AList (fun _ : κ => ρ)

namespace Table

variable {κ ρ : Type} {p : κ → ρ → Bool} {f : κ → ρ → ρ} {k : κ} {r : ρ}

-- `SELECT 1 FROM table WHERE p LIMIT 1`
def any (table : Table κ ρ) (p : κ → ρ → Bool) : Bool :=
  table.entries.any fun r => p r.1 r.2

-- `UPDATE table SET f WHERE p`
def update (table : Table κ ρ) (p : κ → ρ → Bool) (f : κ → ρ → ρ) : Table κ ρ where
  entries   := table.entries.map fun r => if p r.1 r.2 then ⟨r.1, f r.1 r.2⟩ else r
  nodupKeys := by
    have h := table.nodupKeys
    simp only [List.NodupKeys, List.keys, List.map_map] at h ⊢
    convert h using 2
    funext r
    simp only [Function.comp_apply]
    split <;> rfl

variable [DecidableEq κ] {table : Table κ ρ}

theorem any_iff : table.any p = true ↔ ∃ k r, table.lookup k = some r ∧ p k r = true := by
  simp only [any, List.any_eq_true, Sigma.exists]
  exact exists₂_congr fun k r => and_congr_left' AList.mem_lookup_iff.symm

theorem any_eq_false_iff : table.any p = false ↔ ∀ k r, table.lookup k = some r → p k r = false := by
  rw [← Bool.not_eq_true, any_iff]
  simp

theorem lookup_update :
    (table.update p f).lookup k = (table.lookup k).map fun r => if p k r then f k r else r := by
  ext r
  simp only [Option.map_eq_some_iff]
  constructor
  case mp =>
    intro h
    have h := AList.mem_lookup_iff.mp h
    simp only [update, List.mem_map] at h
    have ⟨⟨k', r'⟩, hm, he⟩ := h
    cases hp : p k' r' <;> simp [hp] at he <;> obtain ⟨rfl, rfl⟩ := he
    all_goals exact ⟨r', AList.mem_lookup_iff.mpr hm, by simp [hp]⟩
  case mpr =>
    rintro ⟨r', h, rfl⟩
    refine AList.mem_lookup_iff.mpr (List.mem_map.mpr ⟨⟨k, r'⟩, AList.mem_lookup_iff.mp h, ?_⟩)
    simp only
    split <;> rfl

theorem length_erase_le : (table.erase k).entries.length ≤ table.entries.length :=
  (List.kerase_sublist k table.entries).length_le

theorem length_insert_le : (table.insert k r).entries.length ≤ table.entries.length + 1 :=
  Nat.succ_le_succ length_erase_le

end Table
