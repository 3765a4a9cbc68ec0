import Mathlib.Data.List.Basic

-- A registry of weak references: an entry pairs the key that was current when a shared cell was
-- bound with the address of that cell.
abbrev WeakRegistry (κ ι : Type) := List (κ × ι)

namespace WeakRegistry

variable {κ ι γ : Type} {live live' : ι → Bool} {r : WeakRegistry κ ι} {k current : κ} {i : ι}

-- `entries.retain(|entry| entry.strong_count() > 0)`
def prune (r : WeakRegistry κ ι) (live : ι → Bool) : WeakRegistry κ ι :=
  r.filter fun b => live b.2

def bind (r : WeakRegistry κ ι) (live : ι → Bool) (k : κ) (i : ι) : WeakRegistry κ ι :=
  r.prune live ++ [(k, i)]

-- The cells that a sweep for `current` reaches: still alive and bound to another key.
def stale [DecidableEq κ] (r : WeakRegistry κ ι) (live : ι → Bool) (current : κ) [DecidableEq ι]
    (i : ι) : Bool :=
  live i && r.any fun b => b.2 == i && b.1 != current

@[simp]
theorem mem_prune {b : κ × ι} : b ∈ r.prune live ↔ b ∈ r ∧ live b.2 = true := by
  simp [prune]

@[simp]
theorem mem_bind {b : κ × ι} : b ∈ r.bind live k i ↔ (b ∈ r ∧ live b.2 = true) ∨ b = (k, i) := by
  simp [bind]

theorem stale_of_mem [DecidableEq κ] [DecidableEq ι]
    (h : (k, i) ∈ r) (hl : live i = true) (hk : k ≠ current) : r.stale live current i = true := by
  simp only [stale, hl, Bool.true_and, List.any_eq_true]
  exact ⟨(k, i), h, by simpa using hk⟩

-- A registry fences the cells of a heap when it knows every live cell and every live cell that is
-- bound to a key other than the current one is flagged.
structure Fences (r : WeakRegistry κ ι) (live : ι → Bool) (cells : ι → Option γ)
    (key : γ → κ) (flag : γ → Bool) (current : κ) : Prop where
  registered : ∀ {i c}, cells i = some c → live i = true → (key c, i) ∈ r
  flagged    : ∀ {i c}, cells i = some c → live i = true → key c ≠ current → flag c = true

namespace Fences

variable {cells cells' : ι → Option γ} {key : γ → κ} {flag : γ → Bool}

-- A step that kills cells, raises flags and leaves every binding alone.
theorem mono (f : r.Fences live cells key flag current)
    (hl : ∀ {i}, live' i = true → live i = true)
    (hc : ∀ {i c'}, cells' i = some c' → ∃ c, cells i = some c ∧ key c' = key c ∧
      (flag c = true → flag c' = true)) :
    r.Fences live' cells' key flag current where
  registered h h' := by
    have ⟨_, hc, hk, _⟩ := hc h
    exact hk ▸ f.registered hc (hl h')
  flagged h h' hn := by
    have ⟨_, hc, hk, hf⟩ := hc h
    exact hf <| f.flagged hc (hl h') (hk ▸ hn)

-- Binding a fresh cell to the current key.
theorem bind (f : r.Fences live cells key flag current) {c : γ} (hk : key c = current)
    (hc : ∀ {j c'}, cells' j = some c' → (j = i ∧ c' = c) ∨ (j ≠ i ∧ cells j = some c'))
    (hl : ∀ {j}, j ≠ i → live' j = true → live j = true) :
    (r.bind live current i).Fences live' cells' key flag current where
  registered {j c'} h h' := by
    obtain ⟨rfl, rfl⟩ | ⟨hn, h⟩ := hc h
    · simp [hk]
    · simp [f.registered h (hl hn h'), hl hn h']
  flagged {j c'} h h' hn := by
    obtain ⟨rfl, rfl⟩ | ⟨hj, h⟩ := hc h
    · exact absurd hk hn
    · exact f.flagged h (hl hj h') hn

-- Moving to a new key and sweeping. That every stale cell was flagged before is not needed: the
-- sweep reaches every live cell, because the registry knows it.
theorem sweep [DecidableEq κ] [DecidableEq ι] (f : r.Fences live cells key flag current)
    {current' : κ} (hc : ∀ {i c'}, cells' i = some c' → ∃ c, cells i = some c ∧ key c' = key c ∧
      (r.stale live current' i = true → flag c' = true)) :
    (r.prune live).Fences live cells' key flag current' where
  registered h h' := by
    have ⟨_, hc, hk, _⟩ := hc h
    exact mem_prune.mpr ⟨hk ▸ f.registered hc h', h'⟩
  flagged h h' hn := by
    have ⟨_, hc, hk, hf⟩ := hc h
    exact hf <| stale_of_mem (f.registered hc h') h' (hk ▸ hn)

end Fences
end WeakRegistry
