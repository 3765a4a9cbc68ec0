import Mathlib.Data.List.Basic

-- A loop that may return early is a `foldlM` in `Except`.
namespace List

variable {ε α σ : Type} {f : σ → α → Except ε σ} {P : List α → σ → Prop} {xs : List α} {s s' : σ}

theorem foldlM_ok_cons {x : α} :
    (x :: xs).foldlM f s = .ok s' ↔ ∃ s₁, f s x = .ok s₁ ∧ xs.foldlM f s₁ = .ok s' := by
  rw [foldlM_cons]
  cases f s x
  case error => simp [bind, Except.bind]
  case ok    => simp [bind, Except.bind]

-- What every passed element keeps holds at the end of a loop that does not return early.
theorem foldlM_ok_invariant (h : ∀ {done x s s'}, P done s → f s x = .ok s' → P (done ++ [x]) s')
    (h₀ : P [] s) (hr : xs.foldlM f s = .ok s') : P xs s' := by
  suffices hs : ∀ done, P done s → P (done ++ xs) s' by simpa using hs [] h₀
  clear h₀
  induction xs generalizing s
  case nil =>
    intro done hd
    cases hr
    simpa using hd
  case cons x xs hi =>
    intro done hd
    obtain ⟨s₁, hf, hr⟩ := foldlM_ok_cons.mp hr
    simpa using hi hr (done ++ [x]) (h hd hf)

-- A loop does not return early where no element makes it do so.
theorem exists_foldlM_ok
    (h : ∀ {done x s}, (done ++ [x]) <+: xs → P done s → ∃ s', f s x = .ok s' ∧ P (done ++ [x]) s')
    (h₀ : P [] s) : ∃ s', xs.foldlM f s = .ok s' ∧ P xs s' := by
  suffices hs : ∀ done rest s, done ++ rest = xs → P done s → ∃ s', rest.foldlM f s = .ok s' ∧ P xs s' from
    hs [] xs s rfl h₀
  intro done rest
  induction rest generalizing done
  case nil =>
    rintro s rfl hd
    exact ⟨s, rfl, by simpa using hd⟩
  case cons x rest hi =>
    intro s hx hd
    obtain ⟨s₁, hf, hd⟩ := h ⟨rest, by simpa using hx⟩ hd
    obtain ⟨s', hr, hp⟩ := hi (done ++ [x]) s₁ (by simpa using hx) hd
    exact ⟨s', foldlM_ok_cons.mpr ⟨s₁, hf, hr⟩, hp⟩

end List
