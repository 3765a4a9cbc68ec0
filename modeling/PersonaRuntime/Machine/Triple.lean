import PersonaRuntime.Machine.Mutation

namespace EStateM

variable {ε σ α β : Type} {P : σ → Prop} {Q : α → σ → Prop} {R : σ → Prop}

-- From every state with `P` the method returns with `Q`, or it fails and leaves `R`.
def Triple (P : σ → Prop) (x : EStateM ε σ α) (Q : α → σ → Prop) (R : σ → Prop) : Prop :=
  ∀ s, P s →
    match x.run s with
    | .ok a s'    => Q a s'
    | .error _ s' => R s'

namespace Triple

theorem pure {a : α} (h : ∀ s, P s → Q a s) : Triple P (pure a : EStateM ε σ α) Q R :=
  h

theorem throw {e : ε} (h : ∀ s, P s → R s) : Triple P (throw e : EStateM ε σ α) Q R :=
  h

theorem bind {x : EStateM ε σ α} {f : α → EStateM ε σ β} {Q' : β → σ → Prop} (hx : Triple P x Q R)
    (hf : ∀ a, Triple (Q a) (f a) Q' R) : Triple P (x >>= f) Q' R := by
  intro s hs
  have hx := hx s hs
  rw [EStateM.run_bind]
  cases hr : x.run s <;> simp only [hr] at hx
  case ok a s'    => exact hf a s' hx
  case error e s' => exact hx

theorem weaken {x : EStateM ε σ α} {P' : σ → Prop} {Q' : α → σ → Prop} {R' : σ → Prop}
    (h : Triple P' x Q' R') (hp : ∀ s, P s → P' s) (hq : ∀ a s, Q' a s → Q a s) (hr : ∀ s, R' s → R s) :
    Triple P x Q R := by
  intro s hs
  have hx := h s (hp s hs)
  cases hs : x.run s <;> simp only [hs] at hx ⊢
  case ok a s'    => exact hq a s' hx
  case error e s' => exact hr s' hx

theorem check {ε' : Type} {f : ε' → ε} {x : Except ε' α} (hp : ∀ a, x = .ok a → ∀ s, P s → Q a s)
    (hr : ∀ s, P s → R s) : Triple P (check f x) Q R := by
  intro s hs
  cases x
  case ok a    => exact hp a rfl s hs
  case error e => exact hr s hs

-- An error keeps what was done before it.
theorem tryCatch {x : EStateM ε σ α} {f : ε → EStateM ε σ α} {R' : σ → Prop} (hx : Triple P x Q R)
    (hf : ∀ e, Triple R (f e) Q R') : Triple P (tryCatch x f) Q R' := by
  intro s hs
  have hx := hx s hs
  have hr : (MonadExcept.tryCatch x f).run s =
      match x.run s with
      | .ok a s'    => .ok a s'
      | .error e s' => (f e).run s' := by
    change EStateM.tryCatch x f s = _
    delta EStateM.tryCatch
    cases he : x s
    case ok    => simp only [EStateM.run, he]
    case error =>
      simp only [EStateM.run, he]
      rfl
  cases he : x.run s <;> simp only [he] at hx hr
  case ok a s'    => simpa only [hr] using hx
  case error e s' => simpa only [hr] using hf e s' hx

-- What holds whether the method fails or not holds of the state that it leaves.
theorem state {x : EStateM ε σ α} (h : Triple P x (fun _ => R) R) {s : σ} (hs : P s) : R (x.run s).state := by
  have hx := h s hs
  cases hr : x.run s <;> simp only [hr] at hx <;> exact hx

end Triple

end EStateM
