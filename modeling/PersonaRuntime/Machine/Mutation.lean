import Mathlib.Logic.Basic

-- A method that takes `&mut self` and returns a `Result` is an `EStateM`: an early return keeps
-- every assignment that was made before it.
namespace EStateM

variable {ε ε' σ τ α β : Type}

@[simp]
theorem run_throw_any (e : ε) (s : σ) : (throw e : EStateM ε σ α).run s = .error e s :=
  rfl

@[simp]
theorem run_map_any (f : α → β) (x : EStateM ε σ α) (s : σ) :
    (f <$> x).run s =
      match x.run s with
      | .ok a s'    => .ok (f a) s'
      | .error e s' => .error e s' := by
  simp only [EStateM.run, Functor.map, EStateM.map]
  split <;> simp_all

-- `result.map_err(f)?`
def check (f : ε' → ε) : Except ε' α → EStateM ε σ α
  | .ok a    => pure a
  | .error e => throw (f e)

@[simp]
theorem check_ok_run (f : ε' → ε) (a : α) (s : σ) :
    (check f (.ok a) : EStateM ε σ α).run s = .ok a s :=
  rfl

@[simp]
theorem check_error_run (f : ε' → ε) (e : ε') (s : σ) :
    (check f (.error e) : EStateM ε σ α).run s = .error (f e) s :=
  rfl

-- `self.field.method().map_err(f)?`
def zoom (get : σ → τ) (put : σ → τ → σ) (f : ε' → ε) (x : EStateM ε' τ α) : EStateM ε σ α :=
  fun s =>
    match x.run (get s) with
    | .ok a t    => .ok a (put s t)
    | .error e t => .error (f e) (put s t)

theorem zoom_run (get : σ → τ) (put : σ → τ → σ) (f : ε' → ε) (x : EStateM ε' τ α) (s : σ) :
    (zoom get put f x).run s =
      match x.run (get s) with
      | .ok a t    => .ok a (put s t)
      | .error e t => .error (f e) (put s t) :=
  rfl

-- A database transaction: an error that leaves the block rolls the state back.
def transaction (x : EStateM ε σ α) : EStateM ε σ α :=
  fun s =>
    match x.run s with
    | .ok a s'   => .ok a s'
    | .error e _ => .error e s

theorem transaction_run (x : EStateM ε σ α) (s : σ) :
    (transaction x).run s =
      match x.run s with
      | .ok a s'   => .ok a s'
      | .error e _ => .error e s :=
  rfl

-- `for element in &mut elements { body(element)?; }`: an error ends the loop and leaves the rest of
-- the elements as they are.
def forEach (x : EStateM ε σ Unit) : EStateM ε (List σ) Unit
  | []      => .ok () []
  | a :: as =>
    match x.run a with
    | .error e a' => .error e (a' :: as)
    | .ok _ a'    =>
      match forEach x as with
      | .ok _ as'    => .ok () (a' :: as')
      | .error e as' => .error e (a' :: as')

theorem forEach_run_eq_ok {x : EStateM ε σ Unit} {f : σ → σ} {as : List σ}
    (h : ∀ a ∈ as, x.run a = .ok () (f a)) : (forEach x).run as = .ok () (as.map f) := by
  induction as
  case nil => rfl
  case cons a as hi =>
    have ha := h a (by simp)
    have hs := hi fun b hb => h b (by simp [hb])
    simp only [EStateM.run] at ha hs
    simp [EStateM.run, forEach, ha, hs]

-- `elements.iter_mut().find(p).ok_or(e)?` followed by a call on the element that was found.
def onFirst (p : σ → Bool) (e : ε) (x : EStateM ε σ Unit) : EStateM ε (List σ) Unit
  | []      => .error e []
  | a :: as =>
    if p a then
      match x.run a with
      | .ok _ a'    => .ok () (a' :: as)
      | .error e a' => .error e (a' :: as)
    else
      match onFirst p e x as with
      | .ok _ as'    => .ok () (a :: as')
      | .error e as' => .error e (a :: as')

-- A method that changes its state only when it succeeds.
def atomic (f : σ → Except ε σ) : EStateM ε σ Unit :=
  fun s =>
    match f s with
    | .ok s'   => .ok () s'
    | .error e => .error e s

theorem atomic_run (f : σ → Except ε σ) (s : σ) :
    (atomic f).run s =
      match f s with
      | .ok s'   => .ok () s'
      | .error e => .error e s :=
  rfl

theorem eq_atomic {x : EStateM ε σ Unit} {f : σ → Except ε σ}
    (h : ∀ s, x.run s = (atomic f).run s) : x = atomic f :=
  funext h

-- The same for a method that returns something.
def atomically (f : σ → Except ε (σ × α)) : EStateM ε σ α :=
  fun s =>
    match f s with
    | .ok (s', a) => .ok a s'
    | .error e    => .error e s

theorem atomically_run (f : σ → Except ε (σ × α)) (s : σ) :
    (atomically f).run s =
      match f s with
      | .ok (s', a) => .ok a s'
      | .error e    => .error e s :=
  rfl

theorem eq_atomically {x : EStateM ε σ α} {f : σ → Except ε (σ × α)}
    (h : ∀ s, x.run s = (atomically f).run s) : x = atomically f :=
  funext h

-- The state after a call, whatever the call returned.
def Result.state : Result ε σ α → σ
  | .ok _ s | .error _ s => s

def Result.isOk : Result ε σ α → Bool
  | .ok .. => true
  | .error .. => false

def Result.toExcept : Result ε σ α → Except ε α
  | .ok a _ => .ok a
  | .error e _ => .error e

@[simp] theorem Result.state_ok (a : α) (s : σ) : (.ok a s : Result ε σ α).state = s := rfl
@[simp] theorem Result.state_error (e : ε) (s : σ) : (.error e s : Result ε σ α).state = s := rfl
@[simp] theorem Result.isOk_ok (a : α) (s : σ) : (.ok a s : Result ε σ α).isOk = true := rfl
@[simp] theorem Result.isOk_error (e : ε) (s : σ) : (.error e s : Result ε σ α).isOk = false := rfl

-- What the body keeps of one element the loop keeps of all of them, wherever it stops.
theorem forEach_state_map {x : EStateM ε σ Unit} {f : σ → β} (h : ∀ a, f (x.run a).state = f a)
    (as : List σ) : ((forEach x).run as).state.map f = as.map f := by
  induction as
  case nil => rfl
  case cons a as hi =>
    have ha := h a
    simp only [EStateM.run] at ha hi ⊢
    cases hx : x a <;> simp only [hx, Result.state] at ha
    case error => simp [forEach, EStateM.run, hx, Result.state, ha]
    case ok =>
      cases hl : forEach x as <;> simp only [hl, Result.state] at hi
      all_goals simp [forEach, EStateM.run, hx, hl, Result.state, ha, hi]

end EStateM

namespace Except

variable {ε α β : Type}

theorem bind_eq_ok {x : Except ε α} {f : α → Except ε β} {b : β} (h : x >>= f = .ok b) :
    ∃ a, x = .ok a ∧ f a = .ok b := by
  cases x
  case error => cases h
  case ok a  => exact ⟨a, rfl, h⟩

theorem ok_bind {a : α} {f : α → Except ε β} : (.ok a >>= f) = f a :=
  rfl

theorem bind_of_ok {x : Except ε α} {f : α → Except ε β} {a : α} {b : β} (h : x = .ok a) (h' : f a = .ok b) :
    (x >>= f) = .ok b := by
  rw [h]
  exact h'

theorem error_bind {e : ε} {f : α → Except ε β} : (.error e >>= f) = .error e :=
  rfl

theorem bind_pure {x : Except ε α} {f : α → β} : (do return f (← x)) = x.map f := by
  cases x <;> rfl

theorem mapError_ok {ε' : Type} {g : ε → ε'} {a : α} : (.ok a : Except ε α).mapError g = .ok a :=
  rfl

theorem mapError_error {ε' : Type} {g : ε → ε'} {e : ε} :
    (.error e : Except ε α).mapError g = .error (g e) :=
  rfl

theorem mapError_eq_ok {ε' : Type} {x : Except ε α} {g : ε → ε'} {a : α} :
    x.mapError g = .ok a ↔ x = .ok a := by
  cases x <;> simp [mapError_ok, mapError_error]

theorem exists_bind {x : Except ε α} {f : α → Except ε β} (h : ∃ a, x = .ok a)
    (hf : ∀ a, ∃ b, f a = .ok b) : ∃ b, x >>= f = .ok b := by
  obtain ⟨a, rfl⟩ := h
  exact hf a

theorem ite_error_eq_ok_iff {c : Prop} [Decidable c] {e : ε} {x : Except ε α} {a : α} :
    (if c then .error e else x) = .ok a ↔ ¬c ∧ x = .ok a := by
  split <;> simp_all

-- `if c { return Err(e); }`
theorem guard_eq_ok {c : Prop} [Decidable c] {e : ε} {f : α → Except ε β} {x : Except ε β} {b : β}
    (h : (if c then throw e >>= f else x) = .ok b) : x = .ok b := by
  split at h
  case isTrue  => cases h
  case isFalse => exact h

end Except

theorem guard_bind_eq_some {α : Type} {c : Bool} {f : Unit → Option α} {a : α}
    (h : (guard (c = true) >>= f) = some a) : c = true ∧ f () = some a := by
  cases c
  case false => cases h
  case true  => exact ⟨rfl, h⟩
