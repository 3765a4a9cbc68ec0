import Mathlib.Algebra.BigOperators.Group.List.Basic
import Mathlib.Algebra.GroupWithZero.Nat

-- What is lost when the parts of a sum are divided one by one.
namespace List

variable {r : Nat}

theorem sum_div_add_mod (l : List Nat) : r * (l.map (· / r)).sum + (l.map (· % r)).sum = l.sum := by
  induction l
  case nil => rfl
  case cons x l hi =>
    have hx := Nat.div_add_mod x r
    simp only [map_cons, sum_cons, Nat.mul_add]
    omega

-- The parts and the whole agree for as long as the remainders of the parts do not fill the divisor.
theorem sum_div_eq_iff (hr : 0 < r) (l : List Nat) :
    (l.map (· / r)).sum = l.sum / r ↔ (l.map (· % r)).sum < r := by
  have h : l.sum / r = (l.map (· % r)).sum / r + (l.map (· / r)).sum := by
    rw [← sum_div_add_mod (r := r) l, Nat.add_comm, Nat.add_mul_div_left _ _ hr]
  rw [h, eq_comm, Nat.add_eq_right, Nat.div_eq_zero_iff]
  omega

theorem forall_sum_div_eq_iff (hr : 0 < r) (l : List Nat) :
    (∀ earlier x later, l = earlier ++ x :: later → (earlier.map (· / r)).sum = earlier.sum / r) ↔
      (l.dropLast.map (· % r)).sum < r := by
  constructor
  case mp =>
    intro h
    obtain rfl | ⟨l, x, rfl⟩ := l.eq_nil_or_concat
    case inl => exact hr
    case inr =>
      rw [concat_eq_append] at h ⊢
      rw [dropLast_concat]
      exact (sum_div_eq_iff hr l).mp (h l x [] rfl)
  case mpr =>
    rintro h earlier x later rfl
    apply (sum_div_eq_iff hr earlier).mpr
    rw [dropLast_append_of_ne_nil (cons_ne_nil x later), map_append, sum_append] at h
    omega

end List
