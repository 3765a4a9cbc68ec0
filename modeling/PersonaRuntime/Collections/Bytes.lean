import Mathlib.Algebra.Group.Nat.Defs
import Mathlib.Data.List.Basic

-- Slices of a list and little-endian numbers.
namespace List

variable {α : Type} {xs pre mid post : List α} {a b n : Nat}

-- `xs[a..b]`, which is nothing where the indices are out of range.
def slice (xs : List α) (a b : Nat) : Option (List α) :=
  if a ≤ b ∧ b ≤ xs.length then some ((xs.drop a).take (b - a)) else none

theorem slice_isSome (h : a ≤ b) (hb : b ≤ xs.length) : ∃ ys, xs.slice a b = some ys ∧ ys.length = b - a := by
  refine ⟨_, if_pos ⟨h, hb⟩, ?_⟩
  simp
  omega

theorem slice_append (ha : a = pre.length) (hb : b = pre.length + mid.length) :
    (pre ++ mid ++ post).slice a b = some mid := by
  subst ha hb
  rw [slice, if_pos ⟨by omega, by simp⟩]
  simp

-- What is sliced from a part of a list.
theorem slice_part (hn : n = pre.length) (hb : b ≤ mid.length) :
    (pre ++ mid ++ post).slice (n + a) (n + b) = mid.slice a b := by
  subst hn
  by_cases h : a ≤ b
  case neg => simp [slice, h]
  rw [slice, slice, if_pos ⟨by omega, by simp; omega⟩, if_pos ⟨h, hb⟩]
  congr 1
  rw [append_assoc, drop_append, drop_eq_nil_of_le (by omega), Nat.add_sub_cancel_left, nil_append,
    drop_append_of_le_length (by omega), take_append_of_le_length (by simp; omega)]
  congr 1
  omega

end List

-- `to_le_bytes` of a number of `k` bytes.
def leBytes : Nat → Nat → List UInt8
  | 0, _     => []
  | k + 1, n => UInt8.ofNat (n % 256) :: leBytes k (n / 256)

-- `from_le_bytes`
def leValue : List UInt8 → Nat
  | []      => 0
  | b :: bs => b.toNat + 256 * leValue bs

@[simp] theorem length_leBytes (k n : Nat) : (leBytes k n).length = k := by
  induction k generalizing n
  case zero      => rfl
  case succ k hi => simp [leBytes, hi]

theorem leValue_leBytes (k n : Nat) (h : n < 256 ^ k) : leValue (leBytes k n) = n := by
  induction k generalizing n
  case zero =>
    have hn : n = 0 := by simpa using h
    simp [hn, leBytes, leValue]
  case succ k hi =>
    have hd : n / 256 < 256 ^ k := by
      rw [Nat.div_lt_iff_lt_mul (by decide)]
      rwa [Nat.pow_succ] at h
    have hb : (UInt8.ofNat (n % 256)).toNat = n % 256 := by simp
    rw [leBytes, leValue, hi _ hd, hb]
    omega
