import Mathlib.Logic.Basic

-- `u64::MAX`
def u64Max : Nat :=
  18446744073709551615

-- `u64::checked_add`
def checkedAdd (a b : Nat) : Option Nat :=
  if a + b ≤ u64Max then some (a + b) else none

theorem checkedAdd_eq_some_iff {a b c : Nat} : checkedAdd a b = some c ↔ a + b ≤ u64Max ∧ c = a + b := by
  simp [checkedAdd, eq_comm]

-- `char::is_whitespace`, the Unicode property `White_Space`.
def isWhiteSpace (c : Char) : Bool :=
  let n := c.toNat
  (0x09 ≤ n && n ≤ 0x0D) || n == 0x20 || n == 0x85 || n == 0xA0 || n == 0x1680 ||
    (0x2000 ≤ n && n ≤ 0x200A) || n == 0x2028 || n == 0x2029 || n == 0x202F || n == 0x205F ||
    n == 0x3000

-- `value.trim().is_empty()`
def isBlank (value : String) : Bool :=
  value.toList.all isWhiteSpace

def maxCanonicalIdChars : Nat :=
  256

inductive IdError
  | mk
deriving DecidableEq, Repr

-- The canonical identifiers (`PersonaId`, `ClaimId`, `SessionId`, `TurnId`, `CorrelationId`) are
-- instances of one macro in the source.
structure CanonicalId where
  asStr    : String
  nonblank : isBlank asStr = false
  bounded  : asStr.length ≤ maxCanonicalIdChars
deriving DecidableEq

namespace CanonicalId

def new (value : String) : Except IdError CanonicalId :=
  if h : isBlank value = false ∧ value.length ≤ maxCanonicalIdChars then
    .ok ⟨value, h.left, h.right⟩
  else
    .error .mk

@[ext]
theorem ext {i j : CanonicalId} (h : i.asStr = j.asStr) : i = j := by
  cases i; cases j; simp_all

end CanonicalId

abbrev PersonaId := CanonicalId
abbrev ClaimId := CanonicalId
abbrev SessionId := CanonicalId
abbrev TurnId := CanonicalId
abbrev CorrelationId := CanonicalId

inductive AuthorizationEpochExhausted
  | mk
deriving DecidableEq, Repr

@[ext]
structure AuthorizationEpoch where
  get : Nat
deriving DecidableEq, Repr

namespace AuthorizationEpoch

def initial : AuthorizationEpoch :=
  ⟨1⟩

def fromPersisted (value : Nat) : Option AuthorizationEpoch :=
  if value = 0 then none else some ⟨value⟩

def next (e : AuthorizationEpoch) : Except AuthorizationEpochExhausted AuthorizationEpoch :=
  match checkedAdd e.get 1 with
  | some v => .ok ⟨v⟩
  | none   => .error .mk

theorem get_next {e e' : AuthorizationEpoch} (h : e.next = .ok e') : e'.get = e.get + 1 := by
  cases hv : checkedAdd e.get 1 <;> simp [next, hv] at h
  case some => simp [← h, checkedAdd_eq_some_iff.mp hv]

theorem next_ne {e e' : AuthorizationEpoch} (h : e.next = .ok e') : e ≠ e' := by
  rintro rfl
  simpa using get_next h

end AuthorizationEpoch

inductive PolicyRevisionExhausted
  | mk
deriving DecidableEq, Repr

structure PolicyRevision where
  get : Nat
deriving DecidableEq, Repr

namespace PolicyRevision

def initial : PolicyRevision :=
  ⟨1⟩

def next (r : PolicyRevision) : Except PolicyRevisionExhausted PolicyRevision :=
  match checkedAdd r.get 1 with
  | some v => .ok ⟨v⟩
  | none   => .error .mk

theorem next_ne {r r' : PolicyRevision} (h : r.next = .ok r') : r ≠ r' := by
  rintro rfl
  cases hv : checkedAdd r.get 1 <;> simp [next, hv] at h
  case some v =>
    have hv := (checkedAdd_eq_some_iff.mp hv).right
    simp [← h] at hv

end PolicyRevision
