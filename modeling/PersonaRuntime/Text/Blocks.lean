import Mathlib.Data.List.TakeWhile

-- Blocks of lines, each of a head that a reader can tell from every other line and of a body.
structure Blocks (α β : Type) where
  isHead : α → Bool
  head   : β → α
  body   : β → List α

namespace Blocks

variable {α β : Type} (m : Blocks α β) {b : β} {bs cs : List β}

def lines (bs : List β) : List α :=
  bs.flatMap fun b => m.head b :: m.body b

-- Nothing in the body of a block passes for the head of another one.
structure Plain (b : β) : Prop where
  head : m.isHead (m.head b) = true
  body : ∀ x ∈ m.body b, m.isHead x = false

variable {m}

end Blocks
