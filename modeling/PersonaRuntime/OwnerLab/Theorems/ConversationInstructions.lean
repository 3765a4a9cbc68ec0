import Mathlib.Data.List.Count
import PersonaRuntime.OwnerLab.ConversationInstructions
import PersonaRuntime.Text.Blocks

-- The beginning of the line that opens an entry.
def ClaimKind.bullet (kind : ClaimKind) : List Char :=
  ("- [" ++ kind.label ++ "] ").toList

namespace ReviewedOwnerContext

def lines (text : List Char) : List (List Char) :=
  text.splitOn '\n'

def isBullet (line : List Char) : Bool :=
  [ClaimKind.factual, .opinion, .preference, .prediction, .valueJudgment].any
    (·.bullet.isPrefixOf line)

def endLine : List Char :=
  "END VERIFIED OWNER MATERIAL".toList

-- An entry opens with the bullet of its kind and goes on for as long as its statement has lines.
def entry : Blocks (List Char) OwnerClaim where
  isHead         := isBullet
  head claim     := claim.kind.bullet ++ (lines (trimmed claim.statement.toList)).head?.getD []
  body claim     := (lines (trimmed claim.statement.toList)).tail

def currentClaims (p : PersonaProfile) : List OwnerClaim :=
  p.claims.map (·.current.claim)

-- No line of a statement but the first looks like an entry or like the end of the material.
def Unforged (p : PersonaProfile) : Prop :=
  ∀ claim ∈ currentClaims p, ∀ line ∈ (lines (trimmed claim.statement.toList)).tail,
    isBullet line = false ∧ line ≠ endLine

variable {p q : PersonaProfile} {claim : OwnerClaim} {claims : List OwnerClaim}

theorem isBullet_bullet (kind : ClaimKind) (line : List Char) : isBullet (kind.bullet ++ line) = true := by
  cases kind <;> simp [isBullet]

theorem entry_head (claim : OwnerClaim) : isBullet (entry.head claim) = true :=
  isBullet_bullet ..

theorem Unforged.plain (h : Unforged p) : ∀ claim ∈ currentClaims p, entry.Plain claim :=
  fun claim hm => ⟨entry_head claim, fun line hl => (h claim hm line hl).left⟩

end ReviewedOwnerContext
