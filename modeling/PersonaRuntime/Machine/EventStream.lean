import Mathlib.Logic.Basic

variable {α ε σ ω : Type}

-- What an item of a stream gives and what it does to the state of its reader.
structure StreamEffect (σ : Type) where
  text   : String
  update : σ → σ

-- A stream of items that some of them finish. A stream that ends before it is finished is an error.
structure EventProtocol (α ε σ ω : Type) where
  interpret  : α → Except ε (StreamEffect σ)
  finished   : σ → Bool
  summary    : σ → ω
  incomplete : ε

namespace EventProtocol

variable {p : EventProtocol α ε σ ω} {s : σ} {item : α} {items : List α} {ending : Option ε}
variable {effect : StreamEffect σ} {text : String} {r : String × Except ε ω}

-- Nothing that comes after the stream is finished can undo that.
def Lasting (p : EventProtocol α ε σ ω) : Prop :=
  ∀ {item effect s}, p.interpret item = .ok effect → p.finished s = true → p.finished (effect.update s) = true

def close (p : EventProtocol α ε σ ω) (s : σ) : Option ε → Except ε ω
  | some e => .error e
  | none   => if p.finished s then .ok (p.summary s) else .error p.incomplete

def prepend (text : String) (r : String × Except ε ω) : String × Except ε ω :=
  (text ++ r.1, r.2)

-- A reader that goes on to the end of the stream.
def push (p : EventProtocol α ε σ ω) (s : σ) (ending : Option ε) : List α → String × Except ε ω
  | []            => ("", p.close s ending)
  | item :: items =>
    match p.interpret item with
    | .error e    => ("", .error e)
    | .ok effect  => prepend effect.text (p.push (effect.update s) ending items)

-- A reader that stops as soon as the stream is finished.
def pull (p : EventProtocol α ε σ ω) (s : σ) (ending : Option ε) : List α → String × Except ε ω
  | []            => ("", p.close s ending)
  | item :: items =>
    match p.interpret item with
    | .error e    => ("", .error e)
    | .ok effect  =>
      if p.finished (effect.update s) then
        (effect.text, .ok (p.summary (effect.update s)))
      else
        prepend effect.text (p.pull (effect.update s) ending items)

-- What the items leave of the state, as far as they can be read.
def after (p : EventProtocol α ε σ ω) (s : σ) : List α → σ
  | []            => s
  | item :: items =>
    match p.interpret item with
    | .error _   => p.after s items
    | .ok effect => p.after (effect.update s) items

-- Items that change nothing a reader reports, up to a clean end.
structure Idle (p : EventProtocol α ε σ ω) (s : σ) (ending : Option ε) (items : List α) : Prop where
  clean  : ending = none
  silent : ∀ item ∈ items, ∃ effect, p.interpret item = .ok effect ∧ effect.text = ""
  kept   : p.summary (p.after s items) = p.summary s

-- Whatever follows the item that finishes the stream is idle.
def Settled (p : EventProtocol α ε σ ω) (s : σ) (ending : Option ε) : List α → Prop
  | []            => True
  | item :: items =>
    match p.interpret item with
    | .error _   => True
    | .ok effect =>
      if p.finished (effect.update s) then
        p.Idle (effect.update s) ending items
      else
        p.Settled (effect.update s) ending items

@[simp] theorem prepend_fst : (prepend text r).1 = text ++ r.1 := rfl
@[simp] theorem prepend_snd : (prepend text r).2 = r.2 := rfl

@[simp] theorem prepend_empty : prepend "" r = r := by
  simp [prepend]

theorem prepend_prepend {text' : String} : prepend text (prepend text' r) = prepend (text ++ text') r := by
  simp [prepend, String.append_assoc]

theorem eq_prepend_iff {x : Except ε ω} : (text, x) = prepend text r ↔ r = ("", x) := by
  obtain ⟨t, y⟩ := r
  constructor
  case mp =>
    intro h
    obtain ⟨ht, rfl⟩ := Prod.mk.inj h
    have ht : text ++ "" = text ++ t := by simpa using ht
    rw [← String.append_right_inj text |>.mp ht]
  case mpr =>
    intro h
    obtain ⟨rfl, rfl⟩ := Prod.mk.inj h
    simp [prepend]

theorem prepend_inj {r' : String × Except ε ω} : prepend text r = prepend text r' ↔ r = r' := by
  obtain ⟨t, x⟩ := r
  obtain ⟨t', x'⟩ := r'
  simp [prepend]

-- A reader that is finished goes on to report the same exactly if what is left is idle.
theorem push_eq_iff (hl : p.Lasting) (h : p.finished s = true) {summary : ω} :
    p.push s ending items = ("", .ok summary) ↔
      ending = none ∧ (∀ item ∈ items, ∃ effect, p.interpret item = .ok effect ∧ effect.text = "") ∧
      p.summary (p.after s items) = summary := by
  induction items generalizing s
  case nil =>
    cases ending <;> simp [push, close, after, h]
  case cons item items hi =>
    cases hp : p.interpret item
    case error => simp [push, hp]
    case ok effect =>
      have hi := hi (hl hp h)
      by_cases ht : effect.text = ""
      case pos => simp [push, after, hp, ht, hi]
      case neg => simp [push, hp, ht, prepend]

theorem pull_eq_push_iff (hl : p.Lasting) (h : p.finished s = false) :
    p.pull s ending items = p.push s ending items ↔ p.Settled s ending items := by
  induction items generalizing s
  case nil => simp [pull, push, Settled]
  case cons item items hi =>
    cases hp : p.interpret item
    case error => simp [pull, push, Settled, hp]
    case ok effect =>
      cases hf : p.finished (effect.update s)
      case false =>
        simp only [pull, push, Settled, hp, hf, Bool.false_eq_true, if_false, prepend_inj]
        exact hi hf
      case true =>
        simp only [pull, push, Settled, hp, hf, if_true, eq_prepend_iff, push_eq_iff hl hf]
        exact ⟨fun ⟨h₁, h₂, h₃⟩ => ⟨h₁, h₂, h₃⟩, fun h => ⟨h.clean, h.silent, h.kept⟩⟩

end EventProtocol
