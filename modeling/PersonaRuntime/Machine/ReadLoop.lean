import PersonaRuntime.Machine.Mutation

-- A body that is read in pieces: how much each read gives, as far as the buffer and the body allow.
structure Reader (α : Type) where
  rest  : List α
  sizes : List Nat

namespace Reader

variable {α : Type}

-- A read of at least one element, unless the body is at its end or the buffer has no room.
def count (r : Reader α) (room : Nat) : Nat :=
  min room (max 1 (r.sizes.headD room))

def piece (r : Reader α) (room : Nat) : List α :=
  r.rest.take (r.count room)

def after (r : Reader α) (room : Nat) : Reader α where
  rest  := r.rest.drop (r.count room)
  sizes := r.sizes.tail

variable {r : Reader α} {room : Nat}

theorem piece_append : r.piece room ++ (r.after room).rest = r.rest :=
  List.take_append_drop ..

theorem length_piece : (r.piece room).length ≤ room := by
  simp only [piece, count, List.length_take]
  omega

theorem length_after (h : r.piece room ≠ []) : (r.after room).rest.length < r.rest.length := by
  have hp : (r.piece room ++ (r.after room).rest).length = r.rest.length := congrArg List.length r.piece_append
  have hl := List.length_pos_iff.mpr h
  simp only [List.length_append] at hp
  omega

theorem rest_eq_nil (hr : 0 < room) (h : r.piece room = []) : r.rest = [] := by
  have hl := congrArg List.length h
  simp only [piece, count, List.length_take, List.length_nil] at hl
  exact List.eq_nil_of_length_eq_zero (by omega)

end Reader

-- A loop that reads until there is nothing left.
def readLoop {α ε σ : Type} (room : σ → Nat) (body : List α → EStateM ε σ Unit) (r : Reader α) :
    EStateM ε σ Unit := do
  let s ← get
  if h : r.piece (room s) = [] then
    return
  else do
    body (r.piece (room s))
    have := r.length_after h
    readLoop room body (r.after (room s))
termination_by r.rest.length

section

variable {α ε σ : Type} {room : σ → Nat} {body : List α → EStateM ε σ Unit} {r : Reader α} {s : σ}

theorem readLoop_end (h : r.piece (room s) = []) : (readLoop room body r).run s = .ok () s := by
  rw [readLoop]
  simp [h]

theorem readLoop_next (h : r.piece (room s) ≠ []) : (readLoop room body r).run s =
    match (body (r.piece (room s))).run s with
    | .ok _ s'    => (readLoop room body (r.after (room s))).run s'
    | .error e s' => .error e s' := by
  rw [readLoop]
  simp only [EStateM.run_bind, EStateM.run_get, h, dite_false]
  cases (body (r.piece (room s))).run s <;> rfl

-- The invariant rule: what every piece keeps holds at the end, and an error leaves what its piece says.
theorem readLoop_run {whole done : List α} {P : List α → σ → Prop} {Q : σ → Prop} (hr : ∀ s, 0 < room s)
    (hb : ∀ {done piece rest s}, whole = done ++ piece ++ rest → piece ≠ [] → piece.length ≤ room s →
      P done s → (∃ s', (body piece).run s = .ok () s' ∧ P (done ++ piece) s') ∨
        ∃ e s', (body piece).run s = .error e s' ∧ Q s')
    (hp : P done s) (hw : whole = done ++ r.rest) :
    (∃ s', (readLoop room body r).run s = .ok () s' ∧ P whole s') ∨
      ∃ e s', (readLoop room body r).run s = .error e s' ∧ Q s' := by
  induction hn : r.rest.length using Nat.strongRecOn generalizing r s done
  case ind n hi =>
    by_cases h : r.piece (room s) = []
    case pos =>
      have hz := r.rest_eq_nil (hr s) h
      refine .inl ⟨s, readLoop_end h, ?_⟩
      rwa [hw, hz, List.append_nil]
    case neg =>
      have hw' : whole = done ++ r.piece (room s) ++ (r.after (room s)).rest := by
        rw [List.append_assoc, Reader.piece_append, hw]
      obtain ⟨s', hs, hp'⟩ | ⟨e, s', hs, hq⟩ := hb hw' h r.length_piece hp <;>
        simp only [readLoop_next h, hs]
      case inl => exact hi _ (hn ▸ r.length_after h) hp' hw' rfl
      case inr => exact .inr ⟨e, s', rfl, hq⟩

end
