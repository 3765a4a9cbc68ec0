import Mathlib.Logic.Function.Basic

-- A store keeps a value for each of its keys. The keys that were written are remembered, so that a
-- property can say whether a program has got to one of its writes.
structure Disk {κ : Type} (ν : κ → Type) where
  store   : (k : κ) → Option (ν k)
  written : List κ

-- A program over a store of which every access is atomic and may fail. `φ` is how an access fails and
-- `ε` is how a program does.
inductive StoreProgram {κ : Type} (ν : κ → Type) (φ ε α : Type)
  | done (a : α)
  | fail (e : ε)
  | get (k : κ) (next : Except φ (Option (ν k)) → StoreProgram ν φ ε α)
  | set (k : κ) (v : ν k) (next : Except φ Unit → StoreProgram ν φ ε α)
  | delete (k : κ) (next : Except φ Unit → StoreProgram ν φ ε α)

-- What happens to one access.
inductive StoreAnswer (φ : Type)
  | done
  | failed (f : φ)
  -- The access has its effect but is reported to have failed.
  | lost (f : φ)
deriving DecidableEq

inductive StoreOutcome (ε α : Type)
  | returned (a : α)
  | failed (e : ε)
  | interrupted
deriving DecidableEq

variable {κ φ ε α β : Type} {ν : κ → Type}

namespace StoreAnswer

def result {γ : Type} (x : StoreAnswer φ) (c : γ) : Except φ γ :=
  match x with
  | done              => .ok c
  | failed f | lost f => .error f

def applies : StoreAnswer φ → Bool
  | done | lost _ => true
  | failed _      => false

end StoreAnswer

namespace Disk

variable [DecidableEq κ]

def set (d : Disk ν) (k : κ) (v : ν k) : Disk ν where
  store   := Function.update d.store k (some v)
  written := d.written ++ [k]

def delete (d : Disk ν) (k : κ) : Disk ν :=
  { d with store := Function.update d.store k none }

variable {d : Disk ν} {k k' : κ} {v : ν k}

@[simp]
theorem set_same : (d.set k v).store k = some v :=
  Function.update_self ..

@[simp]
theorem set_other (h : k' ≠ k) : (d.set k v).store k' = d.store k' :=
  Function.update_of_ne h ..

@[simp]
theorem delete_same : (d.delete k).store k = none :=
  Function.update_self ..

@[simp]
theorem delete_other (h : k' ≠ k) : (d.delete k).store k' = d.store k' :=
  Function.update_of_ne h ..

@[simp]
theorem set_written : (d.set k v).written = d.written ++ [k] :=
  rfl

@[simp]
theorem delete_written : (d.delete k).written = d.written :=
  rfl

-- Nothing is other than it was, but for what is gone.
def Shrank (d d' : Disk ν) : Prop :=
  ∀ k, d'.store k = none ∨ d'.store k = d.store k

omit [DecidableEq κ] in
theorem Shrank.refl : d.Shrank d :=
  fun _ => .inr rfl

theorem Shrank.delete {d' : Disk ν} (h : d.Shrank d') : d.Shrank (d'.delete k) := by
  intro k'
  by_cases hk : k' = k
  case pos => exact .inl (hk ▸ delete_same)
  case neg => exact delete_other (d := d') hk ▸ h k'

end Disk

namespace StoreProgram

def bind (p : StoreProgram ν φ ε α) (f : α → StoreProgram ν φ ε β) : StoreProgram ν φ ε β :=
  match p with
  | done a        => f a
  | fail e        => fail e
  | get k next    => get k fun r => (next r).bind f
  | set k v next  => set k v fun r => (next r).bind f
  | delete k next => delete k fun r => (next r).bind f

instance : Monad (StoreProgram ν φ ε) where
  pure := done
  bind := bind

instance : MonadLift (Except ε) (StoreProgram ν φ ε) where
  monadLift
    | .ok a    => done a
    | .error e => fail e

-- `let _ = program;`
def ignore : StoreProgram ν φ ε Unit → StoreProgram ν φ ε Unit
  | done _        => done ()
  | fail _        => done ()
  | get k next    => get k fun r => (next r).ignore
  | set k v next  => set k v fun r => (next r).ignore
  | delete k next => delete k fun r => (next r).ignore

variable [DecidableEq κ]

-- Runs a program on the answers that its accesses get. It is interrupted where there are no more.
def exec : List (StoreAnswer φ) → StoreProgram ν φ ε α → Disk ν → Disk ν × StoreOutcome ε α
  | _, done a, d                => (d, .returned a)
  | _, fail e, d                => (d, .failed e)
  | x :: xs, get k next, d      => exec xs (next (x.result (d.store k))) d
  | x :: xs, set k v next, d    => exec xs (next (x.result ())) (if x.applies then d.set k v else d)
  | x :: xs, delete k next, d   => exec xs (next (x.result ())) (if x.applies then d.delete k else d)
  | [], _, d                    => (d, .interrupted)

-- Runs a program of which no access fails.
def finish : StoreProgram ν φ ε α → Disk ν → Disk ν × Except ε α
  | done a, d        => (d, .ok a)
  | fail e, d        => (d, .error e)
  | get k next, d    => (next (.ok (d.store k))).finish d
  | set k v next, d  => (next (.ok ())).finish (d.set k v)
  | delete k next, d => (next (.ok ())).finish (d.delete k)

-- The weakest precondition of a program. `Q` is for what it returns and `E` for what it fails with,
-- and both get to know whether every access was answered. `C` is for every point at which it may be
-- interrupted.
def wp (Q : Bool → α → Disk ν → Prop) (E : Bool → ε → Disk ν → Prop) (C : Disk ν → Prop) :
    Bool → StoreProgram ν φ ε α → Disk ν → Prop
  | b, done a, d        => Q b a d
  | b, fail e, d        => E b e d
  | b, get k next, d    => C d ∧ wp Q E C b (next (.ok (d.store k))) d ∧ ∀ f, wp Q E C false (next (.error f)) d
  | b, set k v next, d  => C d ∧ wp Q E C b (next (.ok ())) (d.set k v) ∧
    ∀ f, wp Q E C false (next (.error f)) d ∧ wp Q E C false (next (.error f)) (d.set k v)
  | b, delete k next, d => C d ∧ wp Q E C b (next (.ok ())) (d.delete k) ∧
    ∀ f, wp Q E C false (next (.error f)) d ∧ wp Q E C false (next (.error f)) (d.delete k)

variable {Q Q' : Bool → α → Disk ν → Prop} {E E' : Bool → ε → Disk ν → Prop} {C C' : Disk ν → Prop}
  {b : Bool} {d : Disk ν} {p : StoreProgram ν φ ε α}

@[simp]
theorem wp_pure {a : α} : wp Q E C b (pure a : StoreProgram ν φ ε α) d ↔ Q b a d :=
  Iff.rfl

@[simp]
theorem wp_bind {p : StoreProgram ν φ ε β} {f : β → StoreProgram ν φ ε α} :
    wp Q E C b (p >>= f) d ↔ wp (fun b a d => wp Q E C b (f a) d) E C b p d := by
  change wp Q E C b (p.bind f) d ↔ _
  induction p generalizing b d
  case done             => rfl
  case fail             => rfl
  case get k next hi    => simp only [bind, wp, hi]
  case set k v next hi  => simp only [bind, wp, hi]
  case delete k next hi => simp only [bind, wp, hi]

theorem wp_ignore {Q : Bool → Unit → Disk ν → Prop} {p : StoreProgram ν φ ε Unit} :
    wp Q E C b p.ignore d ↔ wp Q (fun b _ d => Q b () d) C b p d := by
  induction p generalizing b d
  case done             => rfl
  case fail             => rfl
  case get k next hi    => simp only [ignore, wp, hi]
  case set k v next hi  => simp only [ignore, wp, hi]
  case delete k next hi => simp only [ignore, wp, hi]

theorem wp_lift_ok {a : α} : wp Q E C b (liftM (.ok a : Except ε α) : StoreProgram ν φ ε α) d ↔ Q b a d :=
  Iff.rfl

theorem wp_mono (hq : ∀ {b a d}, Q b a d → Q' b a d) (he : ∀ {b e d}, E b e d → E' b e d)
    (hc : ∀ {d}, C d → C' d) (h : wp Q E C b p d) : wp Q' E' C' b p d := by
  induction p generalizing b d
  case done             => exact hq h
  case fail             => exact he h
  case get k next hi    => exact ⟨hc h.1, hi _ h.2.1, fun f => hi _ (h.2.2 f)⟩
  case set k v next hi  => exact ⟨hc h.1, hi _ h.2.1, fun f => ⟨hi _ (h.2.2 f).1, hi _ (h.2.2 f).2⟩⟩
  case delete k next hi => exact ⟨hc h.1, hi _ h.2.1, fun f => ⟨hi _ (h.2.2 f).1, hi _ (h.2.2 f).2⟩⟩

theorem wp_and (h : wp Q E C b p d) (h' : wp Q' E' C' b p d) :
    wp (fun b a d => Q b a d ∧ Q' b a d) (fun b e d => E b e d ∧ E' b e d) (fun d => C d ∧ C' d) b p d := by
  induction p generalizing b d
  case done          => exact ⟨h, h'⟩
  case fail          => exact ⟨h, h'⟩
  case get k next hi => exact ⟨⟨h.1, h'.1⟩, hi _ h.2.1 h'.2.1, fun f => hi _ (h.2.2 f) (h'.2.2 f)⟩
  case set k v next hi =>
    exact ⟨⟨h.1, h'.1⟩, hi _ h.2.1 h'.2.1, fun f => ⟨hi _ (h.2.2 f).1 (h'.2.2 f).1, hi _ (h.2.2 f).2 (h'.2.2 f).2⟩⟩
  case delete k next hi =>
    exact ⟨⟨h.1, h'.1⟩, hi _ h.2.1 h'.2.1, fun f => ⟨hi _ (h.2.2 f).1 (h'.2.2 f).1, hi _ (h.2.2 f).2 (h'.2.2 f).2⟩⟩

-- A program that only reads and deletes.
def Deletes : StoreProgram ν φ ε α → Prop
  | done _ | fail _               => True
  | get _ next                    => ∀ r, (next r).Deletes
  | delete _ next                 => ∀ r, (next r).Deletes
  | set ..                        => False

omit [DecidableEq κ] in
theorem deletes_bind {p : StoreProgram ν φ ε β} {f : β → StoreProgram ν φ ε α} (h : p.Deletes)
    (hf : ∀ a, (f a).Deletes) : (p >>= f).Deletes := by
  change (p.bind f).Deletes
  induction p
  case done a           => exact hf a
  case fail             => trivial
  case get k next hi    => exact fun r => hi r (h r)
  case set              => cases h
  case delete k next hi => exact fun r => hi r (h r)

omit [DecidableEq κ] in
theorem deletes_lift (x : Except ε α) : (liftM x : StoreProgram ν φ ε α).Deletes := by
  cases x <;> trivial

omit [DecidableEq κ] in
theorem deletes_ignore {p : StoreProgram ν φ ε Unit} (h : p.Deletes) : p.ignore.Deletes := by
  induction p
  case done             => trivial
  case fail             => trivial
  case get k next hi    => exact fun r => hi r (h r)
  case set              => cases h
  case delete k next hi => exact fun r => hi r (h r)

omit [DecidableEq κ] in
theorem deletes_forM {l : List β} {f : β → StoreProgram ν φ ε Unit} (h : ∀ a, (f a).Deletes) :
    (l.forM f).Deletes := by
  induction l
  case nil          => trivial
  case cons a l hi  => exact deletes_bind (h a) fun _ => hi

theorem wp_deletes {d₀ : Disk ν} (h : p.Deletes) (hs : d₀.Shrank d) :
    wp (fun _ _ d => d₀.Shrank d) (fun _ _ d => d₀.Shrank d) d₀.Shrank b p d := by
  induction p generalizing b d
  case done             => exact hs
  case fail             => exact hs
  case get k next hi    => exact ⟨hs, hi _ (h _) hs, fun f => hi _ (h _) hs⟩
  case set              => cases h
  case delete k next hi =>
    have hs' : d₀.Shrank (d.delete k) := hs.delete
    exact ⟨hs, hi _ (h _) hs', fun f => ⟨hi _ (h _) hs, hi _ (h _) hs'⟩⟩

-- A program that does not write to `k`.
def Spares (k : κ) : StoreProgram ν φ ε α → Prop
  | done _ | fail _  => True
  | get _ next       => ∀ r, (next r).Spares k
  | delete _ next    => ∀ r, (next r).Spares k
  | set k' _ next    => k' ≠ k ∧ ∀ r, (next r).Spares k

omit [DecidableEq κ] in
theorem Deletes.spares (h : p.Deletes) (k : κ) : p.Spares k := by
  induction p
  case done              => trivial
  case fail              => trivial
  case get k' next hi    => exact fun r => hi r (h r)
  case set               => cases h
  case delete k' next hi => exact fun r => hi r (h r)

omit [DecidableEq κ] in
theorem spares_bind {k : κ} {p : StoreProgram ν φ ε β} {f : β → StoreProgram ν φ ε α} (h : p.Spares k)
    (hf : ∀ a, (f a).Spares k) : (p >>= f).Spares k := by
  change (p.bind f).Spares k
  induction p
  case done a            => exact hf a
  case fail              => trivial
  case get k' next hi    => exact fun r => hi r (h r)
  case set k' v next hi  => exact ⟨h.1, fun r => hi r (h.2 r)⟩
  case delete k' next hi => exact fun r => hi r (h r)

omit [DecidableEq κ] in
theorem spares_forM {k : κ} {l : List β} {f : β → StoreProgram ν φ ε Unit} (h : ∀ a, (f a).Spares k) :
    (l.forM f).Spares k := by
  induction l
  case nil         => trivial
  case cons a l hi => exact spares_bind (h a) fun _ => hi

theorem wp_spares {k : κ} (h : p.Spares k) (hn : d.store k = none) :
    wp (fun _ _ d => d.store k = none) (fun _ _ d => d.store k = none) (fun d => d.store k = none) b p d := by
  induction p generalizing b d
  case done              => exact hn
  case fail              => exact hn
  case get k' next hi    => exact ⟨hn, hi _ (h _) hn, fun f => hi _ (h _) hn⟩
  case set k' v next hi  =>
    have hn' : (d.set k' v).store k = none := (Disk.set_other h.1.symm).trans hn
    exact ⟨hn, hi _ (h.2 _) hn', fun f => ⟨hi _ (h.2 _) hn, hi _ (h.2 _) hn'⟩⟩
  case delete k' next hi =>
    have hn' : (d.delete k').store k = none := (Disk.Shrank.refl.delete k).elim id fun he => he.trans hn
    exact ⟨hn, hi _ (h _) hn', fun f => ⟨hi _ (h _) hn, hi _ (h _) hn'⟩⟩

-- What the precondition promises of a run, whatever its accesses are answered.
def Meets (Q : Bool → α → Disk ν → Prop) (E : Bool → ε → Disk ν → Prop) (C : Disk ν → Prop)
    (r : Disk ν × StoreOutcome ε α) : Prop :=
  match r.2 with
  | .returned a  => ∃ b, Q b a r.1
  | .failed e    => ∃ b, E b e r.1
  | .interrupted => C r.1

theorem wp_exec (h : wp Q E C b p d) (answers : List (StoreAnswer φ)) : Meets Q E C (exec answers p d) := by
  induction answers generalizing p b d <;> cases p
  case nil.done a   => exact ⟨b, h⟩
  case nil.fail e   => exact ⟨b, h⟩
  case cons.done a  => exact ⟨b, h⟩
  case cons.fail e  => exact ⟨b, h⟩
  case nil.get      => exact h.1
  case nil.set      => exact h.1
  case nil.delete   => exact h.1
  case cons.get x xs hi k next =>
    cases x
    case done     => exact hi h.2.1
    case failed f => exact hi (h.2.2 f)
    case lost f   => exact hi (h.2.2 f)
  case cons.set x xs hi k v next =>
    cases x
    case done     => exact hi h.2.1
    case failed f => exact hi (h.2.2 f).1
    case lost f   => exact hi (h.2.2 f).2
  case cons.delete x xs hi k next =>
    cases x
    case done     => exact hi h.2.1
    case failed f => exact hi (h.2.2 f).1
    case lost f   => exact hi (h.2.2 f).2

theorem wp_finish (h : wp Q E C b p d) :
    (∃ a d', p.finish d = (d', .ok a) ∧ Q b a d') ∨ ∃ e d', p.finish d = (d', .error e) ∧ E b e d' := by
  induction p generalizing d
  case done a           => exact .inl ⟨a, d, rfl, h⟩
  case fail e           => exact .inr ⟨e, d, rfl, h⟩
  case get k next hi    => exact hi _ h.2.1
  case set k v next hi  => exact hi _ h.2.1
  case delete k next hi => exact hi _ h.2.1

def StoreOutcome.ofExcept : Except ε α → StoreOutcome ε α
  | .ok a    => .returned a
  | .error e => .failed e

-- A run that is neither interrupted nor meets a failure is `finish`.
theorem exec_done (p : StoreProgram ν φ ε α) (d : Disk ν) :
    ∃ n, ∀ answers : List (StoreAnswer φ), n ≤ answers.length → (∀ x ∈ answers, x = .done) →
      exec answers p d = ((p.finish d).1, StoreOutcome.ofExcept (p.finish d).2) := by
  induction p generalizing d
  case done a => exact ⟨0, fun answers _ _ => by cases answers <;> rfl⟩
  case fail e => exact ⟨0, fun answers _ _ => by cases answers <;> rfl⟩
  all_goals
    rename_i hi
    obtain ⟨n, hn⟩ := hi (.ok _) _
    refine ⟨n + 1, fun answers hl hd => ?_⟩
    cases answers
    case nil => simp at hl
    case cons x xs =>
      obtain rfl := hd x (by simp)
      exact hn xs (by simpa using hl) fun y hy => hd y (by simp [hy])

end StoreProgram
