import Mathlib.Logic.Basic

-- The operations `ω` that a program has on a state `σ`. An operation can fail in each of the ways `φ`,
-- after any part of its effect.
structure Device (ω σ φ : Type) where
  Answer  : ω → Type
  perform : (o : ω) → σ → Answer o × σ
  fault   : φ → (o : ω) → σ → Answer o × σ

-- What becomes of a program. `result` is `none` if it is interrupted, and `started` are its operations
-- with the states that they found.
structure Execution (ω σ α : Type) where
  state   : σ
  result  : Option α
  started : List (ω × σ)

variable {ω σ φ ε α β : Type}

def Except.either (f : ε → β) (g : α → β) : Except ε α → β
  | .error e => f e
  | .ok a    => g a

@[simp]
theorem Except.either_ok {f : ε → β} {g : α → β} {a : α} : (.ok a : Except ε α).either f g = g a :=
  rfl

@[simp]
theorem Except.either_error {f : ε → β} {g : α → β} {e : ε} :
    (.error e : Except ε α).either f g = f e :=
  rfl

namespace Device

inductive Program (d : Device ω σ φ) (α : Type)
  | done (a : α)
  | op (o : ω) (next : d.Answer o → Program d α)

variable {d : Device ω σ φ}

def answer (d : Device ω σ φ) (o : ω) (s : σ) : Option φ → d.Answer o × σ
  | none   => d.perform o s
  | some f => d.fault f o s

namespace Program

def bind (p : d.Program α) (f : α → d.Program β) : d.Program β :=
  match p with
  | done a    => f a
  | op o next => op o fun r => (next r).bind f

instance : Monad d.Program where
  pure := done
  bind := bind

-- Runs a program whose operations fail as the list says. It is interrupted where the list ends, and
-- an interruption in the middle of an operation is one right after a failure.
def exec : List (Option φ) → d.Program α → σ → Execution ω σ α
  | _, done a, s          => ⟨s, some a, []⟩
  | [], op _ _, s         => ⟨s, none, []⟩
  | x :: xs, op o next, s =>
    let (r, s') := d.answer o s x
    let e := exec xs (next r) s'
    { e with started := (o, s) :: e.started }

-- Runs a program of which no operation fails.
def finish : d.Program α → σ → α × σ
  | done a, s    => (a, s)
  | op o next, s => (next (d.perform o s).1).finish (d.perform o s).2

-- The weakest precondition of a program. `G` is for every operation that it gets to, which is also
-- where it may be interrupted. `Q` is for what it returns and gets to know whether nothing failed.
def wp (G : ω → σ → Prop) (Q : Bool → α → σ → Prop) : Bool → d.Program α → σ → Prop
  | b, done a, s    => Q b a s
  | b, op o next, s =>
    G o s ∧ wp G Q b (next (d.perform o s).1) (d.perform o s).2 ∧
    ∀ f, wp G Q false (next (d.fault f o s).1) (d.fault f o s).2

variable {G : ω → σ → Prop} {Q Q' : Bool → α → σ → Prop} {b : Bool} {s : σ} {p : d.Program α}

@[simp]
theorem wp_pure {a : α} : wp G Q b (pure a : d.Program α) s ↔ Q b a s :=
  Iff.rfl

@[simp]
theorem wp_bind {p : d.Program β} {f : β → d.Program α} :
    wp G Q b (p >>= f) s ↔ wp G (fun b a s => wp G Q b (f a) s) b p s := by
  change wp G Q b (p.bind f) s ↔ _
  induction p generalizing b s
  case done          => rfl
  case op o next hi => simp only [bind, wp, hi]

theorem wp_mono (h : wp G Q b p s) (hq : ∀ {b a s}, Q b a s → Q' b a s) : wp G Q' b p s := by
  induction p generalizing b s
  case done          => exact hq h
  case op o next hi => exact ⟨h.1, hi _ h.2.1, fun f => hi _ (h.2.2 f)⟩

theorem wp_answer {o : ω} {next : d.Answer o → d.Program α} (h : wp G Q b (op o next) s)
    (x : Option φ) : ∃ b, wp G Q b (next (d.answer o s x).1) (d.answer o s x).2 := by
  cases x
  case none   => exact ⟨b, h.2.1⟩
  case some f => exact ⟨false, h.2.2 f⟩

-- What the precondition promises of a run, whatever fails and wherever it is interrupted.
theorem wp_exec (h : wp G Q b p s) (xs : List (Option φ)) :
    (∀ x ∈ (exec xs p s).started, G x.1 x.2) ∧
    match (exec xs p s).result with
    | some a => ∃ b, Q b a (exec xs p s).state
    | none   => ∃ o, G o (exec xs p s).state := by
  induction xs generalizing b p s
  case nil =>
    cases p
    case done      => exact ⟨by simp [exec], b, h⟩
    case op o next => exact ⟨by simp [exec], o, h.1⟩
  case cons x xs hi =>
    cases p
    case done      => exact ⟨by simp [exec], b, h⟩
    case op o next =>
      obtain ⟨b', h'⟩ := wp_answer h x
      obtain ⟨hs, hr⟩ := hi h'
      exact ⟨List.forall_mem_cons.mpr ⟨h.1, hs⟩, hr⟩

theorem wp_finish (h : wp G Q b p s) : Q b (p.finish s).1 (p.finish s).2 := by
  induction p generalizing s
  case done          => exact h
  case op o next hi => exact hi _ h.2.1

-- A run of which nothing fails and that is not interrupted is `finish`.
theorem exec_finish (p : d.Program α) (s : σ) :
    ∃ n, ∀ m, n ≤ m → (exec (List.replicate m none) p s).result = some (p.finish s).1 ∧
      (exec (List.replicate m none) p s).state = (p.finish s).2 := by
  induction p generalizing s
  case done a => exact ⟨0, fun m _ => by cases m <;> exact ⟨rfl, rfl⟩⟩
  case op o next hi =>
    obtain ⟨n, hn⟩ := hi (d.perform o s).1 (d.perform o s).2
    refine ⟨n + 1, fun m hm => ?_⟩
    cases m
    case zero   => omega
    case succ m => exact hn m (by omega)

-- The same for programs that return early with an error.
theorem wp_bindExcept {Q : Bool → Except ε α → σ → Prop} {x : ExceptT ε d.Program β}
    {f : β → ExceptT ε d.Program α} :
    wp G Q b (x >>= f).run s ↔
    wp G (fun b r s => r.either (fun e => Q b (.error e) s) (fun a => wp G Q b (f a).run s)) b x.run s := by
  change wp G Q b (x.run >>= ExceptT.bindCont f) s ↔ _
  rw [wp_bind]
  refine ⟨fun h => wp_mono h ?_, fun h => wp_mono h ?_⟩
  all_goals
    intro _ r _ h
    cases r <;> exact h

@[simp]
theorem wp_throw {Q : Bool → Except ε α → σ → Prop} {e : ε} :
    wp G Q b (throw e : ExceptT ε d.Program α).run s ↔ Q b (.error e) s :=
  Iff.rfl

@[simp]
theorem wp_pureExcept {Q : Bool → Except ε α → σ → Prop} {a : α} :
    wp G Q b (pure a : ExceptT ε d.Program α).run s ↔ Q b (.ok a) s :=
  Iff.rfl

@[simp]
theorem wp_lift {Q : Bool → Except ε α → σ → Prop} :
    wp G Q b (liftM p : ExceptT ε d.Program α).run s ↔ wp G (fun b a s => Q b (.ok a) s) b p s := by
  change wp G Q b (p >>= fun a => pure (.ok a)) s ↔ _
  rw [wp_bind]
  rfl

theorem wp_lift_bind {Q : Bool → Except ε α → σ → Prop} {p : d.Program β}
    {f : β → ExceptT ε d.Program α} :
    wp G Q b ((liftM p : ExceptT ε d.Program β) >>= f).run s ↔
    wp G (fun b a s => wp G Q b (f a).run s) b p s := by
  rw [wp_bindExcept, wp_lift]
  rfl

-- The operations that a program may get to, whatever it is answered.
def Only (P : ω → Prop) : d.Program α → Prop
  | done _    => True
  | op o next => P o ∧ ∀ r, (next r).Only P

theorem only_bind {P : ω → Prop} {p : d.Program β} {f : β → d.Program α} (h : p.Only P)
    (hf : ∀ a, (f a).Only P) : (p >>= f).Only P := by
  change (p.bind f).Only P
  induction p
  case done a       => exact hf a
  case op o next hi => exact ⟨h.1, fun r => hi r (h.2 r)⟩

theorem only_bindExcept {P : ω → Prop} {x : ExceptT ε d.Program β} {f : β → ExceptT ε d.Program α}
    (h : x.run.Only P) (hf : ∀ a, (f a).run.Only P) : (x >>= f).run.Only P := by
  refine only_bind h fun r => ?_
  cases r
  case error => trivial
  case ok a  => exact hf a

-- A program whose operations all keep a relation to where it started.
theorem wp_only {P : ω → Prop} {R : σ → σ → Prop} (hr : ∀ s, R s s)
    (ht : ∀ {s₁ s₂ s₃}, R s₁ s₂ → R s₂ s₃ → R s₁ s₃) (hp : ∀ o s, P o → R s (d.perform o s).2)
    (hf : ∀ f o s, P o → R s (d.fault f o s).2) (h : p.Only P) (hg : ∀ o s', P o → R s s' → G o s')
    (hq : ∀ b' a s', (b' = true → b = true) → R s s' → Q b' a s') : wp G Q b p s := by
  suffices hs : ∀ (b' : Bool) (s' : σ), (b' = true → b = true) → R s s' → wp G Q b' p s' from hs b s id (hr s)
  induction p
  case done a => exact fun b' s' hb hs => hq b' a s' hb hs
  case op o next hi =>
    intro b' s' hb hs
    exact ⟨hg o s' h.1 hs, hi _ (h.2 _) b' _ hb (ht hs (hp o s' h.1)),
      fun f => hi _ (h.2 _) false _ (by simp) (ht hs (hf f o s' h.1))⟩

end Program

end Device
