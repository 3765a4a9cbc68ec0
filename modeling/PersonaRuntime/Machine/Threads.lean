import Mathlib.Data.List.Perm.Basic
import PersonaRuntime.Machine.Basic

-- The code of concurrent calls over a shared state. A call takes its first step when it enters and
-- leaves the instructions that its thread still has to execute. An instruction is one atomic step and
-- may put others before the rest of its thread. `ε` is what the environment answers to a step.
structure Program (σ ι κ ε ο : Type) where
  init    : σ → Prop
  enter   : σ → κ → ε → Option (σ × List ι × List ο)
  execute : σ → ι → ε → Option (σ × List ι × List ο)

structure Threaded (σ ι : Type) where
  shared  : σ
  threads : List (List ι)

inductive ThreadEvent (κ ε : Type)
  | enter (call : κ) (env : ε)
  | resume (thread : Nat) (env : ε)

variable {σ ι κ ε ο : Type}

-- All that is left to execute.
def Threaded.pending (s : Threaded σ ι) : List ι :=
  s.threads.flatten

-- The instruction that an event executes, if it does not begin a call.
def ThreadEvent.next (e : ThreadEvent κ ε) (s : Threaded σ ι) : Option ι :=
  match e with
  | enter ..   => none
  | resume k _ => s.threads[k]?.bind List.head?

namespace Program

def machine (p : Program σ ι κ ε ο) : Machine (Threaded σ ι) (ThreadEvent κ ε) ο where
  init s := p.init s.shared ∧ s.threads = []
  step s
    | .enter c env =>
      (p.enter s.shared c env).map fun (shared, thread, o) => (⟨shared, s.threads ++ [thread]⟩, o)
    | .resume k env =>
      match s.threads[k]? with
      | some (i :: rest) =>
        (p.execute s.shared i env).map fun (shared, next, o) =>
          (⟨shared, s.threads.set k (next ++ rest)⟩, o)
      | _ => none

-- What a step does to the shared state: it replaces the instructions `before` of some thread by the
-- instructions `after`.
inductive Effect (p : Program σ ι κ ε ο) (s : σ) : List ι → σ → List ι → List ο → Prop
  | enter {c env s' after o} : (p.enter s c env = some (s', after, o)) → Effect p s [] s' after o
  | execute {i env s' after o} :
    (p.execute s i env = some (s', after, o)) → Effect p s [i] s' after o

-- What the same step does to the threads.
structure Advance (s s' : Threaded σ ι) (before after : List ι) : Prop where
  pending : ∃ others, s.pending.Perm (before ++ others) ∧ s'.pending.Perm (after ++ others)
  threads : ∃ rest, (before ++ rest ∈ s.threads ∨ before ++ rest = []) ∧
    ∀ {thread}, thread ∈ s'.threads → thread ∈ s.threads ∨ thread = after ++ rest

variable {p : Program σ ι κ ε ο} {s s' : Threaded σ ι} {e : ThreadEvent κ ε} {o : List ο}

theorem flatten_perm_eraseIdx {l : List (List ι)} {k : Nat} {a : List ι} (h : l[k]? = some a) :
    l.flatten.Perm (a ++ (l.eraseIdx k).flatten) := by
  induction l generalizing k
  case nil => simp at h
  case cons b l hi =>
    cases k
    case zero =>
      obtain rfl : b = a := by simpa using h
      simp
    case succ k =>
      have hp := (hi (by simpa using h)).append_left b
      simp only [List.flatten_cons, List.eraseIdx_cons_succ]
      exact hp.trans (by simpa using List.perm_append_comm.append_right _)

theorem resume_advance {k : Nat} {i : ι} {rest after : List ι} {shared : σ}
    (h : s.threads[k]? = some (i :: rest)) :
    Advance s ⟨shared, s.threads.set k (after ++ rest)⟩ [i] after where
  pending := by
    have hk := (List.getElem?_eq_some_iff.mp h).choose
    refine ⟨rest ++ (s.threads.eraseIdx k).flatten, ?_, ?_⟩
    · simpa [Threaded.pending] using flatten_perm_eraseIdx h
    · have hs : (s.threads.set k (after ++ rest))[k]? = some (after ++ rest) := by simp [hk]
      simpa [Threaded.pending, List.eraseIdx_set_eq] using flatten_perm_eraseIdx hs
  threads := ⟨rest, .inl (List.mem_of_getElem? h), List.mem_or_eq_of_mem_set⟩

theorem step_effect (h : p.machine.step s e = some (s', o)) :
    ∃ after, p.Effect s.shared (e.next s).toList s'.shared after o ∧
      Advance s s' (e.next s).toList after := by
  cases e <;> simp only [machine] at h
  case enter c env =>
    obtain ⟨⟨shared, thread, _⟩, he, h⟩ := Option.map_eq_some_iff.mp h
    cases h
    refine ⟨thread, .enter he, ⟨s.pending, .refl _, ?_⟩, [], .inr rfl, fun hm => by simpa using hm⟩
    simpa [Threaded.pending] using List.perm_append_comm
  case resume k env =>
    split at h
    case h_1 i rest hk =>
      obtain ⟨⟨shared, next, _⟩, he, h⟩ := Option.map_eq_some_iff.mp h
      cases h
      have hn : (ThreadEvent.resume k env : ThreadEvent κ ε).next s = some i := by
        simp [ThreadEvent.next, hk]
      rw [hn]
      exact ⟨next, .execute he, resume_advance hk⟩
    case h_2 => cases h

end Program
