import Mathlib.Data.List.Basic

-- A machine is an executable transition function. An event carries every choice that a step leaves
-- open (which thread moves, what a clock or a backend answers), `step` is `none` when the event is
-- not enabled, and the list that comes with the next state is what the step lets an observer see.
structure Machine (σ ε ο : Type) where
  init : σ → Prop
  step : σ → ε → Option (σ × List ο)

namespace Machine

variable {σ ε ο : Type}

inductive Steps (m : Machine σ ε ο) : σ → List ο → σ → Prop
  | refl {s} : Steps m s [] s
  | trans {s₁ s₂ s₃ e o t} :
    (m.step s₁ e = some (s₂, o)) → (Steps m s₂ t s₃) → Steps m s₁ (o ++ t) s₃

-- `m.Run t s` says that `m` gets from an initial state to `s` and shows `t` on the way.
inductive Run (m : Machine σ ε ο) (t : List ο) (s : σ) : Prop
  | intro {s₀} (init : m.init s₀) (steps : m.Steps s₀ t s)

variable {m : Machine σ ε ο} {ok : σ → ε → Bool}
variable {s s₁ s₂ : σ} {e : ε} {t t₁ t₂ : List ο}

namespace Steps

-- The invariant rule for properties of a state and of everything that was observed before it.
theorem preserves {P : List ο → σ → Prop} {t₀ : List ο}
    (h : ∀ {t s₁ e s₂ o}, P t s₁ → m.step s₁ e = some (s₂, o) → P (t ++ o) s₂)
    (e : m.Steps s₁ t s₂) (hp : P t₀ s₁) : P (t₀ ++ t) s₂ := by
  induction e generalizing t₀
  case refl          => simpa using hp
  case trans hs _ hi => simpa using hi (h hp hs)

theorem stable {P : σ → Prop} (h : ∀ {s₁ e s₂ o}, P s₁ → m.step s₁ e = some (s₂, o) → P s₂)
    (e : m.Steps s₁ t s₂) (hp : P s₁) : P s₂ := by
  induction e
  case refl          => exact hp
  case trans hs _ hi => exact hi (h hp hs)

-- A relation between the two ends of a run follows from the same relation for every step.
theorem rel {P : σ → Prop} {R : σ → σ → Prop} (hr : ∀ s, R s s)
    (ht : ∀ {s₁ s₂ s₃}, R s₁ s₂ → R s₂ s₃ → R s₁ s₃)
    (h : ∀ {s₁ e s₂ o}, P s₁ → m.step s₁ e = some (s₂, o) → P s₂ ∧ R s₁ s₂)
    (e : m.Steps s₁ t s₂) (hp : P s₁) : R s₁ s₂ := by
  induction e
  case refl          => exact hr _
  case trans hs _ hi => exact ht (h hp hs).right (hi (h hp hs).left)

theorem append (h : m.Steps s₁ t₁ s₂) (h' : m.Steps s₂ t₂ s) : m.Steps s₁ (t₁ ++ t₂) s := by
  induction h
  case refl          => exact h'
  case trans hs _ hi => simpa using trans hs (hi h')

end Steps

-- The last observation of a trace is where the trace is split, or it comes after the split.
theorem split_snoc {x y : ο} (h : t ++ [x] = t₁ ++ y :: t₂) :
    (t₂ = [] ∧ t₁ = t ∧ y = x) ∨ ∃ t₂', t₂ = t₂' ++ [x] ∧ t = t₁ ++ y :: t₂' := by
  obtain rfl | ⟨t₂', z, rfl⟩ := t₂.eq_nil_or_concat
  case inl =>
    obtain ⟨rfl, hy⟩ := List.append_inj' h rfl
    exact .inl ⟨rfl, rfl, by simpa using hy.symm⟩
  case inr =>
    have h : t ++ [x] = (t₁ ++ y :: t₂') ++ [z] := by simpa using h
    obtain ⟨rfl, hz⟩ := List.append_inj' h rfl
    exact .inr ⟨t₂', by simpa using hz.symm, rfl⟩

-- What is seen in this order after one more observation was so before it, or the observation is the
-- last of it.
theorem sublist_snoc {l : List ο} {x y : ο} (h : (l ++ [y]).Sublist (t ++ [x])) :
    (l ++ [y]).Sublist t ∨ l.Sublist t ∧ y = x := by
  have ⟨l₁, l₂, hl, h₁, h₂⟩ := List.sublist_append_iff.mp h
  obtain rfl | rfl := List.sublist_singleton.mp h₂
  case inl => exact .inl <| by simpa [hl] using h₁
  case inr =>
    obtain ⟨rfl, hy⟩ := List.append_inj' hl rfl
    exact .inr ⟨h₁, by simpa using hy⟩

-- What is seen in this order was so before anything that cannot be the last of it.
theorem sublist_of_notMem {l : List ο} {y : ο} (h : (l ++ [y]).Sublist (t₁ ++ t₂)) (hy : y ∉ t₂) :
    (l ++ [y]).Sublist t₁ := by
  have ⟨l₁, l₂, hl, h₁, h₂⟩ := List.sublist_append_iff.mp h
  obtain rfl | ⟨l₂', z, rfl⟩ := l₂.eq_nil_or_concat
  case inl => simpa [hl] using h₁
  case inr =>
    have hl : l ++ [y] = (l₁ ++ l₂') ++ [z] := by simpa using hl
    obtain ⟨-, hz⟩ := List.append_inj' hl rfl
    obtain rfl : y = z := by simpa using hz
    exact absurd (h₂.subset (by simp)) hy

namespace Run

theorem invariant {P : List ο → σ → Prop} (hi : ∀ {s}, m.init s → P [] s)
    (h : ∀ {t s₁ e s₂ o}, P t s₁ → m.step s₁ e = some (s₂, o) → P (t ++ o) s₂) :
    (m.Run t s) → P t s
  | ⟨i, e⟩ => by simpa using e.preserves h (hi i)

theorem state_invariant {P : σ → Prop} (hi : ∀ {s}, m.init s → P s)
    (h : ∀ {s₁ e s₂ o}, P s₁ → m.step s₁ e = some (s₂, o) → P s₂) : (m.Run t s) → P s
  | ⟨i, e⟩ => e.stable h (hi i)

end Run

-- The machine that takes only those steps of `m` that meet a condition on the state before them.
def guarded (m : Machine σ ε ο) (ok : σ → ε → Bool) : Machine σ ε ο where
  init := m.init
  step s e := if ok s e then m.step s e else none

theorem guarded_step_iff {r : σ × List ο} :
    (m.guarded ok).step s e = some r ↔ ok s e = true ∧ m.step s e = some r := by
  simp [guarded]

theorem Steps.of_guarded (e : (m.guarded ok).Steps s₁ t s₂) : m.Steps s₁ t s₂ := by
  induction e
  case refl         => exact refl
  case trans h _ hi => exact trans (guarded_step_iff.mp h).right hi

theorem Run.of_guarded : ((m.guarded ok).Run t s) → m.Run t s
  | ⟨i, e⟩ => ⟨i, e.of_guarded⟩

-- Executes a list of events. This is how a concrete run is given.
def replay (m : Machine σ ε ο) (s : σ) : List ε → Option (σ × List ο)
  | []      => some (s, [])
  | e :: es =>
    match m.step s e with
    | none         => none
    | some (s', o) => (m.replay s' es).map fun (s'', t) => (s'', o ++ t)

theorem replay_cons {es : List ε} {r : σ × List ο} :
    m.replay s (e :: es) = some r ↔
      ∃ s' o s'' t, m.step s e = some (s', o) ∧ m.replay s' es = some (s'', t) ∧ r = (s'', o ++ t) := by
  rw [replay]
  cases hs : m.step s e
  case none => simp
  case some q =>
    simp only [Option.map_eq_some_iff, Option.some.injEq]
    constructor
    case mp =>
      intro ⟨⟨s'', t⟩, hr, he⟩
      exact ⟨q.1, q.2, s'', t, rfl, hr, he.symm⟩
    case mpr =>
      rintro ⟨s', o, s'', t, rfl, hr, rfl⟩
      exact ⟨(s'', t), hr, rfl⟩

-- A property that a step keeps exactly when it meets the condition holds all along a run exactly when
-- every step of the run does.
theorem replay_guarded_iff {I P : List ο → σ → Prop}
    (hi : ∀ {t s₁ e s₂ o}, I t s₁ → m.step s₁ e = some (s₂, o) → I (t ++ o) s₂)
    (hp : ∀ {t s₁ e s₂ o}, I t s₁ → P t s₁ → m.step s₁ e = some (s₂, o) → (P (t ++ o) s₂ ↔ ok s₁ e = true))
    (i : I t₁ s₁) (p : P t₁ s₁) (es : List ε) (h : m.replay s₁ es = some (s₂, t₂)) :
    (∀ es₁ es₂ s t, es = es₁ ++ es₂ → m.replay s₁ es₁ = some (s, t) → P (t₁ ++ t) s) ↔
      (m.guarded ok).replay s₁ es = some (s₂, t₂) := by
  induction es generalizing s₁ t₁ t₂
  case nil =>
    obtain ⟨rfl, rfl⟩ := by simpa [replay] using h
    refine ⟨fun _ => rfl, fun _ es₁ es₂ s t he hr => ?_⟩
    obtain ⟨rfl, rfl⟩ := List.append_eq_nil_iff.mp he.symm
    obtain ⟨rfl, rfl⟩ := by simpa [replay] using hr
    simpa using p
  case cons e es ih =>
    obtain ⟨s', o, s'', t', hs, hr, he⟩ := replay_cons.mp h
    obtain ⟨rfl, rfl⟩ := Prod.mk.inj he
    have hstep := hp i p hs
    constructor
    case mp =>
      intro ha
      have ho : P (t₁ ++ o) s' := by
        refine ha [e] es s' o rfl (replay_cons.mpr ⟨s', o, s', [], hs, rfl, ?_⟩)
        rw [List.append_nil]
      refine replay_cons.mpr ⟨s', o, s₂, t', guarded_step_iff.mpr ⟨hstep.mp ho, hs⟩, ?_, rfl⟩
      refine (ih (hi i hs) ho hr).mp fun es₁ es₂ s t he hr' => ?_
      have hc := replay_cons.mpr ⟨s', o, s, t, hs, hr', rfl⟩
      simpa using ha (e :: es₁) es₂ s (o ++ t) (congrArg _ he) hc
    case mpr =>
      intro hg es₁ es₂ s t he hr'
      obtain ⟨s₃, o₃, s₄, t₄, hs₃, hr₃, he₃⟩ := replay_cons.mp hg
      obtain ⟨hok, hs₃⟩ := guarded_step_iff.mp hs₃
      obtain ⟨rfl, rfl⟩ := Prod.mk.inj (Option.some.inj (hs.symm.trans hs₃))
      obtain ⟨rfl, ht₄⟩ := Prod.mk.inj he₃
      obtain rfl := List.append_cancel_left ht₄
      cases es₁
      case nil =>
        obtain ⟨rfl, rfl⟩ := by simpa [replay] using hr'
        simpa using p
      case cons e₁ es₁ =>
        obtain ⟨rfl, rfl⟩ := List.cons.inj he
        obtain ⟨s₅, o₅, s₆, t₅, hs₅, hr₅, he₅⟩ := replay_cons.mp hr'
        obtain ⟨rfl, rfl⟩ := Prod.mk.inj (Option.some.inj (hs.symm.trans hs₅))
        obtain ⟨rfl, rfl⟩ := Prod.mk.inj he₅
        rw [← List.append_assoc]
        exact (ih (hi i hs) (hstep.mpr hok) hr).mpr hr₃ es₁ es₂ s t₅ rfl hr₅

theorem replay_append {es es' : List ε} (h : m.replay s₁ es = some (s₂, t)) :
    m.replay s₁ (es ++ es') = (m.replay s₂ es').map fun (s, t') => (s, t ++ t') := by
  induction es generalizing s₁ t <;> simp only [replay] at h
  case nil =>
    obtain ⟨rfl, rfl⟩ := by simpa using h
    simp
  case cons e es hi =>
    cases hs : m.step s₁ e
    case none => simp [hs] at h
    case some r =>
      simp only [hs, Option.map_eq_some_iff] at h
      have ⟨⟨_, t'⟩, hr, he⟩ := h
      obtain ⟨rfl, rfl⟩ := by simpa using he
      simp [replay, hs, hi hr, Function.comp_def]

theorem Steps.of_replay (es : List ε) (h : m.replay s₁ es = some (s₂, t)) : m.Steps s₁ t s₂ := by
  induction es generalizing s₁ t <;> simp only [replay] at h
  case nil =>
    obtain ⟨rfl, rfl⟩ := by simpa using h
    exact refl
  case cons e es hi =>
    cases hs : m.step s₁ e
    case none => simp [hs] at h
    case some r =>
      simp only [hs, Option.map_eq_some_iff] at h
      have ⟨⟨_, t'⟩, hr, he⟩ := h
      obtain ⟨rfl, rfl⟩ := by simpa using he
      exact trans hs (hi hr)

theorem Run.of_replay (s₀ : σ) (es : List ε) (i : m.init s₀) (h : m.replay s₀ es = some (s, t)) :
    m.Run t s :=
  ⟨i, .of_replay es h⟩

-- The same for a run of which only a part of its state and trace matters.
theorem Steps.exists_of_replay_any {p : σ → List ο → Bool} (es : List ε)
    (h : (m.replay s₁ es).any (fun r => p r.1 r.2) = true) : ∃ t s₂, m.Steps s₁ t s₂ ∧ p s₂ t = true := by
  have ⟨⟨s, t⟩, hr, hp⟩ := Option.any_eq_true _ _ |>.mp h
  exact ⟨t, s, .of_replay es hr, hp⟩

theorem Steps.exists_of_replay {p : List ο → Bool} (es : List ε)
    (h : (m.replay s₁ es).any (fun r => p r.2) = true) : ∃ t s₂, m.Steps s₁ t s₂ ∧ p t = true :=
  Steps.exists_of_replay_any es h

theorem Run.exists_of_replay {p : List ο → Bool} (s₀ : σ) (es : List ε) (i : m.init s₀)
    (h : (m.replay s₀ es).any (fun r => p r.2) = true) : ∃ t s, m.Run t s ∧ p t = true := by
  have ⟨t, s, e, hp⟩ := Steps.exists_of_replay es h
  exact ⟨t, s, ⟨i, e⟩, hp⟩

end Machine
