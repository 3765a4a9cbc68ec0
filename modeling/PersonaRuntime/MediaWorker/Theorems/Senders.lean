import PersonaRuntime.MediaWorker.Theorems.Evidence

def Ledger.Records (ledger : Ledger) (id : String) (sessionId : SenderId) : Prop :=
  ∃ row, AList.lookup id ledger = some row ∧ row.sessionId = some sessionId

-- The transaction for a broken promise raises when another process has stopped the row, and the write
-- of `_finish_stop` puts back the session that it has read before. This is when they lose no sender.
def MediaLifecycle.keepsSender (s : MediaLifecycle) : MediaEvent → Bool
  | .step i .ok =>
    match (s.threads i).map MediaThread.task with
    | some (.allocated c sessionId) =>
      c.recoveryId.all (· = sessionId) ||
        (AList.lookup c.operationId s.ledger).any (·.phase.open)
    | some (.stop target .markStopping _) =>
      (AList.lookup target.operationId s.ledger).any (·.sessionId = some target.sessionId)
    | _ => true
  | _ => true

-- A late `finalize` writes to a row that another process has stopped. This is when no other operation
-- was admitted in the meantime.
def MediaLifecycle.keepsUnique (s : MediaLifecycle) : MediaEvent → Bool
  | .step i .ok =>
    match (s.threads i).map MediaThread.task with
    | some (.allocated c sessionId) =>
      c.recoveryId.any (· ≠ sessionId) ||
        (AList.lookup c.operationId s.ledger).all (·.phase ≠ .stopped) ||
        !s.ledger.any fun id row => id ≠ c.operationId && row.unresolved
    | _ => true
  | _ => true

namespace Ledger

variable {ledger ledger' : Ledger} {id id' : String} {row : MediaOperation} {sessionId : SenderId}

theorem Sets.records (h : ledger.Sets id row ledger') (hl : ledger.Records id' sessionId)
    (hs : id' = id → row.sessionId = some sessionId) : ledger'.Records id' sessionId := by
  obtain ⟨row', hl, hs'⟩ := hl
  by_cases hi : id' = id
  case pos => exact ⟨row, by simp [h id', hi], hs hi⟩
  case neg => exact ⟨row', by simp [h id', hi, hl], hs'⟩

def Unresolved (ledger : Ledger) (id : String) : Prop :=
  ∃ row, AList.lookup id ledger = some row ∧ row.unresolved = true

def AtMostOne (ledger : Ledger) : Prop :=
  ∀ id id', ledger.Unresolved id → ledger.Unresolved id' → id = id'

theorem unresolved_of_phase (hl : AList.lookup id ledger = some row) (hp : row.phase ≠ .stopped) :
    ledger.Unresolved id :=
  ⟨row, hl, MediaOperation.unresolved_iff.mpr fun h => absurd h hp⟩

theorem Sets.unresolved (h : ledger.Sets id row ledger') (hu : ledger'.Unresolved id') :
    (id' = id ∧ row.unresolved = true) ∨ (id' ≠ id ∧ ledger.Unresolved id') := by
  obtain ⟨row', hl, hu⟩ := hu
  rw [h id'] at hl
  split at hl
  case isTrue hi =>
    cases hl
    exact .inl ⟨hi, hu⟩
  case isFalse hi => exact .inr ⟨hi, row', hl, hu⟩

-- A write may leave its row unresolved if the row was so before or if no other row is.
theorem AtMostOne.sets (ha : ledger.AtMostOne) (h : ledger.Sets id row ledger')
    (hu : row.unresolved = true → ledger.Unresolved id ∨ ∀ {id'}, id' ≠ id → ¬ledger.Unresolved id') :
    ledger'.AtMostOne := by
  have hn : ∀ {id'}, row.unresolved = true → id' ≠ id → ¬ledger.Unresolved id' := by
    intro id' hr hn h'
    obtain h | h := hu hr
    · exact hn (ha _ _ h' h)
    · exact h hn h'
  intro id₁ id₂ h₁ h₂
  obtain ⟨rfl, h₁⟩ | ⟨hn₁, h₁⟩ := h.unresolved h₁ <;> obtain ⟨rfl, h₂⟩ | ⟨hn₂, h₂⟩ := h.unresolved h₂
  · rfl
  · exact absurd h₂ (hn h₁ hn₂)
  · exact absurd h₁ (hn h₂ hn₁)
  · exact ha _ _ h₁ h₂

theorem Records.quarantine (hl : ledger.Records id sessionId) : ledger.quarantine.Records id sessionId := by
  obtain ⟨row, hl, hs⟩ := hl
  cases hu : row.unresolved
  case false => exact ⟨row, by simp [Ledger.quarantine, Table.lookup_update, hl, hu], hs⟩
  case true  =>
    exact ⟨_, by simp [Ledger.quarantine, Table.lookup_update, hl, hu]; rfl, by simp [hs]⟩

theorem AtMostOne.quarantine (ha : ledger.AtMostOne) : ledger.quarantine.AtMostOne := by
  have hu : ∀ {id}, ledger.quarantine.Unresolved id → ledger.Unresolved id := by
    rintro id ⟨row', hl', hu'⟩
    rw [Ledger.quarantine, Table.lookup_update] at hl'
    obtain ⟨row, hl, rfl⟩ := Option.map_eq_some_iff.mp hl'
    cases hu : row.unresolved
    case true  => exact ⟨row, hl, hu⟩
    case false => simp [hu] at hu'
  intro id id' h h'
  exact ha _ _ (hu h) (hu h')

end Ledger

namespace MediaLifecycle

variable {t o : List MediaObservation} {s s' : MediaLifecycle} {e : MediaEvent} {i : Nat}
  {thread : MediaThread} {r : Outcome} {c : CreateCall} {sessionId : SenderId}

-- No other task writes a session over the one that a finished `create` has recorded.
theorem Sound.moved_records (h : Sound t s) (hf : .finished c sessionId ∈ t)
    (hi : s.threads i = some thread) (m : thread.task.Move s.ledger r)
    (hk : ∀ {target rest row}, thread.task = .stop target .markStopping rest → s.ledger ≠ r.ledger →
      AList.lookup target.operationId s.ledger = some row → row.sessionId = some target.sessionId)
    (hl : s.ledger.Records c.operationId sessionId) : r.ledger.Records c.operationId sessionId := by
  have hb := h.tasks hi
  have hn : ∀ {c'}, thread.task.creates = some c' → c'.operationId ≠ c.operationId :=
    (h.finished hf).right hi
  have ⟨row₀, hl₀, hs₀⟩ := hl
  generalize thread.task = task at m hb hn hk
  cases m
  case admitted hl' _ hs =>
    refine hs.records hl fun he => ?_
    rw [he] at hl₀
    simp [hl'] at hl₀
  case tombstoned hl' hs =>
    refine hs.records hl fun he => ?_
    subst he
    simp [hl'] at hl₀
  case failed hs _          => exact hs.records hl fun he => absurd he.symm (hn rfl)
  case mismatched hs        => exact hs.records hl fun he => absurd he.symm (hn rfl)
  case activated hs         => exact hs.records hl fun he => absurd he.symm (hn rfl)
  case revoked hs           => exact hs.records hl fun he => absurd he.symm (hn rfl)
  case cancelled hl' _ hc _ hs _ =>
    refine hs.records hl fun he => ?_
    subst he
    obtain rfl := Option.some.inj (hl₀.symm.trans hl')
    obtain rfl | ⟨hp, _⟩ := hc
    · exact hs₀
    · simp [(h.ledger hl₀).creating hp] at hs₀
  case markedUncertain => exact (hb rfl).choose_spec.right.right.elim
  case markedStopping target rest row' ledger' hp hs hw hs' =>
    refine hs'.records hl fun he => ?_
    by_cases hr : s.ledger = ledger'
    case pos =>
      have hl' := (hs' target.operationId).trans (if_pos rfl)
      rw [← hr, ← he, hl₀] at hl'
      exact Option.some.inj hl' ▸ hs₀
    case neg =>
      rw [he] at hl₀
      rw [hs, ← hk rfl hr hl₀, hs₀]
  case confirmedActual hl' _ _ _ hs =>
    refine hs.records hl fun he => ?_
    rw [he] at hl₀
    exact Option.some.inj (hl₀.symm.trans hl') ▸ hs₀
  case failedStop hl' _ _ hs =>
    refine hs.records hl fun he => ?_
    rw [he] at hl₀
    exact Option.some.inj (hl₀.symm.trans hl') ▸ hs₀
  case confirmed hl' _ _ _ hs =>
    refine hs.records hl fun he => ?_
    rw [he] at hl₀
    exact Option.some.inj (hl₀.symm.trans hl') ▸ hs₀
  all_goals exact hl

theorem Sound.moved_finished (h : Sound t s) (hi : s.threads i = some thread)
    (m : thread.task.Move s.ledger r) (hm : .finished c sessionId ∈ r.seen)
    (hk : thread.task = .allocated c sessionId → c.recoveryId.any (· ≠ sessionId) →
      ∃ row, AList.lookup c.operationId s.ledger = some row ∧ row.phase.open = true) :
    r.ledger.Records c.operationId sessionId := by
  have hb := h.tasks hi
  generalize thread.task = task at m hb hk
  cases m
  case mismatched hs =>
    obtain ⟨rfl, rfl⟩ := by simpa using hm
    exact ⟨_, (hs _).trans (if_pos rfl), rfl⟩
  case activated hs =>
    obtain ⟨rfl, rfl⟩ := by simpa using hm
    exact ⟨_, (hs _).trans (if_pos rfl), rfl⟩
  case revoked hw hs =>
    obtain ⟨rfl, rfl⟩ := by simpa using hm
    have ⟨row, hl, hf⟩ := hb
    obtain rfl := hw hl hf.generation
    exact ⟨_, (hs _).trans (if_pos rfl), rfl⟩
  case mismatchDropped hr hn =>
    obtain ⟨rfl, rfl⟩ := by simpa using hm
    have ⟨row, hl, hf⟩ := hb
    have ⟨row', hl', ho⟩ := hk rfl hr
    obtain rfl := Option.some.inj (hl.symm.trans hl')
    simp [hn hl hf.generation] at ho
  case failing hs => simpa using hs _ hm
  all_goals simp at hm

structure Recording (t : List MediaObservation) (s : MediaLifecycle) : Prop where
  sound    : Sound t s
  recorded : ∀ {c sessionId}, .finished c sessionId ∈ t →
    s.ledger.Records c.operationId sessionId ∨ Accepted t ⟨c.operationId, sessionId, c.generation⟩

theorem Recording.moved {answer : Answer} (h : Recording t s) (hk : s.keepsSender (.step i answer) = true)
    (hi : s.threads i = some thread) (m : thread.task.Move s.ledger r)
    (hq : answer ≠ .ok → thread.task.queries = true → r = ⟨s.ledger, none, []⟩)
    (hf : .finished c sessionId ∈ t ++ r.seen) :
    r.ledger.Records c.operationId sessionId ∨
      Accepted (t ++ r.seen) ⟨c.operationId, sessionId, c.generation⟩ := by
  obtain hf | hf := List.mem_append.mp hf
  case inl =>
    refine (h.recorded hf).imp (fun hl => h.sound.moved_records hf hi m ?_ hl) Accepted.append
    intro target rest row ht hn hl
    obtain rfl : answer = .ok := by
      by_contra ha
      exact hn (by rw [hq ha (by rw [ht]; rfl)])
    simpa [keepsSender, hi, ht, hl] using hk
  case inr =>
    refine .inl <| h.sound.moved_finished hi m hf fun ht hr => ?_
    obtain rfl : answer = .ok := by
      by_contra ha
      simp [hq ha (by rw [ht]; rfl)] at hf
    have hr' : c.recoveryId.all (· = sessionId) = false := by
      cases hc : c.recoveryId <;> simp_all
    simpa [keepsSender, hi, ht, hr', Option.any_eq_true] using hk

theorem Recording.transition (h : Recording t s) (hk : s.keepsSender e = true)
    (st : Transition s e s' o) : Recording (t ++ o) s' := by
  refine ⟨h.sound.transition st, fun {c sessionId} hf => ?_⟩
  cases st
  case moved hi m hq => exact h.moved hk hi m hq hf
  case quarantined =>
    have hf : .finished c sessionId ∈ t := by simpa using hf
    exact (h.recorded hf).imp .quarantine .append
  all_goals exact (h.recorded (by simpa using hf)).imp_right .append

theorem run_recording : ((machine.guarded keepsSender).Run t s) → Recording t s :=
  Machine.Run.invariant (fun (h : _ = initial) => ⟨h ▸ initial_sound, by simp⟩) fun h hs =>
    have ⟨hk, hs⟩ := Machine.guarded_step_iff.mp hs
    h.transition hk (step_transition hs)

theorem run_recorded (r : (machine.guarded keepsSender).Run t s) (h : .finished c sessionId ∈ t) :
    s.ledger.Records c.operationId sessionId ∨ Accepted t ⟨c.operationId, sessionId, c.generation⟩ :=
  (run_recording r).recorded h

def promised : SenderId := ⟨"promised", by decide⟩

def actual : SenderId := ⟨"actual", by decide⟩

-- The mismatch is found before any other process stops the operation.
theorem run_recorded_mismatch : ∃ t s, (machine.guarded keepsSender).Run t s ∧
    .finished ⟨"operation", 1, some promised⟩ actual ∈ t ∧
    (s.ledger.Records "operation" actual ∨ Accepted t ⟨"operation", actual, 1⟩) :=
  have r : (machine.guarded keepsSender).Run
      [.quarantined [], .finished ⟨"operation", 1, some promised⟩ actual] _ :=
    .of_replay initial [.start 1, .create 1 1 "operation" 1 (some "promised"), .step 1 .ok,
      .step 1 (.allocated "actual"), .step 1 .ok] rfl rfl
  have h : .finished ⟨"operation", 1, some promised⟩ actual ∈
      [MediaObservation.quarantined [], .finished ⟨"operation", 1, some promised⟩ actual] := by simp
  ⟨_, _, r, h, run_recorded r h⟩

-- Another process quarantines the operation while its allocation runs and stops the promised sender.
-- Then the backend returns another one.
theorem not_recorded_mismatch : ¬∀ t s c sessionId, machine.Run t s → .finished c sessionId ∈ t →
    s.ledger.Records c.operationId sessionId ∨
      Accepted t ⟨c.operationId, sessionId, c.generation⟩ := by
  intro h
  obtain ⟨s, r, hl⟩ : ∃ s, machine.Run
      [.quarantined [], .quarantined ["operation"],
        .stopAnswered ⟨"operation", promised, 1⟩ ⟨"operation", "promised", 1, true, true⟩,
        .receiptReturned ⟨"operation", promised, 1⟩,
        .finished ⟨"operation", 1, some promised⟩ actual] s ∧
      AList.lookup "operation" s.ledger = some ⟨1, .stopped, some promised, some promised, false, true⟩ :=
    ⟨_, .of_replay initial [.start 1, .create 1 1 "operation" 1 (some "promised"), .step 1 .ok, .start 2,
      .reconcile 2 2, .step 2 .ok, .step 2 .ok, .step 2 .ok, .step 2 .ok, .step 2 .ok,
      .step 2 (.receipt ⟨"operation", "promised", 1, true, true⟩), .step 2 .ok,
      .step 1 (.allocated "actual"), .step 1 .ok] rfl rfl, rfl⟩
  obtain ⟨row, hl', hs⟩ | ⟨receipt, hm, _⟩ :=
    h _ s ⟨"operation", 1, some promised⟩ actual r (by simp)
  case inl =>
    obtain rfl := Option.some.inj (hl.symm.trans hl')
    simp [promised, actual] at hs
  case inr => simp [promised, actual] at hm

theorem Sound.moved_atMostOne {answer : Answer} (h : Sound t s) (ha : s.ledger.AtMostOne)
    (hk : s.keepsUnique (.step i answer) = true) (hi : s.threads i = some thread)
    (m : thread.task.Move s.ledger r)
    (hq : answer ≠ .ok → thread.task.queries = true → r = ⟨s.ledger, none, []⟩) :
    r.ledger.AtMostOne := by
  have hb := h.tasks hi
  obtain ⟨process, task⟩ := thread
  cases m
  case admitted hn hs =>
    refine ha.sets hs fun _ => .inr ?_
    rintro id' _ ⟨row, hl, hu⟩
    simp [hn hl] at hu
  case tombstoned hs                => exact ha.sets hs (by simp [MediaOperation.unresolved])
  case failed hl hp _ hs _          => exact ha.sets hs fun _ => .inl (Ledger.unresolved_of_phase hl hp)
  case mismatched hl hp hs =>
    refine ha.sets hs fun _ => .inl (Ledger.unresolved_of_phase hl fun h => ?_)
    simp [h, Phase.open] at hp
  case activated hl hp hs =>
    exact ha.sets hs fun _ => .inl (Ledger.unresolved_of_phase hl (by simp [hp]))
  case revoked c sessionId row' _ _ hr _ _ hs =>
    obtain ⟨row, hl, _⟩ := hb
    refine ha.sets hs fun _ => ?_
    by_cases hp : row.phase = .stopped
    case neg => exact .inl (Ledger.unresolved_of_phase hl hp)
    case pos =>
      obtain rfl : answer = .ok := by
        by_contra ha
        simpa using hq ha rfl
      have hr' : c.recoveryId.any (fun id => !decide (id = sessionId)) = false := by
        cases hc : c.recoveryId <;> simp_all
      have hk : s.ledger.any (fun id row => id ≠ c.operationId && row.unresolved) = false := by
        simpa [keepsUnique, hi, hl, hp, hr'] using hk
      refine .inr ?_
      rintro id' hn ⟨row', hl', hu⟩
      simpa [hn, hu] using Table.any_eq_false_iff.mp hk id' row' hl'
  case cancelled hl _ _ hn hs _ =>
    exact ha.sets hs fun _ => .inl ⟨_, hl, MediaOperation.unresolved_iff.mpr hn⟩
  case markedUncertain => exact (hb rfl).choose_spec.right.right.elim
  case markedStopping hs =>
    obtain ⟨row, hl, _, hp, _⟩ := hb rfl
    exact ha.sets hs fun _ => .inl (Ledger.unresolved_of_phase hl hp)
  case confirmedActual hl _ hp _ hs =>
    exact ha.sets hs fun _ => .inl (Ledger.unresolved_of_phase hl (by simp [hp]))
  case failedStop hl hp _ hs =>
    exact ha.sets hs fun _ => .inl (Ledger.unresolved_of_phase hl (by simp [hp]))
  case confirmed hs => exact ha.sets hs (by simp [MediaOperation.unresolved])
  all_goals exact ha

structure Exclusive (t : List MediaObservation) (s : MediaLifecycle) : Prop where
  sound  : Sound t s
  unique : s.ledger.AtMostOne

theorem Exclusive.transition (h : Exclusive t s) (hk : s.keepsUnique e = true)
    (st : Transition s e s' o) : Exclusive (t ++ o) s' := by
  refine ⟨h.sound.transition st, ?_⟩
  cases st
  case moved hi m hq => exact h.sound.moved_atMostOne h.unique hk hi m hq
  case quarantined   => exact h.unique.quarantine
  all_goals exact h.unique

theorem run_exclusive : ((machine.guarded keepsUnique).Run t s) → Exclusive t s := by
  refine Machine.Run.invariant (fun (h : _ = initial) => ⟨h ▸ initial_sound, ?_⟩) fun h hs =>
    have ⟨hk, hs⟩ := Machine.guarded_step_iff.mp hs
    h.transition hk (step_transition hs)
  rintro id _ ⟨row, hl, _⟩
  subst h
  simp [initial] at hl

theorem run_atMostOne (r : (machine.guarded keepsUnique).Run t s) : s.ledger.AtMostOne :=
  (run_exclusive r).unique

-- One operation is cancelled before it is created, and the next one is admitted.
theorem run_atMostOne_cancelled : ∃ t s, (machine.guarded keepsUnique).Run t s ∧
    (∃ row, AList.lookup "cancelled" s.ledger = some row) ∧ s.ledger.Unresolved "next" ∧
    s.ledger.AtMostOne :=
  have r : (machine.guarded keepsUnique).Run [.quarantined [], .cancelCommitted "cancelled" 1] _ :=
    .of_replay initial [.start 1, .cancel 1 1 "cancelled" 1 true, .step 1 .ok, .create 1 1 "next" 1 none,
      .step 1 .ok] rfl rfl
  ⟨_, _, r, ⟨_, rfl⟩, ⟨_, rfl, rfl⟩, run_atMostOne r⟩

-- Another process quarantines the operation while its allocation runs, stops the promised sender and
-- admits the next operation. Then the backend returns what it has promised.
theorem not_atMostOne_late : ¬∀ t s, machine.Run t s → s.ledger.AtMostOne := by
  intro h
  obtain ⟨s, r, hl, hn⟩ : ∃ s, machine.Run
      [.quarantined [], .quarantined ["late"],
        .stopAnswered ⟨"late", promised, 1⟩ ⟨"late", "promised", 1, true, true⟩,
        .receiptReturned ⟨"late", promised, 1⟩, .finished ⟨"late", 1, some promised⟩ promised] s ∧
      s.ledger.Unresolved "late" ∧ s.ledger.Unresolved "next" :=
    ⟨_, .of_replay initial [.start 1, .create 1 1 "late" 1 (some "promised"), .step 1 .ok, .start 2,
      .reconcile 2 2, .step 2 .ok, .step 2 .ok, .step 2 .ok, .step 2 .ok, .step 2 .ok,
      .step 2 (.receipt ⟨"late", "promised", 1, true, true⟩), .step 2 .ok, .create 2 2 "next" 1 none,
      .step 2 .ok, .step 1 (.allocated "promised"), .step 1 .ok] rfl rfl, ⟨_, rfl, rfl⟩, ⟨_, rfl, rfl⟩⟩
  exact absurd (h _ s r _ _ hl hn) (by decide)

end MediaLifecycle
