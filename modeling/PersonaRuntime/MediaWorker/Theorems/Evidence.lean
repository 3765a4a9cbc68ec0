import PersonaRuntime.MediaWorker.Theorems.Edits

namespace MediaTask

variable {ledger : Ledger} {task task' : MediaTask} {r : Outcome} {c : CreateCall}

theorem of_acquire {next : Option MediaTask} (h : next.all fun task => task matches .stop _ .acquire _)
    (ht : next = some task') : task'.exclusive = false ∧ task'.creates = none := by
  subst ht
  cases task'
  case stop point _ => cases point <;> first | exact ⟨rfl, rfl⟩ | cases h
  all_goals cases h

theorem of_stopAll {targets : List StopTarget} (h : stopAll targets = some task') :
    task'.exclusive = false ∧ task'.creates = none := by
  cases targets <;> cases h
  exact ⟨rfl, rfl⟩

-- Only `acquire` takes the lock file.
theorem Move.exclusive (m : Move ledger task r) (h : r.task = some task')
    (hx : task'.exclusive = true) : task.exclusive = true := by
  cases m
  case failed ht           => simp [of_acquire ht h] at hx
  case failedUnrecorded ht => simp [of_acquire ht h] at hx
  case cancelled ht        => simp [of_acquire ht h] at hx
  case reconciled          => simp [of_stopAll h] at hx
  case failing point _ _ hp _ => cases point <;> first | rfl | exact absurd rfl hp
  all_goals first | rfl | cases h <;> cases hx

-- An allocation starts with the admission of its operation.
theorem Move.creates (m : Move ledger task r) (h : r.task = some task') (hc : task'.creates = some c) :
    task.creates = some c ∨ AList.lookup c.operationId ledger = none := by
  cases m
  case admitted hl _ _ =>
    cases h
    cases hc
    exact .inr hl
  case allocated | allocationRaised =>
    cases h
    exact .inl hc
  case failed ht             => simp [of_acquire ht h] at hc
  case failedUnrecorded ht   => simp [of_acquire ht h] at hc
  case cancelled ht          => simp [of_acquire ht h] at hc
  case reconciled | verified => simp [of_stopAll h] at hc
  case confirmed             => simp [of_stopAll h] at hc
  all_goals cases h <;> cases hc

theorem Move.finished {sessionId : SenderId} (m : Move ledger task r)
    (h : .finished c sessionId ∈ r.seen) :
    task = .allocated c sessionId ∧ ∀ {task'}, r.task = some task' → task'.creates = none := by
  cases m
  case mismatched | revoked =>
    obtain ⟨rfl, rfl⟩ := by simpa using h
    exact ⟨rfl, fun ht => by cases ht; rfl⟩
  case mismatchDropped | activated =>
    obtain ⟨rfl, rfl⟩ := by simpa using h
    exact ⟨rfl, by simp⟩
  case failing hs => simpa using hs _ h
  all_goals simp at h

end MediaTask

namespace MediaLifecycle

-- The processes share the ledger, and no statement outside of a transaction is protected from them.
-- Every task still finds in its row what it relies on.
structure Sound (t : List MediaObservation) (s : MediaLifecycle) : Prop where
  ledger   : s.ledger.Backed t
  tasks    : ∀ {i thread}, s.threads i = some thread → thread.task.Backed t s.ledger
  creates  : ∀ {i j a b c c'}, s.threads i = some a → s.threads j = some b →
    a.task.creates = some c → b.task.creates = some c' → c.operationId = c'.operationId → i = j
  lock     : ∀ {i thread}, s.threads i = some thread → thread.task.exclusive = true →
    s.stopLock = some i
  finished : ∀ {c sessionId}, .finished c sessionId ∈ t →
    (∃ row, AList.lookup c.operationId s.ledger = some row) ∧
    ∀ {i thread c'}, s.threads i = some thread → thread.task.creates = some c' →
      c'.operationId ≠ c.operationId

variable {t o : List MediaObservation} {s s' : MediaLifecycle} {i process : Nat}

theorem starts_backed {task : MediaTask} {ledger : Ledger} (h : task.starts = true) :
    task.Backed t ledger ∧ task.creates = none := by
  cases task
  case stop point _ =>
    refine ⟨fun hr => ?_, rfl⟩
    cases point <;> cases hr <;> cases h
  all_goals first | exact ⟨trivial, rfl⟩ | cases h

theorem setTask_threads {task : Option MediaTask} {j : Nat} :
    (s.setTask i process task).threads j =
      if j = i then task.map (⟨process, ·⟩) else s.threads j := by
  simp [setTask, Function.update_apply]

theorem setTask_threads_cases {task : Option MediaTask} {j : Nat} {thread : MediaThread}
    (h : (s.setTask i process task).threads j = some thread) :
    (j = i ∧ task = some thread.task) ∨ (j ≠ i ∧ s.threads j = some thread) := by
  rw [setTask_threads] at h
  split at h
  case isTrue hj =>
    obtain ⟨task, rfl, rfl⟩ := Option.map_eq_some_iff.mp h
    exact .inl ⟨hj, rfl⟩
  case isFalse hj => exact .inr ⟨hj, h⟩

-- Whoever holds the lock file keeps it while another thread moves.
theorem setTask_lock {task : Option MediaTask} {j : Nat} {thread : MediaThread}
    (h : ∀ {j thread}, s.threads j = some thread → thread.task.exclusive = true → s.stopLock = some j)
    (hx : task.any (·.exclusive) → s.stopLock = none ∨ s.stopLock = some i)
    (hj : (s.setTask i process task).threads j = some thread) (ht : thread.task.exclusive = true) :
    (s.setTask i process task).stopLock = some j := by
  simp only [setTask]
  obtain ⟨rfl, rfl⟩ | ⟨hn, hj⟩ := setTask_threads_cases hj
  case inl => simp [ht]
  case inr =>
    have hl := h hj ht
    have hx' : ¬task.any (·.exclusive) := fun hx' => by grind
    simp [hx', hl, hn]

theorem Sound.quarantined {running : Nat → Bool} (h : Sound t s) :
    Sound (t ++ [.quarantined s.ledger.keys]) { s with ledger := s.ledger.quarantine, running } where
  ledger    := Ledger.Backed.append (Ledger.quarantine_edits.backed h.ledger)
  tasks hi  := (h.tasks hi).edits h.ledger Ledger.quarantine_edits (by simp) (fun _ => rfl) |>.append
  creates   := h.creates
  lock      := h.lock
  finished {c sessionId} hm := by
    have hm : .finished c sessionId ∈ t := by simpa using hm
    have ⟨⟨row, hl⟩, hc⟩ := h.finished hm
    have ⟨row', hl', _⟩ := (Ledger.quarantine_edits (t := t)).kept hl
    exact ⟨⟨row', hl'⟩, hc⟩

theorem Sound.crashed {running : Nat → Bool} {expired : Nat → String → Nat → Bool} (h : Sound t s) :
    Sound t {
      ledger   := s.ledger
      threads  := fun i => (s.threads i).filter (·.process ≠ process)
      stopLock := s.stopLock.filter fun i => (s.threads i).any (·.process ≠ process)
      running, expired } where
  ledger             := h.ledger
  tasks hi           := h.tasks (Option.filter_eq_some_iff.mp hi).left
  creates hi hj      :=
    h.creates (Option.filter_eq_some_iff.mp hi).left (Option.filter_eq_some_iff.mp hj).left
  lock {i thread} hi hx := by
    obtain ⟨hi, hp⟩ := Option.filter_eq_some_iff.mp hi
    simpa [h.lock hi hx, hi, Option.filter] using hp
  finished hm        :=
    have ⟨hl, hc⟩ := h.finished hm
    ⟨hl, fun hi => hc (Option.filter_eq_some_iff.mp hi).left⟩

theorem Sound.started {task : Option MediaTask} (h : Sound t s) (ht : task.all (·.starts))
    (hx : task.any (·.exclusive) → s.stopLock = none) : Sound t (s.setTask i process task) := by
  have hn : ∀ {task'}, task = some task' → task'.Backed t s.ledger ∧ task'.creates = none := by
    rintro task' rfl
    exact starts_backed (by simpa using ht)
  have hc : ∀ {j thread c}, (s.setTask i process task).threads j = some thread →
      thread.task.creates = some c → s.threads j = some thread := by
    intro j thread c hj hc
    obtain ⟨rfl, rfl⟩ | ⟨_, hj⟩ := setTask_threads_cases hj
    · simp [hn rfl] at hc
    · exact hj
  refine ⟨h.ledger, fun hj => ?_, fun hi hj h₁ h₂ => ?_, ?_, fun hm => ?_⟩
  · obtain ⟨_, ht⟩ | ⟨_, hj⟩ := setTask_threads_cases hj
    · exact (hn ht).left
    · exact h.tasks hj
  · exact h.creates (hc hi h₁) (hc hj h₂) h₁ h₂
  · exact setTask_lock h.lock (.inl <| hx ·)
  · have ⟨hl, hf⟩ := h.finished hm
    exact ⟨hl, fun hj h' => hf (hc hj h') h'⟩

theorem Sound.edits {thread : MediaThread} {r : Outcome} (h : Sound t s) (hi : s.threads i = some thread)
    (m : thread.task.Move s.ledger r) :
    Ledger.Edits t thread.task.creates thread.task.exclusive s.ledger r.ledger :=
  m.edits h.ledger (h.tasks hi)

theorem Sound.row_of_creates {thread : MediaThread} {c : CreateCall} (h : Sound t s)
    (hi : s.threads i = some thread) (hc : thread.task.creates = some c) :
    ∃ row, AList.lookup c.operationId s.ledger = some row ∧ c.InFlight row := by
  have hb := h.tasks hi
  cases ht : thread.task <;> simp only [ht, MediaTask.creates, reduceCtorEq] at hc
  all_goals
    cases hc
    simpa [ht, MediaTask.Backed] using hb

theorem Sound.moved {thread : MediaThread} {r : Outcome} (h : Sound t s) (hi : s.threads i = some thread)
    (m : thread.task.Move s.ledger r) :
    Sound (t ++ r.seen) ({ s with ledger := r.ledger }.setTask i thread.process r.task) := by
  have e := h.edits hi m
  -- A thread that is allocating afterwards was so before, or there is no row yet.
  have hc : ∀ {j thread' c},
      ({ s with ledger := r.ledger }.setTask i thread.process r.task).threads j = some thread' →
      thread'.task.creates = some c → (∃ thread₀, s.threads j = some thread₀ ∧
        thread₀.task.creates = some c) ∨ j = i ∧ AList.lookup c.operationId s.ledger = none := by
    intro j thread' c hj hc
    obtain ⟨rfl, ht⟩ | ⟨_, hj⟩ := setTask_threads_cases hj
    · exact (m.creates ht hc).imp (⟨_, hi, ·⟩) (⟨rfl, ·⟩)
    · exact .inl ⟨_, hj, hc⟩
  refine ⟨Ledger.Backed.append (e.backed h.ledger), ?tasks, ?creates, ?lock, ?finished⟩
  case tasks =>
    intro j thread' hj
    obtain ⟨rfl, ht⟩ | ⟨hn, hj⟩ := setTask_threads_cases hj
    case inl => exact m.next h.ledger (h.tasks hi) ht
    case inr =>
      refine ((h.tasks hj).edits h.ledger e (fun h₁ h₂ he => ?_) fun hx => ?_).append
      · exact hn (h.creates hj hi h₂ h₁ he.symm)
      · by_contra hx'
        have hl := h.lock hi (by simpa using hx')
        exact hn (by simpa [hl] using (h.lock hj hx).symm)
  case creates =>
    intro j k a b c c' hj hk h₁ h₂ he
    obtain ⟨a', hj', h₁'⟩ | ⟨rfl, hl⟩ := hc hj h₁ <;> obtain ⟨b', hk', h₂'⟩ | ⟨rfl, hl'⟩ := hc hk h₂
    · exact h.creates hj' hk' h₁' h₂' he
    · have ⟨row, hr, _⟩ := h.row_of_creates hj' h₁'
      rw [he] at hr
      simp [hl'] at hr
    · have ⟨row, hr, _⟩ := h.row_of_creates hk' h₂'
      rw [← he] at hr
      simp [hl] at hr
    · rfl
  case lock =>
    refine setTask_lock h.lock fun hx => .inr ?_
    cases ht : r.task
    case none   => simp [ht] at hx
    case some _ => exact h.lock hi (m.exclusive ht (by simpa [ht] using hx))
  case finished =>
    intro c sessionId hm
    obtain hm | hm := List.mem_append.mp hm
    case inl =>
      have ⟨⟨row, hl⟩, hf⟩ := h.finished hm
      have ⟨row', hl', _⟩ := e.kept hl
      refine ⟨⟨row', hl'⟩, fun hj h₁ he => ?_⟩
      obtain ⟨_, hj, h₁⟩ | ⟨_, hn⟩ := hc hj h₁
      · exact hf hj h₁ he
      · rw [← he] at hl
        simp [hn] at hl
    case inr =>
      have ⟨ht, hn⟩ := m.finished hm
      have h₀ : thread.task.creates = some c := by rw [ht]; rfl
      have ⟨row, hl, _⟩ := h.row_of_creates hi h₀
      have ⟨row', hl', _⟩ := e.kept hl
      refine ⟨⟨row', hl'⟩, fun hj h₁ he => ?_⟩
      obtain ⟨_, ht⟩ | ⟨hj', hj⟩ := setTask_threads_cases hj
      · simp [hn ht] at h₁
      · exact hj' (h.creates hj hi h₁ h₀ he)

theorem initial_sound : Sound [] initial where
  ledger hl    := by simp [initial] at hl
  tasks hi     := by simp [initial] at hi
  creates hi _ := by simp [initial] at hi
  lock hi      := by simp [initial] at hi
  finished hm  := by simp at hm

theorem Sound.transition {e : MediaEvent} (h : Sound t s) (st : Transition s e s' o) : Sound (t ++ o) s' := by
  cases st
  case quarantined      => exact h.quarantined
  case expired          => simpa using { h with }
  case crashed          => simpa using h.crashed
  case started ht hx    => simpa using h.started ht hx
  case moved hi m _     => exact h.moved hi m

theorem run_sound : (machine.Run t s) → Sound t s :=
  Machine.Run.invariant (fun h => h ▸ initial_sound) fun h hs => h.transition (step_transition hs)

theorem Sound.returned {thread : MediaThread} {r : Outcome} {target : StopTarget} (h : Sound t s)
    (hi : s.threads i = some thread) (m : thread.task.Move s.ledger r)
    (hm : .receiptReturned target ∈ r.seen) :
    ∃ row, AList.lookup target.operationId r.ledger = some row ∧ row.generation = target.generation ∧
      row.AllStopped t target.operationId target.sessionId := by
  have hb := h.tasks hi
  generalize thread.task = task at m hb
  cases m
  case cancelledVerified row sessionId hl hg hp hs hv =>
    obtain rfl := by simpa using hm
    have ⟨s, hs', ha⟩ := (h.ledger hl).verified hv
    obtain rfl := Option.some.inj (hs.symm.trans hs')
    exact ⟨row, hl, hg, ha⟩
  case verified row hl hv =>
    obtain rfl := by simpa using hm
    have ⟨row', hl', ht, _⟩ := hb rfl
    obtain rfl := Option.some.inj (hl.symm.trans hl')
    have ⟨s, hs, ha⟩ := (h.ledger hl).verified hv
    refine ⟨row, hl, ht.generation, ha.of_preassigned ?_⟩
    exact ht.session.imp_left fun h => Option.some.inj (h.symm.trans hs)
  case confirmed row _ hl hg hp hs hw =>
    obtain rfl := by simpa using hm
    have ⟨row', hl', ht, ha⟩ := hb rfl
    obtain rfl := Option.some.inj (hl.symm.trans hl')
    exact ⟨_, (hw _).trans (if_pos rfl), hg, ha.actual, ha.preassigned⟩
  case failing hs => simpa using hs _ hm
  all_goals simp at hm

-- What stands behind every receipt that is returned and behind every confirmation in the ledger.
structure Evidenced (t : List MediaObservation) (s : MediaLifecycle) : Prop where
  returned : ∀ {e s' o target}, machine.step s e = some (s', o) → .receiptReturned target ∈ o →
    ∃ row, AList.lookup target.operationId s'.ledger = some row ∧ row.generation = target.generation ∧
      row.AllStopped t target.operationId target.sessionId
  stopped  : ∀ {id row sessionId}, AList.lookup id s.ledger = some row → row.phase = .stopped →
    row.stopVerified = true → row.sessionId = some sessionId → row.AllStopped t id sessionId
  actual   : ∀ {id row}, AList.lookup id s.ledger = some row → row.actualStopConfirmed = true →
    ∃ sessionId, row.sessionId = some sessionId ∧ Accepted t ⟨id, sessionId, row.generation⟩

theorem run_evidenced (r : machine.Run t s) : Evidenced t s := by
  have h := run_sound r
  refine ⟨fun hs hm => ?_, fun hl _ hv hs => ?_, fun hl => (h.ledger hl).actual⟩
  · cases step_transition hs
    case moved hi m _ => exact h.returned hi m hm
    all_goals simp at hm
  · have ⟨_, hs', ha⟩ := (h.ledger hl).verified hv
    exact Option.some.inj (hs.symm.trans hs') ▸ ha

-- The backend does not keep its promise, so that two senders are stopped before the receipt returns.
theorem run_evidenced_mismatch : ∃ t s s' o target, machine.Run t s ∧
    machine.step s (.step 1 .ok) = some (s', o) ∧ .receiptReturned target ∈ o ∧ Evidenced t s :=
  have r := Machine.Run.of_replay (m := machine) initial
    [.start 1, .create 1 1 "operation" 1 (some "promised"), .step 1 .ok, .step 1 (.allocated "actual"),
      .step 1 .ok, .step 1 .ok, .step 1 .ok, .step 1 .ok, .step 1 .ok,
      .step 1 (.receipt ⟨"operation", "actual", 1, true, true⟩), .step 1 .ok,
      .step 1 (.receipt ⟨"operation", "promised", 1, true, true⟩)] rfl rfl
  ⟨_, _, _, _, ⟨"operation", ⟨"actual", by decide⟩, 1⟩, r, rfl, .head _, run_evidenced r⟩

end MediaLifecycle
