import PersonaRuntime.MediaWorker.Theorems.Revocation
import PersonaRuntime.MediaWorker.Theorems.Senders
import PersonaRuntime.OwnerLab.RemoteCleanup
import PersonaRuntime.OwnerLab.Theorems.RemoteMediaRevocation

namespace Ledger

variable {ledger ledger' : Ledger} {id id' : String} {row : MediaOperation}

-- The worker has taken the operation up: its row is there, and it is no tombstone.
def Admitted (ledger : Ledger) (id : String) : Prop :=
  ∃ row, AList.lookup id ledger = some row ∧ (row.phase = .stopped → row.sessionId.isSome = true)

instance : Decidable (ledger.Admitted id) :=
  decidable_of_iff ((AList.lookup id ledger).any fun row => row.phase ≠ .stopped || row.sessionId.isSome) <| by
    simp [Admitted, Option.any_eq_true, imp_iff_not_or]

instance : Decidable (ledger.Unresolved id) :=
  decidable_of_iff ((AList.lookup id ledger).any (·.unresolved)) <| by
    simp [Unresolved, Option.any_eq_true]

-- The session of the operation is stopped, by the receipts of both of its tracks.
def Verified (ledger : Ledger) (id : String) : Prop :=
  ∃ row, AList.lookup id ledger = some row ∧ row.phase = .stopped ∧ row.sessionId.isSome = true ∧
    row.stopVerified = true

theorem Unresolved.admitted : ledger.Unresolved id → ledger.Admitted id
  | ⟨row, hl, hu⟩ => ⟨row, hl, fun hp => Option.isSome_iff_ne_none.mpr (MediaOperation.unresolved_iff.mp hu hp).left⟩

theorem Verified.admitted : ledger.Verified id → ledger.Admitted id
  | ⟨row, hl, _, hs, _⟩ => ⟨row, hl, fun _ => hs⟩

theorem Admitted.cases (h : ledger.Admitted id) : ledger.Unresolved id ∨ ledger.Verified id := by
  obtain ⟨row, hl, hs⟩ := h
  by_cases hp : row.phase = .stopped
  case neg => exact .inl (unresolved_of_phase hl hp)
  case pos =>
    cases hv : row.stopVerified
    case true  => exact .inr ⟨row, hl, hp, hs hp, hv⟩
    case false =>
      have hn := Option.isSome_iff_ne_none.mp (hs hp)
      exact .inl ⟨row, hl, MediaOperation.unresolved_iff.mpr fun _ => ⟨hn, hv⟩⟩

-- The ledgers have the same rows except for `id`.
def Only (ledger : Ledger) (id : String) (ledger' : Ledger) : Prop :=
  ∀ id', id' ≠ id → AList.lookup id' ledger' = AList.lookup id' ledger

theorem Only.refl : ledger.Only id ledger :=
  fun _ _ => rfl

theorem Only.trans {ledger'' : Ledger} (h : ledger.Only id ledger') (h' : ledger'.Only id ledger'') :
    ledger.Only id ledger'' :=
  fun id' hn => (h' id' hn).trans (h id' hn)

theorem Sets.only (h : ledger.Sets id row ledger') : ledger.Only id ledger' :=
  fun id' hn => (h id').trans (if_neg hn)

theorem Sets.lookup_self (h : ledger.Sets id row ledger') : AList.lookup id ledger' = some row :=
  (h id).trans (if_pos rfl)

-- What an answered DELETE of the operation `op` leaves: an operation that the worker has not taken up is
-- not taken up then either, and gets no receipt. One that is verified gets its receipt.
structure Deleted (ledger : Ledger) (op : String) (ledger' : Ledger) (seen : List MediaObservation) : Prop where
  only     : ledger.Only op ledger'
  admitted : ledger.Admitted op → ledger'.Admitted op
  refused  : ¬ledger.Admitted op → ¬ledger'.Admitted op ∧ seen.findSome? (·.receipt) = none
  verified : ledger'.Verified op → (seen.findSome? (·.receipt)).isSome = true

theorem Sets.deleted {seen : List MediaObservation} (hs : ledger.Sets id row ledger') (ha : ledger.Admitted id)
    (hp : row.phase ≠ .stopped) : ledger.Deleted id ledger' seen where
  only       := hs.only
  admitted _ := ⟨row, hs.lookup_self, fun h => absurd h hp⟩
  refused hn := absurd ha hn
  verified hv := by
    obtain ⟨row', hl, hp', -⟩ := hv
    obtain rfl : row = row' := by simpa [hs.lookup_self] using hl
    exact absurd hp' hp

-- Nothing is left behind but a tombstone.
theorem Deleted.of_refused {seen : List MediaObservation} (ho : ledger.Only id ledger') (hn : ¬ledger.Admitted id)
    (hn' : ¬ledger'.Admitted id) (hr : seen.findSome? (·.receipt) = none) : ledger.Deleted id ledger' seen where
  only        := ho
  admitted ha := absurd ha hn
  refused _   := ⟨hn', hr⟩
  verified hv := absurd hv.admitted hn'

end Ledger

namespace MediaTask

variable {ledger : Ledger} {r : Outcome} {target : StopTarget} {point : StopPoint} {op : String}
  {answer : Answer} {expired : String → Nat → Bool}

-- What a step for the operation `op` leaves: no other row is touched, its row stays, and it is
-- verified only if it was so before or a receipt is returned.
structure Cares (op : String) (ledger : Ledger) (ledger' : Ledger) (seen : List MediaObservation) : Prop where
  only     : ledger.Only op ledger'
  admitted : ledger.Admitted op → ledger'.Admitted op
  verified : ledger'.Verified op → ledger.Verified op ∨ (seen.findSome? (·.receipt)).isSome = true

theorem Cares.refl {seen : List MediaObservation} : Cares op ledger ledger seen :=
  ⟨.refl, fun h => h, .inl⟩

theorem Cares.trans {ledger₁ ledger₂ ledger₃ : Ledger} {seen seen' : List MediaObservation}
    (h : Cares op ledger₁ ledger₂ seen) (h' : Cares op ledger₂ ledger₃ seen') :
    Cares op ledger₁ ledger₃ (seen ++ seen') where
  only        := h.only.trans h'.only
  admitted ha := h'.admitted (h.admitted ha)
  verified hv := by
    rw [List.findSome?_append, Option.isSome_or, Bool.or_eq_true]
    obtain hv | hv := h'.verified hv
    case inl => exact (h.verified hv).imp_right .inl
    case inr => exact .inr (.inr hv)

theorem Cares.of_sets {ledger' : Ledger} {row : MediaOperation} {seen : List MediaObservation}
    (h : ledger.Sets op row ledger') (hp : row.phase = .stopped →
      row.sessionId.isSome = true ∧ (seen.findSome? (·.receipt)).isSome = true) :
    Cares op ledger ledger' seen where
  only        := h.only
  admitted _  := ⟨_, h.lookup_self, fun hs => (hp hs).left⟩
  verified hv := by
    obtain ⟨row', hl, hs, -⟩ := hv
    obtain rfl : row = row' := by simpa [h.lookup_self] using hl
    exact .inr (hp hs).right

-- A `_finish_stop` on its own writes only to the row of its target.
theorem Move.cares (m : Move ledger (.stop target point []) r) :
    Cares target.operationId ledger r.ledger r.seen ∧
      ∀ task', r.task = some task' → ∃ point', task' = .stop target point' [] := by
  cases m
  case markedUncertain hp _ hs  => exact ⟨.of_sets hs (by simp [hp]), by simp⟩
  case markedStopping hp _ _ hs => exact ⟨.of_sets hs (by simp [hp]), by simp⟩
  case confirmedActual hs       => exact ⟨.of_sets hs (by simp [‹_ = Phase.stopping›]), by simp⟩
  case failedStop hs            => exact ⟨.of_sets hs (by simp), by simp⟩
  case confirmed hs             =>
    refine ⟨.of_sets hs fun _ => ⟨?_, by simp [MediaObservation.receipt]⟩, by simp [stopAll]⟩
    simp [‹_ = some target.sessionId›]
  all_goals exact ⟨.refl, by simp [stopAll]⟩

-- The transaction of `cancel` for a row of its generation, if there is one.
theorem cancel_deleted {generation : Nat} (h : (cancel op generation false).step ledger expired .ok = some r)
    (hg : ∀ row, AList.lookup op ledger = some row → row.generation = generation) :
    ledger.Deleted op r.ledger r.seen := by
  simp only [step, Outcome.transact, cancelOperation, EStateM.transaction_run] at h
  cases hl : AList.lookup op ledger
  case none =>
    obtain rfl := by simpa [Ledger.get, hl] using h
    have hs : ledger.Sets op _ (ledger.write op generation .stopped none) := Ledger.sets_write_new hl
    refine .of_refused hs.only ?_ ?_ rfl
    · rintro ⟨row, hl', _⟩
      simp [hl] at hl'
    · rintro ⟨row, hl', hr⟩
      obtain rfl := by simpa [hs.lookup_self] using hl'
      simp at hr
  case some row =>
    obtain rfl := hg row hl
    have admitted : (row.phase = .stopped → row.sessionId.isSome = true) → ledger.Admitted op := fun h => ⟨row, hl, h⟩
    cases hp : row.phase
    case creating =>
      obtain rfl := by simpa [Ledger.get, hl, hp] using h
      exact (Ledger.sets_write (p := .stopping) (s := none) hl).deleted (admitted (by simp [hp])) (by simp)
    case stopped =>
      cases hs : row.sessionId
      case none =>
        obtain rfl := by simpa [Ledger.get, hl, hp, hs] using h
        have hn : ¬ledger.Admitted op := by
          rintro ⟨row', hl', hr⟩
          obtain rfl : row = row' := by simpa [hl] using hl'
          simp [hp, hs] at hr
        exact .of_refused .refl hn hn rfl
      case some i =>
        have ha := admitted (by simp [hs])
        cases hv : row.stopVerified
        case true =>
          obtain rfl := by simpa [Ledger.get, hl, hp, hs, hv] using h
          exact ⟨.refl, fun h => h, fun hn => absurd ha hn, fun _ => rfl⟩
        case false =>
          obtain rfl := by simpa [Ledger.get, hl, hp, hs, hv] using h
          have hw := Ledger.sets_write (p := .uncertain) (s := some i) hl
          exact (hw.trans <| Ledger.sets_write (p := .stopping) (s := some i) hw.lookup_self).deleted ha (by simp)
    all_goals
      have ha := admitted (by simp [hp])
      cases hs : row.sessionId
      case none =>
        obtain rfl := by simpa [Ledger.get, hl, hp, hs] using h
        exact (Ledger.sets_write (p := .uncertain) (s := none) hl).deleted ha (by simp)
      case some i =>
        obtain rfl := by simpa [Ledger.get, hl, hp, hs] using h
        exact (Ledger.sets_write (p := .stopping) (s := some i) hl).deleted ha (by simp)

end MediaTask

namespace MediaLifecycle

variable {w w' : MediaLifecycle} {t : List MediaObservation} {op : String} {generation : Nat} {run : DeleteRun}
  {i process : Nat}

theorem spawn_eq_some {task : MediaTask} {o : List MediaObservation}
    (h : w.spawn i process task = some (w', o)) : w' = w.setTask i process (some task) ∧ o = [] := by
  simp only [spawn] at h
  split at h <;> cases h
  exact ⟨rfl, rfl⟩

-- A `_finish_stop` that is alone in its thread, up to any of its steps.
theorem stop_cares (answers : List Answer) (h : machine.replay w (answers.map (.step i)) = some (w', t))
    (ha : ∀ thread, w.threads i = some thread →
      ∃ target point, thread.task = .stop target point [] ∧ target.operationId = op) :
    MediaTask.Cares op w.ledger w'.ledger t := by
  induction answers generalizing w t
  case nil =>
    obtain ⟨rfl, rfl⟩ := by simpa [Machine.replay] using h
    exact .refl
  case cons answer answers hi =>
    obtain ⟨w₁, o, w₂, t₁, hs, hr, he⟩ := Machine.replay_cons.mp h
    cases he
    obtain ⟨thread, ht, hs⟩ := Option.bind_eq_some_iff.mp hs
    obtain ⟨target, point, hp, rfl⟩ := ha thread ht
    -- Whatever the thread does next, it is still the `_finish_stop` of the operation.
    have hn : ∀ {task}, (∀ task', task = some task' → ∃ point', task' = .stop target point' []) →
        ∀ {w₂ : MediaLifecycle} {thread'}, (w₂.setTask i thread.process task).threads i = some thread' →
          ∃ target' point', thread'.task = .stop target' point' [] ∧ target'.operationId = target.operationId := by
      intro task hs w₂ thread' ht'
      obtain ⟨-, ht'⟩ | ⟨hn, -⟩ := setTask_threads_cases ht'
      case inl =>
        obtain ⟨point', hp'⟩ := hs _ ht'
        exact ⟨target, point', hp', rfl⟩
      case inr => exact absurd rfl hn
    simp only [stepThread, hp] at hs
    split at hs
    case h_1 target' rest he =>
      cases hs
      cases he
      have hc := hi hr fun _ => hn fun task' ht' => by
        split at ht'
        · exact ⟨.read, (Option.some.inj ht').symm⟩
        · cases ht'
      exact MediaTask.Cares.trans .refl hc
    case h_2 =>
      split at hs
      case isTrue  => cases hs
      case isFalse =>
        obtain ⟨r, hr', he⟩ := Option.map_eq_some_iff.mp hs
        cases he
        obtain ⟨hc, hm⟩ := (MediaTask.step_move hr').cares
        exact hc.trans <| hi hr fun _ => hn hm

-- The first half of `cancel_bounded`.
theorem cancel_deleted (h : machine.replay w [.cancel i process op generation false, .step i .ok] = some (w', t))
    (hg : ∀ row, AList.lookup op w.ledger = some row → row.generation = generation) :
    w.ledger.Deleted op w'.ledger t := by
  obtain ⟨w₁, o, w₂, t₁, hs, hr, he⟩ := Machine.replay_cons.mp h
  cases he
  simp only [machine] at hs
  split at hs
  case isTrue  => cases hs
  case isFalse =>
    obtain ⟨rfl, rfl⟩ := spawn_eq_some hs
    obtain ⟨w₁, o, w₂, t₂, hs, hr, he⟩ := Machine.replay_cons.mp hr
    obtain ⟨rfl, rfl⟩ := by simpa [Machine.replay] using hr
    cases he
    obtain ⟨thread, ht, hs⟩ := Option.bind_eq_some_iff.mp hs
    obtain rfl : ⟨process, .cancel op generation false⟩ = thread := by simpa [setTask_threads] using ht
    simp only [stepThread] at hs
    split at hs
    case isTrue  => cases hs
    case isFalse =>
      obtain ⟨r, hr', he⟩ := Option.map_eq_some_iff.mp hs
      cases he
      rw [List.nil_append, List.append_nil]
      exact MediaTask.cancel_deleted hr' hg

-- The second half. It runs only for an operation that has a session.
theorem stop_deleted {w₁ : MediaLifecycle} {t₁ : List MediaObservation} {sessionId : SenderId} {answers : List Answer}
    (h : w.ledger.Deleted op w₁.ledger t₁) (ha : w₁.ledger.Admitted op)
    (hm : machine.replay w₁ (.finishStop i process ⟨op, sessionId, generation⟩ :: answers.map (.step i)) =
      some (w', t)) : w.ledger.Deleted op w'.ledger (t₁ ++ t) := by
  obtain ⟨w₂, o, w₃, t₂, hs, hr, he⟩ := Machine.replay_cons.mp hm
  cases he
  obtain ⟨rfl, rfl⟩ := spawn_eq_some hs
  have hc : MediaTask.Cares op w₁.ledger w'.ledger t₂ := by
    refine stop_cares (w := w₁.setTask i process _) answers hr fun thread ht => ?_
    obtain rfl : ⟨process, .stop ⟨op, sessionId, generation⟩ .acquire []⟩ = thread := by
      simpa [setTask_threads] using ht
    exact ⟨_, _, rfl, rfl⟩
  refine ⟨h.only.trans hc.only, fun _ => hc.admitted ha, fun hn => absurd ha (h.refused hn).left, fun hv => ?_⟩
  rw [List.nil_append, List.findSome?_append, Option.isSome_or, Bool.or_eq_true]
  exact (hc.verified hv).imp_left h.verified

theorem admitted_of_get {ledger : Ledger} {phase : Phase} {sessionId : Option SenderId}
    (h : ledger.get op = some (generation, phase, sessionId)) (hp : phase ≠ .stopped) : ledger.Admitted op := by
  obtain ⟨row, hl, he⟩ := Option.map_eq_some_iff.mp h
  cases he
  exact ⟨row, hl, fun h => absurd h hp⟩

theorem cancelBounded_deleted (h : w.cancelBounded op generation run = some (w', t))
    (hg : ∀ row, AList.lookup op w.ledger = some row → row.generation = generation) :
    w.ledger.Deleted op w'.ledger t := by
  simp only [cancelBounded] at h
  split at h
  case h_1 => cases h
  case h_2 w₁ t₁ hr =>
    have hd := cancel_deleted hr hg
    split at h
    case isTrue  => cases h; exact hd
    case isFalse =>
      split at h
      case h_3 => cases h; exact hd
      all_goals
        have ha : w₁.ledger.Admitted op := admitted_of_get ‹_› (by simp)
        split at h
        · obtain ⟨⟨_, _⟩, hs, he⟩ := Option.map_eq_some_iff.mp h
          cases he
          exact stop_deleted hd ha hs
        · cases h; exact hd

-- The events of a DELETE.
def deletes (op : String) (generation : Nat) : MediaEvent → Bool
  | .step ..                   => true
  | .cancel _ _ op' n false    => op' = op && n = generation
  | .finishStop _ _ target     => target.operationId = op && target.generation = generation
  | _                          => false

theorem cancelBounded_replay (h : w.cancelBounded op generation run = some (w', t)) :
    ∃ es, machine.replay w es = some (w', t) ∧ ∀ e ∈ es, deletes op generation e = true := by
  simp only [cancelBounded] at h
  split at h
  case h_1 => cases h
  case h_2 w₁ t₁ hr =>
    have hc : ∀ e ∈ [MediaEvent.cancel run.cancelThread run.process op generation false, .step run.cancelThread .ok],
        deletes op generation e = true := by
      simp [deletes]
    split at h
    case isTrue  => cases h; exact ⟨_, hr, hc⟩
    case isFalse =>
      split at h
      case h_3 => cases h; exact ⟨_, hr, hc⟩
      all_goals
        split at h
        · obtain ⟨⟨_, _⟩, hs, he⟩ := Option.map_eq_some_iff.mp h
          cases he
          refine ⟨_, (Machine.replay_append hr).trans (by rw [hs]; rfl), ?_⟩
          simp [deletes]
        · cases h; exact ⟨_, hr, hc⟩

end MediaLifecycle

namespace MediaTask

variable {ledger : Ledger} {task task' : MediaTask} {r : Outcome} {t : List MediaObservation} {id : String}
  {row row' : MediaOperation}

-- The generation that a task gives to a row that it adds.
def adds : MediaTask → Option Nat
  | intent c              => some c.generation
  | cancel _ generation _ => some generation
  | _                     => none

theorem adds_of_acquire {next : Option MediaTask} (h : next.all fun task => task matches .stop _ .acquire _)
    (ht : next = some task') : task'.adds = none := by
  subst ht
  cases task'
  case stop => rfl
  all_goals cases h

theorem Move.adds_none (m : Move ledger task r) (h : r.task = some task') : task'.adds = none := by
  cases m
  case failed ht           => exact adds_of_acquire ht h
  case failedUnrecorded ht => exact adds_of_acquire ht h
  case cancelled ht        => exact adds_of_acquire ht h
  case reconciled targets  => cases targets <;> cases h; rfl
  case verified rest _ _ _ => cases rest <;> cases h; rfl
  case confirmed rest _ _ _ _ _ _ _ => cases rest <;> cases h; rfl
  all_goals cases h <;> rfl

theorem Move.added (m : Move ledger task r) (hb : task.Backed t ledger) (hn : AList.lookup id ledger = none)
    (hl : AList.lookup id r.ledger = some row') : task.adds = some row'.generation := by
  -- A row that a task is about is there.
  have old : ∀ {op row ledger'}, ledger.Sets op row ledger' → (∃ row, AList.lookup op ledger = some row) →
      AList.lookup id ledger' = some row' → task.adds = some row'.generation := by
    intro op row ledger' hs ⟨row₀, h₀⟩ hl
    rw [hs id] at hl
    split at hl
    case isTrue he  => exact absurd (hn.symm.trans (he ▸ h₀)) (by simp)
    case isFalse he => simp [hn] at hl
  have new : ∀ {op row ledger'}, ledger.Sets op row ledger' → task.adds = some row.generation →
      AList.lookup id ledger' = some row' → task.adds = some row'.generation := by
    intro op row ledger' hs ha hl
    rw [hs id] at hl
    split at hl
    case isTrue he  => exact Option.some.inj hl ▸ ha
    case isFalse he => simp [hn] at hl
  cases m
  case admitted hs   => exact new hs rfl hl
  case tombstoned hs => exact new hs rfl hl
  case revoked hs    => exact old hs (have ⟨_, hl, _⟩ := hb; ⟨_, hl⟩) hl
  case markedUncertain hs =>
    have ⟨_, _, _, hf⟩ := hb rfl
    cases hf
  case markedStopping hs => exact old hs (have ⟨_, hl, _⟩ := hb rfl; ⟨_, hl⟩) hl
  case failed hs _ => exact old hs ⟨_, ‹_›⟩ hl
  case mismatched hs => exact old hs ⟨_, ‹_›⟩ hl
  case activated hs => exact old hs ⟨_, ‹_›⟩ hl
  case cancelled hs _ => exact old hs ⟨_, ‹_›⟩ hl
  case confirmedActual hs => exact old hs ⟨_, ‹_›⟩ hl
  case failedStop hs => exact old hs ⟨_, ‹_›⟩ hl
  case confirmed hs => exact old hs ⟨_, ‹_›⟩ hl
  all_goals simp [hn] at hl

end MediaTask

namespace MediaLifecycle

variable {w w' : MediaLifecycle} {t o : List MediaObservation} {e : MediaEvent}

-- Everything that the worker has of its operations is of the one generation.
structure Uniform (w : MediaLifecycle) : Prop where
  sound : ∃ t, Sound t w
  rows  : ∀ {id row}, AList.lookup id w.ledger = some row → row.generation = remoteGeneration
  tasks : ∀ {i thread n}, w.threads i = some thread → thread.task.adds = some n → n = remoteGeneration

theorem Uniform.step (h : w.Uniform) (ha : RemoteCleanup.asksFor e = true) (hs : machine.step w e = some (w', o)) :
    w'.Uniform := by
  obtain ⟨t, ht⟩ := h.sound
  have st := step_transition hs
  refine ⟨⟨_, ht.transition st⟩, fun {id row'} hl => ?rows, ?tasks⟩
  case rows =>
    have ⟨_, _, ed⟩ := ht.transition_edits st
    cases hl₀ : AList.lookup id w.ledger
    case some row =>
      have ⟨row₁, hl₁, he⟩ := ed.kept hl₀
      obtain rfl : row₁ = row' := by simpa [hl] using hl₁.symm
      have hg := h.rows hl₀
      obtain rfl | he := he
      case inl => exact hg
      case inr => cases he <;> exact hg
    case none =>
      cases st
      case quarantined => simp [Ledger.quarantine, Table.lookup_update, hl₀] at hl
      case moved hi m _ => exact h.tasks hi (m.added (ht.tasks hi) hl₀ hl)
      all_goals exact absurd (hl₀.symm.trans hl) (by simp)
  case tasks =>
    have spawned : ∀ {i process task}, w.spawn i process task = some (w', o) →
        (∀ n, task.adds = some n → n = remoteGeneration) →
        ∀ {j thread n}, w'.threads j = some thread → thread.task.adds = some n → n = remoteGeneration := by
      intro i process task hs hn j thread n hj ha
      obtain ⟨rfl, rfl⟩ := spawn_eq_some hs
      obtain ⟨_, ht⟩ | ⟨_, hj⟩ := setTask_threads_cases hj
      case inl => exact hn n (Option.some.inj ht ▸ ha)
      case inr => exact h.tasks hj ha
    intro j thread n hj hn
    cases e <;> simp only [machine] at hs
    case start =>
      split at hs <;> cases hs
      exact h.tasks hj hn
    case crash =>
      cases hs
      exact h.tasks (Option.filter_eq_some_iff.mp hj).left hn
    case deadline =>
      cases hs
      exact h.tasks hj hn
    case create =>
      split at hs
      · cases hs
      · exact spawned hs (by simpa [MediaTask.adds, RemoteCleanup.asksFor] using ha) hj hn
    case cancel =>
      split at hs
      · cases hs
      · exact spawned hs (by simpa [MediaTask.adds, RemoteCleanup.asksFor] using ha) hj hn
    case reconcile  => exact spawned hs (by simp [MediaTask.adds]) hj hn
    case finishStop => exact spawned hs (by simp [MediaTask.adds]) hj hn
    case step i answer =>
      obtain ⟨thread', hi, hs⟩ := Option.bind_eq_some_iff.mp hs
      simp only [stepThread] at hs
      split at hs
      case h_1 target rest he =>
        cases hs
        obtain ⟨-, ht⟩ | ⟨-, hj⟩ := setTask_threads_cases hj
        case inl =>
          split at ht
          · simp [← Option.some.inj ht, MediaTask.adds] at hn
          · cases ht
        case inr => exact h.tasks hj hn
      case h_2 =>
        split at hs
        case isTrue  => cases hs
        case isFalse =>
          obtain ⟨r, hr, he⟩ := Option.map_eq_some_iff.mp hs
          cases he
          obtain ⟨-, ht⟩ | ⟨-, hj⟩ := setTask_threads_cases hj
          case inl => simp [(MediaTask.step_move hr).adds_none ht] at hn
          case inr => exact h.tasks hj hn

end MediaLifecycle

-- The steps that are left until the gate is given back.
def GatePoint.rank : GatePoint → Nat
  | .recordConflict _        => 7
  | .recordIdentity _        => 6
  | .recordRevoked _         => 5
  | .recordConfirmed         => 4
  | .revokeConfirmed         => 4
  | .answerRevoked           => 6
  | .answer                  => 5
  | .answerAccepted          => 4
  | .cancel _ .conflict      => 3
  | .cancel _ .confirmed     => 2
  | .cancel _ .worker        => 1
  | .cancel _ (.identity _)  => 0

namespace Rt1RemoteMediaRevocation

variable {b : Rt1RemoteMediaRevocation} {reply : WorkerReply}

-- A revoke asks for a STOP unless it is confirmed already or the identity is in conflict.
theorem call_revokeConfirmed_asked (b : Rt1RemoteMediaRevocation) (reply : WorkerReply) :
    (b.call .revokeConfirmed reply).asked = (!b.confirmed && !b.identityConflict) := by
  cases hc : b.confirmed <;> cases hi : b.identityConflict <;> cases hr : reply.cancelConfirmed
  all_goals simp [call, settle, RevocationCall.first, execute, cancelLocked, GatePoint.asks, hc, hi, hr]

-- An answer without a receipt confirms nothing.
theorem call_revokeConfirmed_none (answer : Bool) (hc : b.confirmed = false) (hi : b.identityConflict = false) :
    (b.call .revokeConfirmed ⟨none, answer⟩).result.isOk = false ∧
      (b.call .revokeConfirmed ⟨none, answer⟩).bridge.revoked = true ∧
      (b.call .revokeConfirmed ⟨none, answer⟩).bridge.identityConflict = false := by
  simp [call, settle, RevocationCall.first, execute, cancelLocked, hc, hi, Except.isOk, Except.toBool]

-- It fails only in a conflict or without a receipt.
theorem call_revokeConfirmed_error (h : (b.call .revokeConfirmed reply).result.isOk = false) :
    (b.call .revokeConfirmed reply).bridge.identityConflict = true ∨
      (!b.confirmed && !b.identityConflict) = true ∧ reply.cancelConfirmed = none := by
  cases hc : b.confirmed <;> cases hi : b.identityConflict <;> cases hr : reply.cancelConfirmed
  case false.false.some stopped =>
    cases hs : b.createdSessionId.any fun created => !decide (created = stopped)
    case true  => exact .inl (by simp [call, settle, RevocationCall.first, execute, cancelLocked, hc, hi, hr, hs])
    case false =>
      simp [call, settle, RevocationCall.first, execute, cancelLocked, hc, hi, hr, hs, Except.isOk, Except.toBool] at h
  all_goals
    simp [call, settle, RevocationCall.first, execute, cancelLocked, hc, hi, hr, Except.isOk, Except.toBool] at h ⊢

theorem execute_rank {i : Nat} {point point' : GatePoint} {b' : Rt1RemoteMediaRevocation}
    {o : List RevocationObservation} (h : b.execute i reply point = (b', .next point', o)) :
    point'.rank < point.rank := by
  cases point
  case cancel result p =>
    cases p <;> simp only [execute, cancelLocked] at h <;> split at h <;> cases h <;> simp [GatePoint.rank]
  all_goals
    simp only [execute] at h
    split at h <;> cases h <;> simp [GatePoint.rank]

-- What a call settles for is where its steps lead when nothing comes between them.
theorem settle_steps (b : Rt1RemoteMediaRevocation) (reply : WorkerReply) (calls : Nat) (waiting : List GateCall)
    (c : GateCall) {n : Nat} {point : GatePoint} (h : point.rank < n) : ∃ t,
      RevocationRuntime.machine.Steps ⟨b, calls, waiting, some (c, point)⟩ t
        ⟨(b.settle c.i reply n point).bridge, calls, waiting, none⟩ ∧
      .returned c.i c.call (b.settle c.i reply n point).result ∈ t := by
  induction n generalizing b point
  case zero => cases h
  case succ n hi =>
    rcases he : b.execute c.i reply point with ⟨b', progress, o⟩
    cases progress
    case returns result =>
      have hs : RevocationRuntime.machine.step ⟨b, calls, waiting, some (c, point)⟩ (.resume reply) =
          some (⟨b', calls, waiting, none⟩, o ++ [.returned c.i c.call result]) := by
        simp [RevocationRuntime.machine, he]
      simp only [settle, he]
      exact ⟨_, .trans hs .refl, by simp⟩
    case next next =>
      have hs : RevocationRuntime.machine.step ⟨b, calls, waiting, some (c, point)⟩ (.resume reply) =
          some (⟨b', calls, waiting, some (c, next)⟩, o) := by
        simp [RevocationRuntime.machine, he]
      have hk : next.rank < n := by
        have := execute_rank he
        omega
      obtain ⟨t, e, hm⟩ := hi b' hk
      simp only [settle, he]
      exact ⟨_, .trans hs e, List.mem_append_right _ hm⟩

theorem first_rank (c : RevocationCall) : c.first.rank < 8 := by
  cases c <;> simp [RevocationCall.first, GatePoint.rank]

theorem call_steps {calls : Nat} {waiting : List GateCall} {c : RevocationCall}
    (h : ∀ sessionId, c = .recordCreatedSession sessionId → isBlank sessionId = false) :
    ∃ b' t, b' = (if c = .revokeConfirmed then { b with revoked := true } else b) ∧
      RevocationRuntime.machine.Steps ⟨b', calls, waiting, some (⟨0, c⟩, c.first)⟩ t
        ⟨(b.call c reply).bridge, calls, waiting, none⟩ ∧ .returned 0 c (b.call c reply).result ∈ t := by
  cases c
  case recordCreatedSession sessionId =>
    have ⟨t, e, hm⟩ := settle_steps b reply calls waiting ⟨0, .recordCreatedSession sessionId⟩
      (first_rank (.recordCreatedSession sessionId))
    exact ⟨b, t, rfl, by simpa [call, h sessionId rfl] using e, by simpa [call, h sessionId rfl] using hm⟩
  case revokeConfirmed =>
    have ⟨t, e, hm⟩ := settle_steps { b with revoked := true } reply calls waiting ⟨0, .revokeConfirmed⟩
      (first_rank .revokeConfirmed)
    exact ⟨_, t, rfl, e, hm⟩
  case submitAnswer sdp =>
    have ⟨t, e, hm⟩ := settle_steps b reply calls waiting ⟨0, .submitAnswer sdp⟩ (first_rank (.submitAnswer sdp))
    exact ⟨b, t, rfl, e, hm⟩

end Rt1RemoteMediaRevocation

namespace RemoteCleanup

variable {s s' : RemoteCleanup} {k : Nat} {entry : ReconcileEntry} {entries : List ReconcileEntry}

-- The operation may still own a sender.
def Owning (s : RemoteCleanup) (k : Nat) : Prop :=
  ∃ r, s.remotes[k]? = some r ∧ (r.bridge.revoked = false ∨ r.bridge.identityConflict = true ∨
    s.worker.ledger.Unresolved r.operationId)

instance : Decidable (s.Owning k) :=
  decidable_of_iff (s.remotes[k]?.any fun r => !r.bridge.revoked || r.bridge.identityConflict ||
    decide (s.worker.ledger.Unresolved r.operationId)) <| by
      simp [Owning, Option.any_eq_true, or_assoc]

-- A pass can resolve the operation, or it does not ask the worker about it: the worker has taken it up.
def Resolvable (s : RemoteCleanup) (k : Nat) : Prop :=
  ∃ r, s.remotes[k]? = some r ∧ (r.bridge.revoked = false ∨ r.bridge.confirmed = true ∨
    r.bridge.identityConflict = true ∨ s.worker.ledger.Admitted r.operationId)

instance : Decidable (s.Resolvable k) :=
  decidable_of_iff (s.remotes[k]?.any fun r => !r.bridge.revoked || r.bridge.confirmed || r.bridge.identityConflict ||
    decide (s.worker.ledger.Admitted r.operationId)) <| by
      simp [Resolvable, Option.any_eq_true, or_assoc]

-- The registry holds operations that may own a sender only, and is full of them when it refuses another
-- one for its capacity.
structure Justified (s : RemoteCleanup) : Prop where
  owning   : ∀ e ∈ s.registry, s.Owning e.2
  capacity : ∀ {retryId remote error}, s.registerRemote retryId remote = .error error →
    (∀ e ∈ s.registry, e.1 ≠ retryId) → ∃ owning : List (String × Nat), owning.Sublist s.registry ∧
      maxTrackedRemoteOperations ≤ owning.length ∧ ∀ e ∈ owning, s.Owning e.2

structure Consistent (s : RemoteCleanup) : Prop where
  worker   : s.worker.Uniform
  ids      : (s.remotes.map (·.operationId)).Nodup
  registry : (s.registry.map Prod.snd).Nodup
  known    : ∀ e ∈ s.registry, e.2 < s.remotes.length

theorem worker_replay {w w' : MediaLifecycle} {es : List MediaEvent} {t : List MediaObservation} (h : w.Uniform)
    (hr : MediaLifecycle.machine.replay w es = some (w', t)) (ha : ∀ e ∈ es, asksFor e = true) : w'.Uniform := by
  induction es generalizing w t
  case nil =>
    obtain ⟨rfl, rfl⟩ := by simpa [Machine.replay] using hr
    exact h
  case cons e es hi =>
    obtain ⟨w₁, o, w₂, t₁, hs, hr', he⟩ := Machine.replay_cons.mp hr
    cases he
    exact hi (h.step (ha e (.head _)) hs) hr' fun e he => ha e (.tail _ he)

theorem asksFor_of_deletes {op : String} {e : MediaEvent}
    (h : MediaLifecycle.deletes op remoteGeneration e = true) : asksFor e = true := by
  cases e
  case cancel w => cases w <;> simp_all [MediaLifecycle.deletes, asksFor]
  all_goals simp_all [MediaLifecycle.deletes, asksFor]

theorem map_operationId (remotes : List RemoteOperation) (k : Nat) (bridge : Rt1RemoteMediaRevocation) :
    (remotes.modify k ({ · with bridge })).map (·.operationId) = remotes.map (·.operationId) := by
  apply List.ext_getElem?
  intro i
  simp only [List.getElem?_map, List.getElem?_modify]
  cases remotes[i]?
  case none   => rfl
  case some r => by_cases hi : k = i <;> simp [hi]

-- What a call of the bridge of an operation does.
structure Called (s : RemoteCleanup) (k : Nat) (r : RemoteOperation) (outcome : GateOutcome)
    (s' : RemoteCleanup) : Prop where
  remote   : s.remotes[k]? = some r
  remotes  : s'.remotes = s.remotes.modify k ({ · with bridge := outcome.bridge })
  registry : s'.registry = s.registry
  worker   : s.worker.Uniform → s'.worker.Uniform
  only     : s.worker.Uniform → s.worker.ledger.Only r.operationId s'.worker.ledger

theorem Called.consistent {r : RemoteOperation} {outcome : GateOutcome} (c : s.Called k r outcome s')
    (h : s.Consistent) : s'.Consistent where
  worker   := c.worker h.worker
  ids      := by
    have hm : s'.remotes.map (·.operationId) = s.remotes.map (·.operationId) := by
      rw [c.remotes, map_operationId]
    exact hm ▸ h.ids
  registry := c.registry ▸ h.registry
  known e he := by
    rw [c.remotes, List.length_modify]
    exact h.known e (c.registry ▸ he)

theorem call_called {c : RevocationCall} {answer : Bool} {delete : Option DeleteRun} {result : Except String Unit}
    (h : s.call k c answer delete = some (s', result)) :
    ∃ r reply, s.Called k r (r.bridge.call c ⟨reply, answer⟩) s' ∧ result = (r.bridge.call c ⟨reply, answer⟩).result ∧
      ((r.bridge.call c ⟨none, answer⟩).asked = true → delete.isSome = true → s.worker.Uniform →
        ∃ t, s.worker.ledger.Deleted r.operationId s'.worker.ledger t ∧
          (reply = none ↔ t.findSome? (·.receipt) = none)) := by
  simp only [call] at h
  split at h
  case h_1 => cases h
  case h_2 r hr =>
    split at h
    case h_1 run =>
      split at h
      case isTrue ha =>
        obtain ⟨⟨worker, t⟩, hw, he⟩ := Option.map_eq_some_iff.mp h
        cases he
        have hd : s.worker.Uniform → s.worker.ledger.Deleted r.operationId worker.ledger t :=
          fun hu => MediaLifecycle.cancelBounded_deleted hw fun _ hl => hu.rows hl
        have ⟨es, hes, hde⟩ := MediaLifecycle.cancelBounded_replay hw
        refine ⟨r, (t.findSome? (·.receipt)).map (·.sessionId.value),
          ⟨hr, rfl, rfl, fun hu => ?_, fun hu => (hd hu).only⟩, rfl, fun _ _ hu => ⟨t, hd hu, Option.map_eq_none_iff⟩⟩
        exact worker_replay hu hes fun e he => asksFor_of_deletes (hde e he)
      case isFalse ha =>
        cases h
        exact ⟨r, none, ⟨hr, rfl, rfl, fun hu => hu, fun _ => .refl⟩, rfl, fun ha' => absurd ha' ha⟩
    case h_2 =>
      cases h
      exact ⟨r, none, ⟨hr, rfl, rfl, fun hu => hu, fun _ => .refl⟩, rfl, fun _ hn => by cases hn⟩

theorem Consistent.remove (h : s.Consistent) (retryId : String) (remote : Nat) :
    (s.remove retryId remote).Consistent where
  worker     := h.worker
  ids        := h.ids
  registry   := h.registry.sublist (List.filter_sublist.map _)
  known e he := h.known e (List.mem_filter.mp he).left

-- What is known of an operation stays as it is.
structure Untouched (s : RemoteCleanup) (k : Nat) (s' : RemoteCleanup) : Prop where
  remote : s'.remotes[k]? = s.remotes[k]?
  row    : ∀ {r}, s.remotes[k]? = some r →
    AList.lookup r.operationId s'.worker.ledger = AList.lookup r.operationId s.worker.ledger

theorem Untouched.refl : s.Untouched k s :=
  ⟨rfl, fun _ => rfl⟩

theorem Untouched.trans {s'' : RemoteCleanup} (h : s.Untouched k s') (h' : s'.Untouched k s'') :
    s.Untouched k s'' :=
  ⟨h'.remote.trans h.remote, fun hr => (h'.row (h.remote.trans hr)).trans (h.row hr)⟩

theorem Untouched.owning (h : s.Untouched k s') : s'.Owning k ↔ s.Owning k := by
  unfold Owning
  rw [h.remote]
  refine exists_congr fun r => and_congr_right fun hr => ?_
  simp only [Ledger.Unresolved, h.row hr]

theorem Untouched.resolvable (h : s.Untouched k s') : s'.Resolvable k ↔ s.Resolvable k := by
  unfold Resolvable
  rw [h.remote]
  refine exists_congr fun r => and_congr_right fun hr => ?_
  simp only [Ledger.Admitted, h.row hr]

theorem untouched_remove {retryId : String} {j : Nat} : s.Untouched j (s.remove retryId k) :=
  ⟨rfl, fun _ => rfl⟩

theorem Called.untouched {r : RemoteOperation} {outcome : GateOutcome} (c : s.Called k r outcome s')
    (h : s.Consistent) {j : Nat} (hj : j ≠ k) : s.Untouched j s' := by
  refine ⟨by simp [c.remotes, hj.symm], fun {r'} hr' => c.only h.worker r'.operationId ?_⟩
  intro he
  have hl : k < (s.remotes.map (·.operationId)).length := by
    simpa using (List.getElem?_eq_some_iff.mp c.remote).choose
  have heq : (s.remotes.map (·.operationId))[k]? = (s.remotes.map (·.operationId))[j]? := by
    simp [c.remote, hr', he]
  exact hj ((List.getElem?_inj hl h.ids).mp heq).symm

-- What the entry of a pass does: the other operations stay as they are, and its own is gone or may own a
-- sender, if and only if the pass can resolve it.
structure Reconciled (s : RemoteCleanup) (retryId : String) (k : Nat) (s' : RemoteCleanup) : Prop where
  consistent : s'.Consistent
  registry   : ∀ e ∈ s'.registry, e ∈ s.registry
  kept       : ∀ e ∈ s.registry, e ≠ (retryId, k) → e ∈ s'.registry
  untouched  : ∀ j ≠ k, s.Untouched j s'
  own        : (retryId, k) ∈ s.registry → (((retryId, k) ∈ s'.registry → s'.Owning k) ↔ s.Resolvable k)

-- The operation stays registered when the call of the pass fails.
theorem settled_iff {r : RemoteOperation} {reply : Option String} {t : List MediaObservation}
    (hr : s.remotes[k]? = some r) (hv : r.bridge.revoked = true) (hc : r.bridge.confirmed = false)
    (hr' : s'.remotes[k]? = some { r with bridge := (r.bridge.call .revokeConfirmed ⟨reply, false⟩).bridge })
    (hd : r.bridge.identityConflict = false → s.worker.ledger.Deleted r.operationId s'.worker.ledger t ∧
      (reply = none ↔ t.findSome? (·.receipt) = none)) :
    ((r.bridge.call .revokeConfirmed ⟨reply, false⟩).result.isOk = false → s'.Owning k) ↔ s.Resolvable k := by
  constructor
  case mp =>
    intro ho
    refine ⟨r, hr, .inr <| .inr ?_⟩
    by_contra hn
    obtain ⟨hi, ha⟩ := not_or.mp hn
    have hi := eq_false_of_ne_true hi
    obtain ⟨hd, hreply⟩ := hd hi
    -- The worker answers with 202, and the operation stays registered.
    obtain ⟨ha', hno⟩ := hd.refused ha
    obtain rfl := hreply.mpr hno
    obtain ⟨hok, hrev, hcon⟩ := Rt1RemoteMediaRevocation.call_revokeConfirmed_none false hc hi
    obtain ⟨r', hr'', ho⟩ := ho hok
    obtain rfl := Option.some.inj (hr'.symm.trans hr'')
    obtain ho | ho | ho := ho
    · exact Bool.false_ne_true (ho.symm.trans hrev)
    · exact Bool.false_ne_true (hcon.symm.trans ho)
    · exact ha' ho.admitted
  case mpr =>
    rintro ⟨r', hr'', hres⟩ hok
    obtain rfl := Option.some.inj (hr.symm.trans hr'')
    refine ⟨_, hr', .inr ?_⟩
    obtain hi | ⟨ha, rfl⟩ := Rt1RemoteMediaRevocation.call_revokeConfirmed_error hok
    case inl => exact .inl hi
    case inr =>
      have hi : r.bridge.identityConflict = false := by simpa [hc] using ha
      obtain ⟨hd, hreply⟩ := hd hi
      obtain hres | hres | hres | hres := hres
      · exact absurd (hv.symm.trans hres) Bool.noConfusion
      · exact absurd (hc.symm.trans hres) Bool.noConfusion
      · exact absurd (hi.symm.trans hres) Bool.noConfusion
      · obtain hu | hver := (hd.admitted hres).cases
        case inl => exact .inr hu
        case inr =>
          have hs := hd.verified hver
          rw [hreply.mp rfl] at hs
          cases hs

theorem reconcileEntry_reconciled (h : s.Consistent)
    (hv : (entry.retryId, entry.remote) ∈ s.revoked) (hr : s.reconcileEntry entry = some s') :
    s.Reconciled entry.retryId entry.remote s' := by
  have gone : ∀ {s : RemoteCleanup},
      (entry.retryId, entry.remote) ∉ (s.remove entry.retryId entry.remote).registry := by
    simp [remove]
  have others : ∀ {s : RemoteCleanup}, ∀ e ∈ s.registry, e ≠ (entry.retryId, entry.remote) →
      e ∈ (s.remove entry.retryId entry.remote).registry := by
    intro s e he hn
    exact List.mem_filter.mpr ⟨he, decide_eq_true hn⟩
  simp only [reconcileEntry] at hr
  split at hr
  case h_1 => cases hr
  case h_2 bridge hb =>
    obtain ⟨r, hk, rfl⟩ := Option.map_eq_some_iff.mp hb
    split at hr
    case isTrue hc =>
      cases hr
      exact ⟨h.remove _ _, fun e he => (List.mem_filter.mp he).left, others, fun _ _ => untouched_remove,
        fun _ => ⟨fun _ => ⟨r, hk, .inr <| .inl hc⟩, fun _ hm => absurd hm gone⟩⟩
    case isFalse hc =>
      have hc := eq_false_of_ne_true hc
      have hrev : r.bridge.revoked = true := by simpa [bridge, hk] using (List.mem_filter.mp hv).right
      obtain ⟨⟨s₁, result⟩, hcall, he⟩ := Option.map_eq_some_iff.mp hr
      obtain ⟨r', reply, c, rfl, hw⟩ := call_called hcall
      obtain rfl := Option.some.inj (hk.symm.trans c.remote)
      have hcon := c.consistent h
      have hd : ∃ t, r.bridge.identityConflict = false → s.worker.ledger.Deleted r.operationId s₁.worker.ledger t ∧
          (reply = none ↔ t.findSome? (·.receipt) = none) := by
        have ha := Rt1RemoteMediaRevocation.call_revokeConfirmed_asked r.bridge ⟨none, false⟩
        cases hi : r.bridge.identityConflict
        case true  => exact ⟨[], by simp⟩
        case false =>
          obtain ⟨t, hd⟩ := hw (by simp [ha, hc, hi]) rfl h.worker
          exact ⟨t, fun _ => hd⟩
      obtain ⟨t, hd⟩ := hd
      have hs := settled_iff hk hrev hc (by simp [c.remotes, hk]) hd
      cases hok : (r.bridge.call .revokeConfirmed ⟨reply, false⟩).result.isOk <;> rw [hok] at hs
      case true =>
        obtain rfl : s₁.remove entry.retryId entry.remote = s' := by simpa [hok] using he
        exact ⟨hcon.remove _ _, fun e he => c.registry ▸ (List.mem_filter.mp he).left,
          fun e he => others e (c.registry ▸ he), fun _ hj => (c.untouched h hj).trans untouched_remove,
          fun _ => ⟨fun _ => hs.mp (by simp), fun _ hm => absurd hm gone⟩⟩
      case false =>
        obtain rfl : s₁ = s' := by simpa [hok] using he
        exact ⟨hcon, fun e he => c.registry ▸ he, fun e he _ => c.registry ▸ he, fun _ hj => c.untouched h hj,
          fun hm => ⟨fun ho => hs.mp fun _ => ho (c.registry ▸ hm), fun hr _ => hs.mpr hr rfl⟩⟩

-- The same for all the entries of a pass.
structure Passed (s : RemoteCleanup) (entries : List ReconcileEntry) (s' : RemoteCleanup) : Prop where
  consistent : s'.Consistent
  registry   : ∀ e ∈ s'.registry, e ∈ s.registry
  kept       : ∀ e ∈ s.registry, e.2 ∉ entries.map (·.remote) → e ∈ s'.registry
  untouched  : ∀ j ∉ entries.map (·.remote), s.Untouched j s'
  own        : ∀ entry ∈ entries,
    (((entry.retryId, entry.remote) ∈ s'.registry → s'.Owning entry.remote) ↔ s.Resolvable entry.remote)

theorem Untouched.revoked {e : String × Nat} (h : s.Untouched e.2 s') (he : e ∈ s'.registry) (hv : e ∈ s.revoked) :
    e ∈ s'.revoked := by
  refine List.mem_filter.mpr ⟨he, ?_⟩
  rw [bridge, h.remote]
  exact (List.mem_filter.mp hv).right

theorem reconcileRemoteStops_passed (h : s.Consistent) (hn : (entries.map (·.remote)).Nodup)
    (hv : ∀ entry ∈ entries, (entry.retryId, entry.remote) ∈ s.revoked)
    (hr : s.reconcileRemoteStops entries = some s') : s.Passed entries s' := by
  induction entries generalizing s
  case nil =>
    obtain rfl := Option.some.inj hr
    exact ⟨h, fun _ he => he, fun _ he _ => he, fun _ _ => .refl, by simp⟩
  case cons entry entries hi =>
    obtain ⟨s₁, he, hr⟩ := Option.bind_eq_some_iff.mp hr
    have hm := hv entry List.mem_cons_self
    have hc := reconcileEntry_reconciled h hm he
    have ⟨hnm, hn⟩ := List.nodup_cons.mp hn
    have ne {entry' : ReconcileEntry} (he' : entry' ∈ entries) : entry'.remote ≠ entry.remote := by
      intro heq
      exact hnm (List.mem_map.mpr ⟨entry', he', heq⟩)
    have hp := hi hc.consistent hn (fun entry' he' => by
      have hv' := hv entry' (.tail _ he')
      have hk := hc.kept _ (List.mem_filter.mp hv').left fun heq => ne he' (congrArg Prod.snd heq)
      exact (hc.untouched _ (ne he')).revoked hk hv') hr
    refine ⟨hp.consistent, fun e he => hc.registry e (hp.registry e he), fun e he hj => ?kept,
      fun j hj => ?untouched, fun entry' he' => ?own⟩
    case kept =>
      have ⟨hj, hj'⟩ := not_or.mp (mt List.mem_cons.mpr hj)
      exact hp.kept e (hc.kept e he fun heq => hj (congrArg Prod.snd heq)) hj'
    case untouched =>
      have ⟨hj, hj'⟩ := not_or.mp (mt List.mem_cons.mpr hj)
      exact (hc.untouched j hj).trans (hp.untouched j hj')
    case own =>
      obtain rfl | he' := List.mem_cons.mp he'
      case inl =>
        rw [(hp.untouched _ hnm).owning, ← hc.own (List.mem_filter.mp hm).left]
        exact imp_congr_left ⟨hp.registry _, fun he => hp.kept _ he hnm⟩
      case inr =>
        rw [hp.own entry' he', (hc.untouched _ (ne he')).resolvable]

-- A pass has one entry for every operation that is revoked.
theorem Consistent.entries_nodup (h : s.Consistent)
    (hp : (entries.map fun e => (e.retryId, e.remote)).Perm s.revoked) : (entries.map (·.remote)).Nodup := by
  have hm : entries.map (·.remote) = (entries.map fun e => (e.retryId, e.remote)).map Prod.snd := by simp
  rw [hm]
  exact ((hp.map _).nodup_iff).mpr (h.registry.sublist (List.filter_sublist.map _))

theorem Consistent.passed (h : s.Consistent) (hp : (entries.map fun e => (e.retryId, e.remote)).Perm s.revoked)
    (hr : s.reconcileRemoteStops entries = some s') : s.Passed entries s' := by
  refine reconcileRemoteStops_passed h (h.entries_nodup hp) (fun entry he => ?_) hr
  exact hp.mem_iff.mp (List.mem_map_of_mem (f := fun e : ReconcileEntry => (e.retryId, e.remote)) he)

theorem Consistent.start (h : s.Consistent) (retryId : String) {operationId : String}
    (hf : s.remotes.any (·.operationId = operationId) = false) :
    Consistent { s with remotes := s.remotes ++ [⟨operationId, .new⟩] } ∧
    Consistent { s with
      remotes  := s.remotes ++ [⟨operationId, .new⟩]
      registry := s.registry ++ [(retryId, s.remotes.length)] } := by
  have hi : ((s.remotes ++ [(⟨operationId, .new⟩ : RemoteOperation)]).map (·.operationId)).Nodup := by
    rw [List.map_append, List.nodup_append']
    refine ⟨h.ids, by simp, ?_⟩
    simpa using hf
  have hk : ∀ e ∈ s.registry, e.2 < (s.remotes ++ [(⟨operationId, .new⟩ : RemoteOperation)]).length := by
    intro e he
    rw [List.length_append]
    exact Nat.lt_add_right _ (h.known e he)
  refine ⟨⟨h.worker, hi, h.registry, hk⟩, h.worker, hi, ?_, ?_⟩
  · rw [List.map_append, List.nodup_append']
    refine ⟨h.registry, by simp, ?_⟩
    simp only [List.map_cons, List.map_nil, List.disjoint_singleton, List.mem_map, not_exists, not_and]
    exact fun e he => Nat.ne_of_lt (h.known e he)
  · intro e he
    obtain he | he := List.mem_append.mp he
    case inl => exact hk e he
    case inr => simp [List.mem_singleton.mp he]

theorem step_consistent {e : RemoteEvent} {o : List Unit} (h : s.Consistent) (hs : machine.step s e = some (s', o)) :
    s'.Consistent := by
  cases e <;> simp only [machine] at hs
  case start retryId operationId =>
    split at hs
    case isTrue  => cases hs
    case isFalse hf =>
      have hf : s.remotes.any (·.operationId = operationId) = false := by simpa using hf
      have ⟨hc, hc'⟩ := h.start retryId hf
      simp only [registerRemote] at hs
      split at hs
      case h_1 hr =>
        cases hs
        split at hr
        case isTrue  => cases hr
        case isFalse => cases hr; exact hc'
      case h_2 => cases hs; exact hc
  case call remote c answer delete =>
    obtain ⟨⟨_, _⟩, hr, he⟩ := Option.map_eq_some_iff.mp hs
    cases he
    have ⟨_, _, hc, _⟩ := call_called hr
    exact hc.consistent h
  case worker e =>
    split at hs
    case isFalse => cases hs
    case isTrue ha =>
      obtain ⟨⟨_, _⟩, hr, he⟩ := Option.map_eq_some_iff.mp hs
      cases he
      exact { h with worker := h.worker.step ha hr }
  case reconcile entries =>
    split at hs
    case isFalse => cases hs
    case isTrue hp =>
      obtain ⟨_, hr, he⟩ := Option.map_eq_some_iff.mp hs
      cases he
      exact (h.passed (List.isPerm_iff.mp hp) hr).consistent

theorem consistent_of_run {t : List Unit} (r : machine.Run t s) : s.Consistent := by
  refine r.state_invariant (P := Consistent) (fun hi => ?_) step_consistent
  obtain rfl := hi
  refine ⟨⟨⟨_, MediaLifecycle.initial_sound⟩, fun hl => ?_, fun hi => ?_⟩, by simp, by simp, by simp⟩
  · simp [MediaLifecycle.initial] at hl
  · simp [MediaLifecycle.initial] at hi

-- An operation that is not revoked stays as it is, and is in the right.
theorem Passed.unrevoked (hd : s.Passed entries s') (h : s.Consistent)
    (hp : (entries.map fun e => (e.retryId, e.remote)).Perm s.revoked) {e : String × Nat} (he : e ∈ s.registry)
    (hv : e ∉ s.revoked) : s'.Owning e.2 ∧ s.Resolvable e.2 := by
  have hj : e.2 ∉ entries.map (·.remote) := by
    intro hj
    obtain ⟨entry, hm, hj⟩ := List.mem_map.mp hj
    have hr := hp.mem_iff.mp (List.mem_map_of_mem hm)
    have := List.inj_on_of_nodup_map h.registry (List.mem_filter.mp hr).left he hj
    exact hv (this ▸ hr)
  obtain ⟨r, hk⟩ : ∃ r, s.remotes[e.2]? = some r := ⟨_, List.getElem?_eq_getElem (h.known e he)⟩
  have hn := mt (fun hb => List.mem_filter.mpr ⟨he, hb⟩) hv
  have hr : r.bridge.revoked = false := by simpa [bridge, hk] using hn
  exact ⟨(hd.untouched e.2 hj).owning.mpr ⟨r, hk, .inl hr⟩, r, hk, .inl hr⟩

theorem justified_iff : s.Justified ↔ ∀ e ∈ s.registry, s.Owning e.2 := by
  refine ⟨fun h => h.owning, fun h => ⟨h, fun {retryId remote error} hf hn => ⟨_, .refl _, ?_, h⟩⟩⟩
  simp only [registerRemote] at hf
  split at hf
  case isFalse  => cases hf
  case isTrue hc =>
    refine hc.resolve_right fun ha => ?_
    obtain ⟨e, he, hi⟩ := List.any_eq_true.mp ha
    exact hn e he (of_decide_eq_true hi)

-- After a pass whose calls are answered, the registry is taken up by operations that may own a sender only,
-- if and only if the worker has taken up each operation that the pass asks it about.
theorem reconcile_justified_iff {t o : List Unit} (r : machine.Run t s)
    (hs : machine.step s (.reconcile entries) = some (s', o)) :
    s'.Justified ↔ ∀ e ∈ s.registry, s.Resolvable e.2 := by
  have h := consistent_of_run r
  simp only [machine] at hs
  split at hs
  case isFalse => cases hs
  case isTrue hp =>
    obtain ⟨s₁, hr, he⟩ := Option.map_eq_some_iff.mp hs
    cases he
    have hp := List.isPerm_iff.mp hp
    have hd := h.passed hp hr
    rw [justified_iff]
    constructor
    case mp =>
      intro ho e he
      by_cases hv : e ∈ s.revoked
      case pos =>
        obtain ⟨entry, hm, rfl⟩ := List.mem_map.mp (hp.mem_iff.mpr hv)
        exact (hd.own entry hm).mp (ho _)
      case neg => exact (hd.unrevoked h hp he hv).right
    case mpr =>
      intro hres e he
      have he₀ := hd.registry e he
      by_cases hv : e ∈ s.revoked
      case pos =>
        obtain ⟨entry, hm, rfl⟩ := List.mem_map.mp (hp.mem_iff.mpr hv)
        exact (hd.own entry hm).mpr (hres _ he₀) he
      case neg => exact (hd.unrevoked h hp he₀ hv).left

def exampleDelete : DeleteRun :=
  ⟨0, 10, 11, true, []⟩

-- The first visitor is given up while its session is allocated, and the second has only started.
def exampleAllocating : List RemoteEvent :=
  [.worker (.start 0), .start "first" "operation-1", .worker (.create 0 0 "operation-1" 1 none), .worker (.step 0 .ok),
    .start "second" "operation-2", .call 0 .revokeConfirmed false none]

theorem reconcile_justified_iff_allocating : ∃ t s s' o, machine.Run t s ∧
    machine.step s (.reconcile [⟨"first", 0, exampleDelete⟩]) = some (s', o) ∧ ("first", 0) ∈ s'.registry ∧
    (∀ e ∈ s.registry, s.Resolvable e.2) ∧ s'.Justified := by
  have hr : ∃ t s, machine.Steps ⟨[], [], .initial⟩ t s ∧
      (decide (∀ e ∈ s.registry, s.Resolvable e.2) &&
        (machine.step s (.reconcile [⟨"first", 0, exampleDelete⟩])).any fun r => ("first", 0) ∈ r.1.registry) = true :=
    Machine.Steps.exists_of_replay_any (m := machine)
      (p := fun s _ => decide (∀ e ∈ s.registry, s.Resolvable e.2) &&
        (machine.step s (.reconcile [⟨"first", 0, exampleDelete⟩])).any fun r => ("first", 0) ∈ r.1.registry)
      exampleAllocating (by decide +kernel)
  obtain ⟨t, s, e, hs⟩ := hr
  obtain ⟨hres, hs⟩ := Bool.and_eq_true_iff.mp hs
  obtain ⟨⟨s', o⟩, hs, hm⟩ := (Option.any_eq_true _ _).mp hs
  have hres := of_decide_eq_true hres
  exact ⟨t, s, s', o, ⟨rfl, e⟩, hs, of_decide_eq_true hm, hres,
    (reconcile_justified_iff ⟨rfl, e⟩ hs).mpr hres⟩

-- The CREATE of the second visitor is refused, as the allocation of the first is not resolved, and its
-- start is given up.
def exampleRefused : List RemoteEvent :=
  [.worker (.start 0), .start "first" "operation-1", .worker (.create 0 0 "operation-1" 1 none), .worker (.step 0 .ok),
    .start "second" "operation-2", .worker (.create 1 0 "operation-2" 1 none), .worker (.step 1 .ok),
    .call 1 .revokeConfirmed false (some exampleDelete)]

-- The worker has no session of the second operation, but it never leaves the registry.
theorem not_reconcile_owning : ¬∀ t s entries s' o, machine.Run t s →
    machine.step s (.reconcile entries) = some (s', o) → ∀ e ∈ s'.registry, s'.Owning e.2 := by
  intro h
  have hr : ∃ t s, machine.Steps ⟨[], [], .initial⟩ t s ∧
      ((machine.step s (.reconcile [⟨"second", 1, exampleDelete⟩])).any
        fun r => !decide (∀ e ∈ r.1.registry, r.1.Owning e.2)) = true :=
    Machine.Steps.exists_of_replay_any (m := machine)
      (p := fun s _ => (machine.step s (.reconcile [⟨"second", 1, exampleDelete⟩])).any
        fun r => !decide (∀ e ∈ r.1.registry, r.1.Owning e.2))
      exampleRefused (by decide +kernel)
  obtain ⟨t, s, e, hs⟩ := hr
  obtain ⟨⟨s', o⟩, hs, hn⟩ := (Option.any_eq_true _ _).mp hs
  exact of_decide_eq_false (by simpa using hn) (h t s _ s' o ⟨rfl, e⟩ hs)

end RemoteCleanup
