import PersonaRuntime.MediaWorker.Lifecycle

namespace Ledger

-- The ledger that differs in one row at most.
def Sets (ledger : Ledger) (id : String) (row : MediaOperation) (ledger' : Ledger) : Prop :=
  ∀ id', AList.lookup id' ledger' = if id' = id then some row else AList.lookup id' ledger

variable {ledger ledger' : Ledger} {id : String} {row row' : MediaOperation}

theorem sets_write {p : Phase} {s : Option SenderId} (h : AList.lookup id ledger = some row) :
    ledger.Sets id { row with phase := p, sessionId := s } (ledger.write id row.generation p s) := by
  intro id'
  simp [lookup_write, h]

theorem sets_write_new {phase : Phase} {sessionId : Option SenderId} {generation : Nat}
    (h : AList.lookup id ledger = none) :
    ledger.Sets id ⟨generation, phase, sessionId, none, false, false⟩
      (ledger.write id generation phase sessionId) := by
  intro id'
  simp [lookup_write, h]

theorem Sets.trans {ledger₁ ledger₂ ledger₃ : Ledger} (h : ledger₁.Sets id row ledger₂)
    (h' : ledger₂.Sets id row' ledger₃) : ledger₁.Sets id row' ledger₃ := by
  intro id'
  rw [h' id', h id']
  split <;> rfl

theorem sets_assign {f : MediaOperation → MediaOperation} (h : AList.lookup id ledger = some row) :
    ledger.Sets id (f row) (ledger.assign id row.generation f) := by
  intro id'
  rw [assign, Table.lookup_update]
  by_cases hi : id' = id
  case pos => subst hi; simp [h]
  case neg => simp [hi]

theorem get_eq_some_iff {generation : Nat} {phase : Phase} {sessionId : Option SenderId} :
    ledger.get id = some (generation, phase, sessionId) ↔
      ∃ row, AList.lookup id ledger = some row ∧ row.generation = generation ∧ row.phase = phase ∧
        row.sessionId = sessionId := by
  simp [get, Option.map_eq_some_iff]

end Ledger

namespace MediaTask

-- Everything that one step of a thread can do to the ledger, where it leads the thread, and what it
-- shows.
inductive Move (ledger : Ledger) : MediaTask → Outcome → Prop
  | ended {task} : Move ledger task ⟨ledger, none, []⟩
  | existing {c row sessionId} :
    (AList.lookup c.operationId ledger = some row) → (row.phase = .active) →
    Move ledger (.intent c) ⟨ledger, none, [.created c.operationId c.generation sessionId]⟩
  | admitted {c ledger'} :
    (AList.lookup c.operationId ledger = none) →
    (∀ {id row}, AList.lookup id ledger = some row → row.unresolved = false) →
    (ledger.Sets c.operationId ⟨c.generation, .creating, none, c.recoveryId, false, false⟩ ledger') →
    Move ledger (.intent c) ⟨ledger', some (.allocating c), []⟩
  | allocated {c sessionId} :
    Move ledger (.allocating c) ⟨ledger, some (.allocated c sessionId), []⟩
  | allocationRaised {c allocatedId} :
    Move ledger (.allocating c) ⟨ledger, some (.allocationFailed c allocatedId), []⟩
  | failed {c allocatedId row ledger' task'} :
    (AList.lookup c.operationId ledger = some row) → (row.phase ≠ .stopped) →
    (row.sessionId = none) →
    (ledger.Sets c.operationId
      { row with phase := .uncertain, sessionId := allocatedId <|> c.recoveryId } ledger') →
    (task'.all fun task => task matches .stop _ .acquire _) →
    Move ledger (.allocationFailed c allocatedId) ⟨ledger', task', []⟩
  | failedUnrecorded {c allocatedId task'} :
    (task'.all fun task => task matches .stop _ .acquire _) →
    Move ledger (.allocationFailed c allocatedId) ⟨ledger, task', []⟩
  | mismatched {c sessionId row ledger' target} :
    (c.recoveryId.any (· ≠ sessionId)) → (AList.lookup c.operationId ledger = some row) →
    (row.phase.open = true) →
    (ledger.Sets c.operationId { row with phase := .uncertain, sessionId := some sessionId } ledger') →
    Move ledger (.allocated c sessionId)
      ⟨ledger', some (.stop target .acquire []), [.finished c sessionId]⟩
  | mismatchDropped {c sessionId} :
    (c.recoveryId.any (· ≠ sessionId)) →
    (∀ {row}, AList.lookup c.operationId ledger = some row → row.generation = c.generation →
      row.phase.open = false) →
    Move ledger (.allocated c sessionId) ⟨ledger, none, [.finished c sessionId]⟩
  | activated {c sessionId row ledger'} :
    (c.recoveryId.all (· = sessionId)) → (AList.lookup c.operationId ledger = some row) →
    (row.phase = .creating) →
    (ledger.Sets c.operationId { row with phase := .active, sessionId := some sessionId } ledger') →
    Move ledger (.allocated c sessionId)
      ⟨ledger', none, [.finished c sessionId, .created c.operationId c.generation sessionId]⟩
  | revoked {c sessionId row' ledger' target} :
    (c.recoveryId.all (· = sessionId)) → (row'.phase = .stopping) →
    (∀ {row}, AList.lookup c.operationId ledger = some row → row.generation = c.generation →
      row' = { row with phase := .stopping, sessionId := some sessionId }) →
    (ledger.Sets c.operationId row' ledger') →
    Move ledger (.allocated c sessionId)
      ⟨ledger', some (.stop target .acquire []), [.finished c sessionId]⟩
  | tombstoned {operationId generation waitForStop ledger'} :
    (AList.lookup operationId ledger = none) →
    (ledger.Sets operationId ⟨generation, .stopped, none, none, false, false⟩ ledger') →
    Move ledger (.cancel operationId generation waitForStop)
      ⟨ledger', none, [.cancelCommitted operationId generation]⟩
  | cancelled {operationId generation waitForStop row phase sessionId ledger' task'} :
    (AList.lookup operationId ledger = some row) → (phase = .stopping ∨ phase = .uncertain) →
    (sessionId = row.sessionId ∨ row.phase = .creating ∧ sessionId = none) →
    (row.phase = .stopped → row.sessionId ≠ none ∧ row.stopVerified = false) →
    (ledger.Sets operationId { row with phase, sessionId } ledger') →
    (task'.all fun task => task matches .stop _ .acquire _) →
    Move ledger (.cancel operationId generation waitForStop)
      ⟨ledger', task', [.cancelCommitted operationId generation]⟩
  | cancelledStopped {operationId generation waitForStop row} :
    (AList.lookup operationId ledger = some row) → (row.phase = .stopped) →
    Move ledger (.cancel operationId generation waitForStop)
      ⟨ledger, none, [.cancelCommitted operationId generation]⟩
  | cancelledVerified {operationId generation waitForStop row sessionId} :
    (AList.lookup operationId ledger = some row) → (row.generation = generation) →
    (row.phase = .stopped) → (row.sessionId = some sessionId) → (row.stopVerified = true) →
    Move ledger (.cancel operationId generation waitForStop)
      ⟨ledger, none, [.cancelCommitted operationId generation,
        .receiptReturned ⟨operationId, sessionId, generation⟩]⟩
  | reconciled {targets} : Move ledger .reconcile ⟨ledger, stopAll targets, []⟩
  | readStopped {target rest row} :
    (AList.lookup target.operationId ledger = some row) → (row.generation = target.generation) →
    (row.sessionId = some target.sessionId) → (row.phase = .stopped) →
    Move ledger (.stop target .read rest) ⟨ledger, some (.stop target .readVerified rest), []⟩
  | readOpen {target rest row} :
    (AList.lookup target.operationId ledger = some row) → (row.generation = target.generation) →
    (row.sessionId = some target.sessionId) → (row.phase ≠ .stopped) →
    Move ledger (.stop target .read rest) ⟨ledger, some (.stop target .markStopping rest), []⟩
  | verified {target rest row} :
    (AList.lookup target.operationId ledger = some row) → (row.stopVerified = true) →
    Move ledger (.stop target .readVerified rest)
      ⟨ledger, stopAll rest, [.receiptReturned target]⟩
  | unverified {target rest row} :
    (AList.lookup target.operationId ledger = some row) → (row.stopVerified = false) →
    Move ledger (.stop target .readVerified rest) ⟨ledger, some (.stop target .markUncertain rest), []⟩
  | markedUncertain {target rest row' ledger'} :
    (row'.phase = .uncertain) → (row'.sessionId = some target.sessionId) →
    (ledger.Sets target.operationId row' ledger') →
    Move ledger (.stop target .markUncertain rest) ⟨ledger', some (.stop target .reread rest), []⟩
  | reread {target rest} :
    Move ledger (.stop target .reread rest) ⟨ledger, some (.stop target .markStopping rest), []⟩
  | markedStopping {target rest row' ledger'} :
    (row'.phase = .stopping) → (row'.sessionId = some target.sessionId) →
    (∀ {row}, AList.lookup target.operationId ledger = some row →
      row.generation = target.generation →
      row' = { row with phase := .stopping, sessionId := some target.sessionId }) →
    (ledger.Sets target.operationId row' ledger') →
    Move ledger (.stop target .markStopping rest)
      ⟨ledger', some (.stop target .readIdentities rest), []⟩
  | identified {target rest row} :
    (AList.lookup target.operationId ledger = some row) → (row.generation = target.generation) →
    Move ledger (.stop target .readIdentities rest)
      ⟨ledger, some (.stop target (.stopActual row.preassignedSessionId) rest), []⟩
  | identifiedConfirmed {target rest row preassigned} :
    (AList.lookup target.operationId ledger = some row) → (row.generation = target.generation) →
    (row.actualStopConfirmed = true) → (row.preassignedSessionId = some preassigned) →
    (preassigned ≠ target.sessionId) →
    Move ledger (.stop target .readIdentities rest)
      ⟨ledger, some (.stop target (.stopPreassigned preassigned) rest), []⟩
  | identifiedInvalid {target rest} :
    Move ledger (.stop target .readIdentities rest) ⟨ledger, some (.stop target .fail rest), []⟩
  | stoppedOnly {target rest preassigned receipt} :
    (receipt.validate target = true) → (∀ {p}, preassigned = some p → p = target.sessionId) →
    Move ledger (.stop target (.stopActual preassigned) rest)
      ⟨ledger, some (.stop target .confirm rest), [.stopAnswered target receipt]⟩
  | stoppedActual {target rest preassigned receipt} :
    (receipt.validate target = true) → (preassigned ≠ target.sessionId) →
    Move ledger (.stop target (.stopActual (some preassigned)) rest)
      ⟨ledger, some (.stop target (.confirmActual preassigned) rest), [.stopAnswered target receipt]⟩
  | confirmedActual {target rest preassigned row ledger'} :
    (AList.lookup target.operationId ledger = some row) → (row.generation = target.generation) →
    (row.phase = .stopping) → (row.sessionId = some target.sessionId) →
    (ledger.Sets target.operationId { row with actualStopConfirmed := true } ledger') →
    Move ledger (.stop target (.confirmActual preassigned) rest)
      ⟨ledger', some (.stop target (.stopPreassigned preassigned) rest), []⟩
  | stoppedPreassigned {target rest preassigned receipt} :
    (receipt.validate { target with sessionId := preassigned } = true) →
    Move ledger (.stop target (.stopPreassigned preassigned) rest)
      ⟨ledger, some (.stop target .confirm rest),
        [.stopAnswered { target with sessionId := preassigned } receipt]⟩
  -- A refused receipt, an exception or a changed row lead to the handler.
  | failing {target point rest seen} :
    (point ≠ .acquire) → (∀ o ∈ seen, o matches .stopAnswered ..) →
    Move ledger (.stop target point rest) ⟨ledger, some (.stop target .fail rest), seen⟩
  | failedStop {target rest row ledger'} :
    (AList.lookup target.operationId ledger = some row) → (row.phase = .stopping) →
    (row.sessionId = some target.sessionId) →
    (ledger.Sets target.operationId { row with phase := .uncertain } ledger') →
    Move ledger (.stop target .fail rest) ⟨ledger', none, []⟩
  | confirmed {target rest row ledger'} :
    (AList.lookup target.operationId ledger = some row) → (row.generation = target.generation) →
    (row.phase = .stopping) → (row.sessionId = some target.sessionId) →
    (ledger.Sets target.operationId { row with phase := .stopped, stopVerified := true } ledger') →
    Move ledger (.stop target .confirm rest) ⟨ledger', stopAll rest, [.receiptReturned target]⟩

variable {ledger : Ledger} {answer : Answer} {r : Outcome} {c : CreateCall} {target : StopTarget}
  {rest : List StopTarget}

theorem transact_cases {α : Type} {x : Transaction α} {raised : Option MediaTask × List MediaObservation}
    {next : α → Option MediaTask × List MediaObservation}
    (h : Outcome.transact ledger answer (.transaction x) raised next = some r) :
    r = ⟨ledger, raised.1, []⟩ ∨ r = ⟨ledger, raised.1, raised.2⟩ ∧ (∃ e s, x.run ledger = .error e s) ∨
    ∃ a ledger', x.run ledger = .ok a ledger' ∧ r = ⟨ledger', (next a).1, (next a).2⟩ := by
  cases answer <;> simp only [Outcome.transact, EStateM.transaction_run] at h
  case databaseError => exact .inl (Option.some.inj h).symm
  case ok =>
    cases hx : x.run ledger <;> simp only [hx] at h
    case ok a ledger' => exact .inr <| .inr ⟨a, ledger', rfl, (Option.some.inj h).symm⟩
    case error e s    => exact .inr <| .inl ⟨(Option.some.inj h).symm, e, s, rfl⟩
  all_goals cases h

theorem execute_cases {next : Outcome} (h : Outcome.execute ledger answer next = some r) :
    r = ⟨ledger, none, []⟩ ∨ r = next := by
  cases answer <;> simp only [Outcome.execute] at h
  case databaseError => exact .inl (Option.some.inj h).symm
  case ok            => exact .inr (Option.some.inj h).symm
  all_goals cases h

theorem intent_move {expired : String → Nat → Bool}
    (h : (intent c).step ledger expired answer = some r) : Move ledger (.intent c) r := by
  obtain rfl | ⟨rfl, _⟩ | ⟨a, ledger', hx, rfl⟩ := transact_cases h
  case inl | inr.inl => exact .ended
  cases hl : AList.lookup c.operationId ledger
  case some row =>
    by_cases hp : row.generation = c.generation ∧ row.phase = .active
    case neg => simp [Ledger.get, hl, hp] at hx
    case pos =>
      obtain ⟨rfl, rfl⟩ := by simpa [Ledger.get, hl, hp] using hx
      cases hs : row.sessionId
      case none   => exact .ended
      case some i => exact .existing hl hp.right
  case none =>
    cases hu : ledger.any fun _ row => row.unresolved
    case true => simp [Ledger.get, hl, hu] at hx
    case false =>
      have hn := Table.any_eq_false_iff.mp hu
      have hw : ledger.Sets c.operationId ⟨c.generation, .creating, none, none, false, false⟩ _ :=
        Ledger.sets_write_new hl
      cases hr : c.recoveryId
      case none =>
        obtain ⟨rfl, rfl⟩ := by simpa [Ledger.get, hl, hu, hr] using hx
        exact .admitted hl (hn _ _) (hr ▸ hw)
      case some p =>
        obtain ⟨rfl, rfl⟩ := by simpa [Ledger.get, hl, hu, hr] using hx
        refine .admitted hl (hn _ _) fun id' => ?_
        rw [Table.lookup_update, hw id']
        by_cases hi : id' = c.operationId <;> simp [hi, hr]

theorem failed_move {expired : String → Nat → Bool} {allocatedId : Option SenderId}
    (h : (allocationFailed c allocatedId).step ledger expired answer = some r) :
    Move ledger (.allocationFailed c allocatedId) r := by
  have ht : ((allocatedId <|> c.recoveryId).map fun id =>
      stop ⟨c.operationId, id, c.generation⟩ .acquire []).all
      fun task => task matches .stop _ .acquire _ := by
    cases allocatedId <|> c.recoveryId <;> rfl
  obtain rfl | ⟨rfl, _⟩ | ⟨a, ledger', hx, rfl⟩ := transact_cases h
  case inl | inr.inl => exact .ended
  cases hl : AList.lookup c.operationId ledger
  case none =>
    obtain rfl : ledger = ledger' := by simpa [Ledger.get, hl] using hx
    exact .failedUnrecorded ht
  case some row =>
    cases hs : row.sessionId
    case some i =>
      obtain rfl : ledger = ledger' := by simpa [Ledger.get, hl, hs] using hx
      exact .failedUnrecorded ht
    case none =>
      by_cases hp : row.generation = c.generation ∧ row.phase.open = true
      case neg =>
        obtain rfl : ledger = ledger' := by simpa [Ledger.get, hl, hs, hp] using hx
        exact .failedUnrecorded ht
      case pos =>
        obtain rfl : ledger.write c.operationId c.generation .uncertain (allocatedId <|> c.recoveryId) =
            ledger' := by simpa [Ledger.get, hl, hs, hp] using hx
        have hn : row.phase ≠ .stopped := fun h => by simp [h, Phase.open] at hp
        exact .failed hl hn hs (hp.left ▸ Ledger.sets_write hl) ht

theorem mismatch_move {sessionId : SenderId} (hr : c.recoveryId.any (· ≠ sessionId))
    (h : Outcome.transact ledger answer (c.mismatch sessionId) (none, [.finished c sessionId])
      (fun _ => (some (stop ⟨c.operationId, sessionId, c.generation⟩ .acquire []),
        [.finished c sessionId])) = some r) : Move ledger (.allocated c sessionId) r := by
  obtain rfl | ⟨rfl, e, s, hx⟩ | ⟨a, ledger', hx, rfl⟩ := transact_cases h
  case inl => exact .ended
  case inr.inl =>
    refine .mismatchDropped hr fun {row} hl hg => ?_
    by_contra hp
    simp [Ledger.get, hl, hg, hp] at hx
  case inr.inr =>
    cases hl : AList.lookup c.operationId ledger
    case none => simp [Ledger.get, hl] at hx
    case some row =>
      by_cases hg : row.generation = c.generation
      case neg => simp [Ledger.get, hl, hg] at hx
      cases hp : row.phase.open
      case false => simp [Ledger.get, hl, hg, hp] at hx
      case true =>
        obtain rfl : ledger.write c.operationId c.generation .uncertain (some sessionId) = ledger' := by
          simpa [Ledger.get, hl, hg, hp] using hx
        exact .mismatched hr hl hp (hg ▸ Ledger.sets_write hl)

theorem finalize_move {sessionId : SenderId} {expired : Bool} (hr : c.recoveryId.all (· = sessionId))
    (h : Outcome.transact ledger answer (c.finalize sessionId expired) (none, [])
      (fun
        | true  => (none, [.finished c sessionId, .created c.operationId c.generation sessionId])
        | false => (some (stop ⟨c.operationId, sessionId, c.generation⟩ .acquire []),
            [.finished c sessionId])) = some r) : Move ledger (.allocated c sessionId) r := by
  obtain rfl | ⟨rfl, _⟩ | ⟨a, ledger', hx, rfl⟩ := transact_cases h
  case inl | inr.inl => exact .ended
  by_cases hp : ∃ row, AList.lookup c.operationId ledger = some row ∧ row.generation = c.generation ∧
    row.phase = .creating ∧ expired = false
  case pos =>
    obtain ⟨row, hl, hg, hp, rfl⟩ := hp
    obtain ⟨rfl, rfl⟩ : true = a ∧
        ledger.write c.operationId c.generation .active (some sessionId) = ledger' := by
      simpa [Ledger.get, hl, hg, hp] using hx
    exact .activated hr hl hp (hg ▸ Ledger.sets_write hl)
  case neg =>
    obtain ⟨rfl, rfl⟩ : false = a ∧
        ledger.write c.operationId c.generation .stopping (some sessionId) = ledger' := by
      cases hl : AList.lookup c.operationId ledger
      case none => simpa [Ledger.get, hl] using hx
      case some row =>
        have hn : ¬((row.generation = c.generation ∧ row.phase = .creating) ∧ expired = false) :=
          fun ⟨⟨hg, hc⟩, he⟩ => hp ⟨row, hl, hg, hc, he⟩
        simpa [Ledger.get, hl, hn] using hx
    refine .revoked hr ?_ ?_ (fun _ => Ledger.lookup_write)
    · rfl
    · intro row hl hg
      simp [hl, hg]

theorem allocated_move {sessionId : SenderId} {expired : String → Nat → Bool}
    (h : (allocated c sessionId).step ledger expired answer = some r) :
    Move ledger (.allocated c sessionId) r := by
  simp only [step] at h
  split at h
  case isTrue hr  => exact mismatch_move hr h
  case isFalse hr =>
    refine finalize_move ?_ h
    cases hc : c.recoveryId <;> simp_all

theorem allocating_move {expired : String → Nat → Bool}
    (h : (allocating c).step ledger expired answer = some r) : Move ledger (.allocating c) r := by
  cases answer <;> simp only [step] at h
  case allocated value =>
    split at h <;> cases h
    · exact .allocated
    · exact .allocationRaised
  case allocateRaised t =>
    cases t <;> simp only at h
    case none => cases h; exact .allocationRaised
    case some =>
      split at h <;> cases h <;> exact .allocationRaised
  all_goals cases h

theorem cancel_move {operationId : String} {generation : Nat} {waitForStop : Bool}
    {expired : String → Nat → Bool}
    (h : (cancel operationId generation waitForStop).step ledger expired answer = some r) :
    Move ledger (.cancel operationId generation waitForStop) r := by
  obtain rfl | ⟨rfl, _⟩ | ⟨a, ledger', hx, rfl⟩ := transact_cases h
  case inl | inr.inl => exact .ended
  cases hl : AList.lookup operationId ledger
  case none =>
    obtain ⟨rfl, rfl⟩ := by simpa [Ledger.get, hl] using hx
    exact .tombstoned hl (Ledger.sets_write_new hl)
  case some row =>
    by_cases hg : row.generation = generation
    case neg => simp [Ledger.get, hl, hg] at hx
    subst hg
    cases hp : row.phase
    case creating =>
      obtain ⟨rfl, rfl⟩ := by simpa [Ledger.get, hl, hp] using hx
      exact .cancelled hl (.inl rfl) (.inr ⟨hp, rfl⟩) (by simp [hp]) (Ledger.sets_write hl) rfl
    case stopped =>
      cases hs : row.sessionId
      case none =>
        obtain ⟨rfl, rfl⟩ := by simpa [Ledger.get, hl, hp, hs] using hx
        exact .cancelledStopped hl hp
      case some i =>
        cases hv : row.stopVerified
        case true =>
          obtain ⟨rfl, rfl⟩ := by simpa [Ledger.get, hl, hp, hs, hv] using hx
          exact .cancelledVerified hl rfl hp hs hv
        case false =>
          obtain ⟨rfl, rfl⟩ := by simpa [Ledger.get, hl, hp, hs, hv] using hx
          have hw := Ledger.sets_write (p := .uncertain) (s := some i) hl
          have hl' := (hw operationId).trans (if_pos rfl)
          have hw' := hw.trans <| Ledger.sets_write (p := .stopping) (s := some i) hl'
          refine .cancelled hl (.inl rfl) (.inl hs.symm) (by simp [hs, hv]) hw' ?_
          cases waitForStop <;> rfl
    all_goals
      cases hs : row.sessionId
      case none =>
        obtain ⟨rfl, rfl⟩ := by simpa [Ledger.get, hl, hp, hs] using hx
        exact .cancelled hl (.inr rfl) (.inl hs.symm) (by simp [hp]) (Ledger.sets_write hl) rfl
      case some i =>
        obtain ⟨rfl, rfl⟩ := by simpa [Ledger.get, hl, hp, hs] using hx
        refine .cancelled hl (.inl rfl) (.inl hs.symm) (by simp [hp]) (Ledger.sets_write hl) ?_
        cases waitForStop <;> rfl

theorem current_iff : target.current ledger = true ↔
    ∃ row, AList.lookup target.operationId ledger = some row ∧ row.generation = target.generation ∧
      row.phase = .stopping ∧ row.sessionId = some target.sessionId := by
  rw [StopTarget.current, decide_eq_true_iff, Ledger.get_eq_some_iff]

theorem read_move (h : target.finishStop rest ledger answer .read = some r) :
    Move ledger (.stop target .read rest) r := by
  obtain rfl | rfl := execute_cases h
  case inl => exact .ended
  cases hl : AList.lookup target.operationId ledger
  case none => simpa [Ledger.get, hl] using Move.ended
  case some row =>
    by_cases ht : row.generation = target.generation ∧ row.sessionId = some target.sessionId
    case neg => simpa [Ledger.get, hl, ← not_and_or, ht] using Move.ended
    cases hp : row.phase <;> simp only [Ledger.get, hl, ht, hp, Option.map_some]
    case stopped  => simpa using Move.readStopped hl ht.left ht.right hp
    case creating => simpa using Move.ended
    all_goals simpa using Move.readOpen hl ht.left ht.right (by simp [hp])

theorem readVerified_move (h : target.finishStop rest ledger answer .readVerified = some r) :
    Move ledger (.stop target .readVerified rest) r := by
  obtain rfl | rfl := execute_cases h
  case inl => exact .ended
  cases hl : AList.lookup target.operationId ledger
  case none => exact .ended
  case some row =>
    cases hv : row.stopVerified
    case true  => simpa [hv, StopTarget.returned] using Move.verified hl hv
    case false => simpa [hv] using Move.unverified hl hv

theorem markUncertain_move (h : target.finishStop rest ledger answer .markUncertain = some r) :
    Move ledger (.stop target .markUncertain rest) r := by
  obtain rfl | rfl := execute_cases h
  case inl => exact .ended
  case inr => exact .markedUncertain rfl rfl fun _ => Ledger.lookup_write

theorem reread_move (h : target.finishStop rest ledger answer .reread = some r) :
    Move ledger (.stop target .reread rest) r := by
  obtain rfl | rfl := execute_cases h
  case inl => exact .ended
  split <;> first | exact .reread | exact .ended

theorem markStopping_move (h : target.finishStop rest ledger answer .markStopping = some r) :
    Move ledger (.stop target .markStopping rest) r := by
  obtain rfl | rfl := execute_cases h
  case inl => exact .ended
  refine .markedStopping rfl rfl ?_ fun _ => Ledger.lookup_write
  intro row hl hg
  simp [hl, hg]

theorem readIdentities_move (h : target.finishStop rest ledger answer .readIdentities = some r) :
    Move ledger (.stop target .readIdentities rest) r := by
  obtain rfl | rfl := execute_cases h
  case inl => exact .ended
  cases hl : AList.lookup target.operationId ledger
  case none => exact .ended
  case some row =>
    by_cases hg : row.generation = target.generation
    case neg => simpa [hg] using Move.ended
    cases ha : row.actualStopConfirmed
    case false => simpa [hg, ha] using Move.identified hl hg
    case true =>
      cases hp : row.preassignedSessionId.filter (· ≠ target.sessionId)
      case none =>
        simp only [hg, ha, hp, ne_eq, not_true_eq_false, Bool.not_true, Bool.false_eq_true, if_false]
        exact .identifiedInvalid
      case some p =>
        obtain ⟨hs, hn⟩ := by simpa [Option.filter_eq_some_iff] using hp
        simp only [hg, ha, hp, ne_eq, not_true_eq_false, Bool.not_true, Bool.false_eq_true, if_false]
        exact .identifiedConfirmed hl hg ha hs hn

theorem stopActual_move {preassigned : Option SenderId}
    (h : target.finishStop rest ledger answer (.stopActual preassigned) = some r) :
    Move ledger (.stop target (.stopActual preassigned) rest) r := by
  cases answer <;> simp only [StopTarget.finishStop, Option.some.injEq, reduceCtorEq] at h
  case stopRaised isException =>
    subst h
    cases isException
    case false => exact .ended
    case true  => exact .failing (by simp) (by simp)
  case receipt receipt =>
    subst h
    cases hv : receipt.validate target
    case false => simpa [hv] using Move.failing (by simp) (by simp)
    case true =>
      cases hp : preassigned.filter (· ≠ target.sessionId)
      case none =>
        refine .stoppedOnly hv fun {p} h => ?_
        simpa [h, Option.filter] using hp
      case some p =>
        obtain ⟨rfl, hn⟩ := by simpa [Option.filter_eq_some_iff] using hp
        simpa [hp] using Move.stoppedActual hv hn

theorem stopPreassigned_move {preassigned : SenderId}
    (h : target.finishStop rest ledger answer (.stopPreassigned preassigned) = some r) :
    Move ledger (.stop target (.stopPreassigned preassigned) rest) r := by
  cases answer <;> simp only [StopTarget.finishStop, Option.some.injEq, reduceCtorEq] at h
  case stopRaised isException =>
    subst h
    cases isException
    case false => exact .ended
    case true  => exact .failing (by simp) (by simp)
  case receipt receipt =>
    subst h
    cases hv : receipt.validate { target with sessionId := preassigned }
    case false => exact .failing (by simp) (by simp)
    case true  => exact .stoppedPreassigned hv

theorem confirmActual_move {preassigned : SenderId}
    (h : target.finishStop rest ledger answer (.confirmActual preassigned) = some r) :
    Move ledger (.stop target (.confirmActual preassigned) rest) r := by
  obtain rfl | ⟨rfl, _⟩ | ⟨a, ledger', hx, rfl⟩ := transact_cases h
  case inl | inr.inl => exact .failing (by simp) (by simp)
  cases hc : target.current ledger
  case false => simp [hc] at hx
  case true =>
    have ⟨row, hl, hg, hp, hs⟩ := current_iff.mp hc
    obtain rfl := by simpa [hc] using hx
    exact .confirmedActual hl hg hp hs (hg ▸ Ledger.sets_assign hl)

theorem fail_move (h : target.finishStop rest ledger answer .fail = some r) :
    Move ledger (.stop target .fail rest) r := by
  obtain rfl | ⟨rfl, _⟩ | ⟨a, ledger', hx, rfl⟩ := transact_cases h
  case inl | inr.inl => exact .ended
  cases hc : target.current ledger
  case false =>
    obtain rfl : ledger = ledger' := by simpa [hc] using hx
    exact .ended
  case true =>
    have ⟨row, hl, hg, hp, hs⟩ := current_iff.mp hc
    obtain rfl := by simpa [hc] using hx
    refine .failedStop hl hp hs ?_
    rw [← hg, ← hs]
    exact Ledger.sets_write hl

theorem confirm_move (h : target.finishStop rest ledger answer .confirm = some r) :
    Move ledger (.stop target .confirm rest) r := by
  obtain rfl | ⟨rfl, _⟩ | ⟨a, ledger', hx, rfl⟩ := transact_cases h
  case inl | inr.inl => exact .ended
  cases hc : target.current ledger
  case false => simp [hc] at hx
  case true =>
    have ⟨row, hl, hg, hp, hs⟩ := current_iff.mp hc
    obtain rfl := by simpa [hc] using hx
    have hw := Ledger.sets_write (p := .stopped) (s := row.sessionId) hl
    have hl' := (hw target.operationId).trans (if_pos rfl)
    refine .confirmed hl hg hp hs ?_
    rw [← hg, ← hs]
    exact hw.trans <| Ledger.sets_assign (f := ({ · with stopVerified := true })) hl'

theorem stop_move {point : StopPoint} (h : target.finishStop rest ledger answer point = some r) :
    Move ledger (.stop target point rest) r := by
  cases point
  case acquire         => simp [StopTarget.finishStop] at h
  case read            => exact read_move h
  case readVerified    => exact readVerified_move h
  case markUncertain   => exact markUncertain_move h
  case reread          => exact reread_move h
  case markStopping    => exact markStopping_move h
  case readIdentities  => exact readIdentities_move h
  case stopActual      => exact stopActual_move h
  case confirmActual   => exact confirmActual_move h
  case stopPreassigned => exact stopPreassigned_move h
  case fail            => exact fail_move h
  case confirm         => exact confirm_move h

theorem step_move {task : MediaTask} {expired : String → Nat → Bool}
    (h : task.step ledger expired answer = some r) : Move ledger task r := by
  cases task
  case intent           => exact intent_move h
  case allocating       => exact allocating_move h
  case allocated        => exact allocated_move h
  case allocationFailed => exact failed_move h
  case cancel           => exact cancel_move h
  case stop             => exact stop_move h
  case reconcile =>
    obtain rfl | rfl := execute_cases h
    · exact .ended
    · exact .reconciled

-- The tasks whose next step is one statement or one transaction that leads nowhere else on an error.
def queries : MediaTask → Bool
  | allocated .. | stop _ .markStopping _ => true
  | _ => false

theorem step_refused {task : MediaTask} {expired : String → Nat → Bool} (ha : answer ≠ .ok)
    (hq : task.queries = true) (h : task.step ledger expired answer = some r) :
    r = ⟨ledger, none, []⟩ := by
  have he : ∀ {next}, Outcome.execute ledger answer next = some r → r = ⟨ledger, none, []⟩ := by
    intro next h
    cases answer <;> simp_all [Outcome.execute]
  have ht : ∀ {α} {x : Transaction α} {seen next},
      Outcome.transact ledger answer x (none, seen) next = some r → r = ⟨ledger, none, []⟩ := by
    intro α x seen next h
    cases answer <;> simp_all [Outcome.transact]
  cases task
  case allocated =>
    simp only [step] at h
    split at h
    · exact ht h
    · exact ht h
  case stop point _ =>
    cases point
    case markStopping => exact he h
    all_goals cases hq
  all_goals cases hq

-- Tasks that a call starts with, and what they are once they have the lock file.
def starts : MediaTask → Bool
  | intent _ | cancel .. | reconcile | stop _ .acquire _ | stop _ .read _ => true
  | _ => false

end MediaTask

namespace MediaLifecycle

-- Everything that one event can do.
inductive Transition (s : MediaLifecycle) : MediaEvent → MediaLifecycle → List MediaObservation → Prop
  | quarantined {e running} :
    Transition s e { s with ledger := s.ledger.quarantine, running } [.quarantined s.ledger.keys]
  | expired {e expired} : Transition s e { s with expired } []
  | crashed {e process running expired} :
    Transition s e {
      ledger   := s.ledger
      threads  := fun i => (s.threads i).filter (·.process ≠ process)
      stopLock := s.stopLock.filter fun i => (s.threads i).any (·.process ≠ process)
      running, expired } []
  | started {e i process task} :
    (task.all (·.starts)) → (task.any (·.exclusive) → s.stopLock = none) →
    Transition s e (s.setTask i process task) []
  | moved {i thread answer r} :
    (s.threads i = some thread) → (thread.task.Move s.ledger r) →
    -- Without its answer a statement or a transaction does nothing.
    (answer ≠ .ok → thread.task.queries = true → r = ⟨s.ledger, none, []⟩) →
    Transition s (.step i answer) ({ s with ledger := r.ledger }.setTask i thread.process r.task) r.seen

variable {s s' : MediaLifecycle} {e : MediaEvent} {o : List MediaObservation} {i process : Nat}

theorem spawn_transition {task : MediaTask} (ht : task.starts = true) (hx : task.exclusive = false)
    (h : s.spawn i process task = some (s', o)) : Transition s e s' o := by
  simp only [spawn] at h
  split at h <;> cases h
  exact .started (by simpa using ht) (by simp [hx])

theorem acquire_transition {target : StopTarget} {rest : List StopTarget} :
    Transition s e (s.acquire i process target rest) [] := by
  simp only [acquire]
  cases hl : s.stopLock
  case none   => exact .started (by simp [MediaTask.starts]) (fun _ => hl)
  case some j => exact .started (by simp) (by simp)

theorem stepThread_transition {thread : MediaThread} {answer : Answer} (hi : s.threads i = some thread)
    (h : s.stepThread i thread answer = some (s', o)) : Transition s (.step i answer) s' o := by
  simp only [stepThread] at h
  split at h
  case h_1 =>
    cases h
    exact acquire_transition
  case h_2 =>
    split at h
    case isTrue => cases h
    case isFalse =>
      have ⟨r, hr, he⟩ := Option.map_eq_some_iff.mp h
      cases he
      exact .moved hi (MediaTask.step_move hr) fun ha hq => MediaTask.step_refused ha hq hr

theorem step_transition (h : machine.step s e = some (s', o)) : Transition s e s' o := by
  cases e <;> simp only [machine] at h
  case start =>
    split at h <;> cases h
    exact .quarantined
  case crash =>
    cases h
    exact .crashed
  case deadline =>
    cases h
    exact .expired
  case create =>
    split at h
    · cases h
    · exact spawn_transition rfl rfl h
  case cancel =>
    split at h
    · cases h
    · exact spawn_transition rfl rfl h
  case reconcile  => exact spawn_transition rfl rfl h
  case finishStop => exact spawn_transition rfl rfl h
  case step i answer =>
    obtain ⟨thread, hi, h⟩ := Option.bind_eq_some_iff.mp h
    exact stepThread_transition hi h

end MediaLifecycle
