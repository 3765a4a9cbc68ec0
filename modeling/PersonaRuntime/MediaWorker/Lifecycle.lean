import Mathlib.Logic.Function.Basic
import PersonaRuntime.Machine.Basic
import PersonaRuntime.MediaWorker.Ledger

structure StopReceipt where
  operationId  : String
  sessionId    : String
  generation   : Nat
  audioStopped : Bool
  videoStopped : Bool
deriving DecidableEq, Repr

-- `_validate`
def StopReceipt.validate (receipt : StopReceipt) (target : StopTarget) : Bool :=
  receipt.operationId = target.operationId && receipt.sessionId = target.sessionId.value &&
    receipt.generation = target.generation && receipt.audioStopped && receipt.videoStopped

-- Where `_finish_stop` stands. From `read` on it holds the lock file of the ledger, and from its
-- first statement to `readIdentities` also the lock of its process. The statements in between are
-- not in a transaction.
inductive StopPoint
  | acquire
  | read
  | readVerified
  | markUncertain
  | reread
  | markStopping
  | readIdentities
  | stopActual (preassigned : Option SenderId)
  | confirmActual (preassigned : SenderId)
  | stopPreassigned (preassigned : SenderId)
  | fail
  | confirm
deriving DecidableEq

inductive MediaTask
  | intent (c : CreateCall)
  | allocating (c : CreateCall)
  | allocated (c : CreateCall) (sessionId : SenderId)
  | allocationFailed (c : CreateCall) (allocatedId : Option SenderId)
  | cancel (operationId : String) (generation : Nat) (waitForStop : Bool)
  | reconcile
  -- `rest` is what a call of `reconcile` has still to stop afterwards.
  | stop (target : StopTarget) (point : StopPoint) (rest : List StopTarget)
deriving DecidableEq

namespace MediaTask

-- Tasks that hold the lock file.
def exclusive : MediaTask → Bool
  | stop _ .acquire _ => false
  | stop ..           => true
  | _                 => false

-- Tasks that keep the lock of their process until their next step.
def locked : MediaTask → Bool
  | stop _ .readVerified _ | stop _ .markUncertain _ | stop _ .reread _ | stop _ .markStopping _
  | stop _ .readIdentities _ => true
  | _ => false

-- Tasks whose next step is taken without the lock of their process.
def unlocked : MediaTask → Bool
  | allocating _ | stop _ .acquire _ | stop _ (.stopActual _) _ | stop _ (.stopPreassigned _) _ => true
  | _ => false

def stopAll : List StopTarget → Option MediaTask
  | []             => none
  | target :: rest => some (stop target .acquire rest)

end MediaTask

-- What the world outside of a step decides.
inductive Answer
  | ok
  -- The database refuses the statement or the transaction.
  | databaseError
  | allocated (sessionId : String)
  -- `allocate` raises, possibly an `AllocatedSessionError`.
  | allocateRaised (allocated : Option StopTarget)
  | receipt (receipt : StopReceipt)
  -- `stop` raises. What is not an `Exception` passes the handler of `_finish_stop` by.
  | stopRaised (isException : Bool)
deriving DecidableEq

inductive MediaObservation
  -- `create` returned the session.
  | created (operationId : String) (generation : Nat) (sessionId : SenderId)
  -- The last transaction of a `create` ran for the session that was allocated.
  | finished (c : CreateCall) (sessionId : SenderId)
  | cancelCommitted (operationId : String) (generation : Nat)
  | quarantined (operationIds : List String)
  -- The backend returned this receipt when it was asked to stop the target.
  | stopAnswered (target : StopTarget) (receipt : StopReceipt)
  -- `cancel` or `_finish_stop` returned the receipt of the target.
  | receiptReturned (target : StopTarget)
deriving DecidableEq

structure Outcome where
  ledger : Ledger
  -- What the thread does next. It ends when a call returns or raises.
  task   : Option MediaTask
  seen   : List MediaObservation

namespace Outcome

-- Runs a transaction of a thread. `raised` is where an error leads to.
def transact {α : Type} (ledger : Ledger) (answer : Answer) (x : Transaction α)
    (raised : Option MediaTask × List MediaObservation)
    (next : α → Option MediaTask × List MediaObservation) : Option Outcome :=
  match answer with
  | .databaseError => some ⟨ledger, raised.1, []⟩
  | .ok =>
    match x.run ledger with
    | .ok a ledger    => some ⟨ledger, (next a).1, (next a).2⟩
    | .error _ ledger => some ⟨ledger, raised.1, raised.2⟩
  | _ => none

-- Runs a statement outside of a transaction.
def execute (ledger : Ledger) (answer : Answer) (next : Outcome) : Option Outcome :=
  match answer with
  | .databaseError => some ⟨ledger, none, []⟩
  | .ok            => some next
  | _              => none

end Outcome

namespace StopTarget

def returned (target : StopTarget) (rest : List StopTarget) : Option MediaTask × List MediaObservation :=
  (MediaTask.stopAll rest, [.receiptReturned target])

-- `_finish_stop`, one statement, transaction or backend call at a time.
def finishStop (target : StopTarget) (rest : List StopTarget) (ledger : Ledger) (answer : Answer) :
    StopPoint → Option Outcome
  | .acquire => none
  | .read =>
    Outcome.execute ledger answer <|
      match ledger.get target.operationId with
      | none => ⟨ledger, none, []⟩
      | some (generation, phase, sessionId) =>
        if generation ≠ target.generation ∨ sessionId ≠ some target.sessionId then
          ⟨ledger, none, []⟩
        else match phase with
          | .stopped  => ⟨ledger, some (.stop target .readVerified rest), []⟩
          | .creating => ⟨ledger, none, []⟩
          | .active | .stopping | .uncertain => ⟨ledger, some (.stop target .markStopping rest), []⟩
  | .readVerified =>
    Outcome.execute ledger answer <|
      match AList.lookup target.operationId ledger with
      | none => ⟨ledger, none, []⟩
      | some row =>
        if row.stopVerified then ⟨ledger, (target.returned rest).1, (target.returned rest).2⟩
        else ⟨ledger, some (.stop target .markUncertain rest), []⟩
  | .markUncertain =>
    Outcome.execute ledger answer {
      ledger := ledger.write target.operationId target.generation .uncertain target.sessionId
      task   := some (.stop target .reread rest)
      seen   := [] }
  | .reread =>
    Outcome.execute ledger answer <|
      match ledger.get target.operationId with
      | some (_, .active, _) | some (_, .stopping, _) | some (_, .uncertain, _) =>
        ⟨ledger, some (.stop target .markStopping rest), []⟩
      | _ => ⟨ledger, none, []⟩
  | .markStopping =>
    Outcome.execute ledger answer {
      ledger := ledger.write target.operationId target.generation .stopping target.sessionId
      task   := some (.stop target .readIdentities rest)
      seen   := [] }
  | .readIdentities =>
    Outcome.execute ledger answer <|
      match AList.lookup target.operationId ledger with
      | none => ⟨ledger, none, []⟩
      | some row =>
        if row.generation ≠ target.generation then
          ⟨ledger, none, []⟩
        else if !row.actualStopConfirmed then
          ⟨ledger, some (.stop target (.stopActual row.preassignedSessionId) rest), []⟩
        else match row.preassignedSessionId.filter (· ≠ target.sessionId) with
          | none             => ⟨ledger, some (.stop target .fail rest), []⟩
          | some preassigned => ⟨ledger, some (.stop target (.stopPreassigned preassigned) rest), []⟩
  | .stopActual preassigned =>
    match answer with
    | .receipt receipt => some {
        ledger
        task :=
          if !receipt.validate target then some (.stop target .fail rest)
          else match preassigned.filter (· ≠ target.sessionId) with
            | none             => some (.stop target .confirm rest)
            | some preassigned => some (.stop target (.confirmActual preassigned) rest)
        seen := [.stopAnswered target receipt] }
    | .stopRaised isException =>
      some ⟨ledger, if isException then some (.stop target .fail rest) else none, []⟩
    | _ => none
  | .confirmActual preassigned =>
    Outcome.transact ledger answer target.confirmActual (some (.stop target .fail rest), [])
      fun _ => (some (.stop target (.stopPreassigned preassigned) rest), [])
  | .stopPreassigned preassigned =>
    let promised := { target with sessionId := preassigned }
    match answer with
    | .receipt receipt => some {
        ledger
        task := some (.stop target (if receipt.validate promised then .confirm else .fail) rest)
        seen := [.stopAnswered promised receipt] }
    | .stopRaised isException =>
      some ⟨ledger, if isException then some (.stop target .fail rest) else none, []⟩
    | _ => none
  | .fail =>
    Outcome.transact ledger answer target.fail (none, []) fun _ => (none, [])
  | .confirm =>
    Outcome.transact ledger answer target.confirm (none, []) fun _ => target.returned rest

end StopTarget

namespace MediaTask

-- One step of a thread, except for taking the lock file. `expired` says whether the HTTP deadline of
-- a `create` has passed in the process of the thread.
def step (ledger : Ledger) (expired : String → Nat → Bool) (answer : Answer) :
    MediaTask → Option Outcome
  | intent c =>
    Outcome.transact ledger answer c.intent (none, []) fun
      | .existing (some sessionId) => (none, [.created c.operationId c.generation sessionId])
      | .existing none             => (none, [])
      | .admitted                  => (some (allocating c), [])
  | allocating c =>
    match answer with
    | .allocated value =>
      match SenderId.new value with
      | some sessionId => some ⟨ledger, some (allocated c sessionId), []⟩
      | none           => some ⟨ledger, some (allocationFailed c none), []⟩
    | .allocateRaised none => some ⟨ledger, some (allocationFailed c none), []⟩
    | .allocateRaised (some target) =>
      -- An error about another operation or generation is not trusted.
      if target.operationId = c.operationId ∧ target.generation = c.generation then
        some ⟨ledger, some (allocationFailed c target.sessionId), []⟩
      else
        some ⟨ledger, some (allocationFailed c none), []⟩
    | _ => none
  | allocationFailed c allocatedId =>
    let cleanupId := allocatedId <|> c.recoveryId
    Outcome.transact ledger answer (c.failed cleanupId) (none, []) fun _ =>
      (cleanupId.map fun id => stop ⟨c.operationId, id, c.generation⟩ .acquire [], [])
  | allocated c sessionId =>
    let target : StopTarget := ⟨c.operationId, sessionId, c.generation⟩
    if c.recoveryId.any (· ≠ sessionId) then
      Outcome.transact ledger answer (c.mismatch sessionId) (none, [.finished c sessionId]) fun _ =>
        (some (stop target .acquire []), [.finished c sessionId])
    else
      Outcome.transact ledger answer
        (c.finalize sessionId (expired c.operationId c.generation)) (none, []) fun
        | true  => (none, [.finished c sessionId, .created c.operationId c.generation sessionId])
        | false => (some (stop target .acquire []), [.finished c sessionId])
  | cancel operationId generation waitForStop =>
    let committed := MediaObservation.cancelCommitted operationId generation
    Outcome.transact ledger answer (cancelOperation operationId generation) (none, []) fun
      | .unconfirmed    => (none, [committed])
      | .receipt target => (none, [committed, .receiptReturned target])
      | .stop target    => (if waitForStop then some (stop target .acquire []) else none, [committed])
  | reconcile =>
    Outcome.execute ledger answer {
      ledger
      task := stopAll <| ledger.entries.filterMap fun ⟨operationId, row⟩ =>
        if row.phase = .stopping ∨ row.phase = .uncertain then
          row.sessionId.map fun sessionId => ⟨operationId, sessionId, row.generation⟩
        else none
      seen := [] }
  | stop target point rest => target.finishStop rest ledger answer point

end MediaTask

structure MediaThread where
  process : Nat
  task    : MediaTask

-- The workers that share one ledger.
structure MediaLifecycle where
  ledger   : Ledger
  threads  : Nat → Option MediaThread
  stopLock : Option Nat
  running  : Nat → Bool
  expired  : Nat → String → Nat → Bool

inductive MediaEvent
  -- A worker process starts and calls `quarantine_after_restart`.
  | start (process : Nat)
  | crash (process : Nat)
  -- A bounded `create` marks its deadline as expired or takes the mark back.
  | deadline (process : Nat) (operationId : String) (generation : Nat) (expired : Bool)
  -- Calls from outside. The candidate is what `recovery_session_id` returns, if the backend has it.
  | create (thread process : Nat) (operationId : String) (generation : Nat)
    (candidate : Option String)
  | cancel (thread process : Nat) (operationId : String) (generation : Nat) (waitForStop : Bool)
  | reconcile (thread process : Nat)
  | finishStop (thread process : Nat) (target : StopTarget)
  | step (thread : Nat) (answer : Answer)
deriving DecidableEq

namespace MediaLifecycle

def initial : MediaLifecycle where
  ledger        := ∅
  threads _     := none
  stopLock      := none
  running _     := false
  expired _ _ _ := false

-- Whether the lock of a process is held by the thread that holds the lock file.
def locked (s : MediaLifecycle) (process : Nat) : Bool :=
  ((s.stopLock.bind s.threads).any fun thread => thread.process = process && thread.task.locked)

def setTask (s : MediaLifecycle) (i process : Nat) (task : Option MediaTask) : MediaLifecycle :=
  { s with
    threads  := Function.update s.threads i (task.map fun task => ⟨process, task⟩)
    stopLock := if task.any (·.exclusive) then some i else s.stopLock.filter (· ≠ i) }

-- A call starts in a running process.
def spawn (s : MediaLifecycle) (i process : Nat) (task : MediaTask) :
    Option (MediaLifecycle × List MediaObservation) :=
  if s.running process ∧ (s.threads i).isNone then some (s.setTask i process (some task), []) else none

-- `_exclusive_stop`: a caller that does not get the lock raises.
def acquire (s : MediaLifecycle) (i process : Nat) (target : StopTarget) (rest : List StopTarget) :
    MediaLifecycle :=
  s.setTask i process (if s.stopLock.isNone then some (.stop target .read rest) else none)

def stepThread (s : MediaLifecycle) (i : Nat) (thread : MediaThread) (answer : Answer) :
    Option (MediaLifecycle × List MediaObservation) :=
  match thread.task with
  | .stop target .acquire rest => some (s.acquire i thread.process target rest, [])
  | task =>
    if !task.unlocked && s.locked thread.process && s.stopLock ≠ some i then none
    else
      (task.step s.ledger (s.expired thread.process) answer).map fun r =>
        ({ s with ledger := r.ledger }.setTask i thread.process r.task, r.seen)

def machine : Machine MediaLifecycle MediaEvent MediaObservation where
  init s := s = initial
  step s
    | .start process =>
      if s.running process then none
      else some ({ s with
        ledger  := s.ledger.quarantine
        running := Function.update s.running process true }, [.quarantined s.ledger.keys])
    | .crash process =>
      some ({ s with
        threads  := fun i => (s.threads i).filter (·.process ≠ process)
        stopLock := s.stopLock.filter fun i => (s.threads i).any (·.process ≠ process)
        running  := Function.update s.running process false
        expired  := Function.update s.expired process fun _ _ => false }, [])
    | .deadline process operationId generation expired =>
      some ({ s with expired := Function.update s.expired process fun id n =>
        if id = operationId ∧ n = generation then expired else s.expired process id n }, [])
    | .create i process operationId generation candidate =>
      -- An invalid identity or candidate raises before anything happens.
      if operationId = "" ∨ generation < 1 ∨ candidate = some "" then none
      else s.spawn i process (.intent ⟨operationId, generation, candidate.bind SenderId.new⟩)
    | .cancel i process operationId generation waitForStop =>
      if operationId = "" ∨ generation < 1 then none
      else s.spawn i process (.cancel operationId generation waitForStop)
    | .reconcile i process => s.spawn i process .reconcile
    | .finishStop i process target => s.spawn i process (.stop target .acquire [])
    | .step i answer => do s.stepThread i (← s.threads i) answer

end MediaLifecycle
