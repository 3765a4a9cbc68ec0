import PersonaRuntime.Collections.Table
import PersonaRuntime.Machine.Mutation

-- An opaque id that a backend gave to a sender. An empty answer never becomes one.
structure SenderId where
  value    : String
  nonempty : value ≠ ""
deriving DecidableEq

def SenderId.new (value : String) : Option SenderId :=
  if h : value ≠ "" then some ⟨value, h⟩ else none

inductive Phase
  | creating
  | active
  | stopping
  | stopped
  | uncertain
deriving DecidableEq, Repr

-- A row of `media_operations`.
structure MediaOperation where
  generation           : Nat
  phase                : Phase
  sessionId            : Option SenderId
  preassignedSessionId : Option SenderId
  actualStopConfirmed  : Bool
  stopVerified         : Bool
deriving DecidableEq

-- `phase != 'stopped' OR (session_id IS NOT NULL AND stop_verified=0)`
def MediaOperation.unresolved (row : MediaOperation) : Bool :=
  row.phase != .stopped || (row.sessionId.isSome && !row.stopVerified)

abbrev Ledger := Table String MediaOperation

namespace Ledger

-- `_get`
def get (ledger : Ledger) (operationId : String) : Option (Nat × Phase × Option SenderId) :=
  (AList.lookup operationId ledger).map fun row => (row.generation, row.phase, row.sessionId)

-- `_write`: an upsert that leaves the other three columns of an existing row alone.
def write (ledger : Ledger) (operationId : String) (generation : Nat) (phase : Phase)
    (sessionId : Option SenderId) : Ledger :=
  let row := AList.lookup operationId ledger
  AList.insert operationId {
    generation, phase, sessionId
    preassignedSessionId := row.bind (·.preassignedSessionId)
    actualStopConfirmed  := row.any (·.actualStopConfirmed)
    stopVerified         := row.any (·.stopVerified) } ledger

-- `UPDATE media_operations SET ... WHERE id=? AND generation=?`
def assign (ledger : Ledger) (operationId : String) (generation : Nat)
    (f : MediaOperation → MediaOperation) : Ledger :=
  ledger.update (fun id row => id = operationId && row.generation = generation) fun _ => f

-- The statement of `quarantine_after_restart`.
def quarantine (ledger : Ledger) : Ledger :=
  ledger.update (fun _ row => row.unresolved) fun _ row =>
    { row with phase := .uncertain, sessionId := row.sessionId <|> row.preassignedSessionId }

variable {ledger : Ledger} {id id' : String} {generation : Nat} {phase : Phase}
  {sessionId : Option SenderId}

theorem lookup_write :
    AList.lookup id' (ledger.write id generation phase sessionId) =
      if id' = id then some {
        generation, phase, sessionId
        preassignedSessionId := (AList.lookup id ledger).bind (·.preassignedSessionId)
        actualStopConfirmed  := (AList.lookup id ledger).any (·.actualStopConfirmed)
        stopVerified         := (AList.lookup id ledger).any (·.stopVerified) }
      else AList.lookup id' ledger := by
  split
  case isTrue h  => subst h; simp [write]
  case isFalse h => simp [write, AList.lookup_insert_ne h]

end Ledger

inductive LifecycleError
  | operationExists
  | unresolvedAllocation
  | identityChanged
  | staleOperation
  | stopTargetChanged
deriving DecidableEq, Repr

-- A call of `create` with the id that its backend has preassigned, if any.
structure CreateCall where
  operationId : String
  generation  : Nat
  recoveryId  : Option SenderId
deriving DecidableEq

structure StopTarget where
  operationId : String
  sessionId   : SenderId
  generation  : Nat
deriving DecidableEq

-- `BEGIN IMMEDIATE` ... `COMMIT`
abbrev Transaction := EStateM LifecycleError Ledger

def Phase.open : Phase → Bool
  | creating | stopping | uncertain => true
  | active | stopped => false

namespace CreateCall

inductive Intent
  | existing (sessionId : Option SenderId)
  | admitted

def intent (c : CreateCall) : Transaction Intent :=
  .transaction do
    match (← get).get c.operationId with
    | some (generation, phase, sessionId) =>
      if generation = c.generation ∧ phase = .active then
        return .existing sessionId
      throw .operationExists
    | none =>
      if (← get).any fun _ row => row.unresolved then
        throw .unresolvedAllocation
      modify fun ledger => ledger.write c.operationId c.generation .creating none
      if c.recoveryId.isSome then
        modify fun ledger => ledger.update (fun id _ => id = c.operationId) fun _ row =>
          { row with preassignedSessionId := c.recoveryId }
      return .admitted

-- The transaction after an allocation that raised.
def failed (c : CreateCall) (cleanupId : Option SenderId) : Transaction Unit :=
  .transaction do
    if let some (generation, phase, none) := (← get).get c.operationId then
      if generation = c.generation ∧ phase.open then
        modify fun ledger => ledger.write c.operationId c.generation .uncertain cleanupId

-- The transaction after an allocation that returned another id than the preassigned one.
def mismatch (c : CreateCall) (sessionId : SenderId) : Transaction Unit :=
  .transaction do
    match (← get).get c.operationId with
    | none => throw .identityChanged
    | some (generation, phase, _) =>
      if generation ≠ c.generation ∨ !phase.open then
        throw .identityChanged
      modify fun ledger => ledger.write c.operationId c.generation .uncertain sessionId

-- The last transaction. It returns whether the sender was admitted.
def finalize (c : CreateCall) (sessionId : SenderId) (expired : Bool) : Transaction Bool :=
  .transaction do
    let creating := match (← get).get c.operationId with
      | some (generation, phase, _) => generation = c.generation && phase = .creating
      | none => false
    if creating && !expired then
      modify fun ledger => ledger.write c.operationId c.generation .active sessionId
      return true
    modify fun ledger => ledger.write c.operationId c.generation .stopping sessionId
    return false

end CreateCall

inductive CancelResult
  | unconfirmed
  | receipt (target : StopTarget)
  | stop (target : StopTarget)

-- The transaction of `cancel`.
def cancelOperation (operationId : String) (generation : Nat) : Transaction CancelResult :=
  .transaction do
    match (← get).get operationId with
    | none =>
      modify fun ledger => ledger.write operationId generation .stopped none
      return .unconfirmed
    | some (generation', phase, sessionId) =>
      if generation' ≠ generation then
        throw .staleOperation
      if phase = .stopped then
        match sessionId with
        | none => return .unconfirmed
        | some sessionId =>
          if ((← get).lookup operationId).any (·.stopVerified) then
            return .receipt { operationId, sessionId, generation }
          modify fun ledger => ledger.write operationId generation .uncertain sessionId
      if phase = .creating then
        modify fun ledger => ledger.write operationId generation .stopping none
        return .unconfirmed
      match sessionId with
      | none =>
        modify fun ledger => ledger.write operationId generation .uncertain none
        return .unconfirmed
      | some sessionId =>
        modify fun ledger => ledger.write operationId generation .stopping sessionId
        return .stop { operationId, sessionId, generation }

namespace StopTarget

-- `self._get(operation_id) == (generation, "stopping", session_id)`
def current (target : StopTarget) (ledger : Ledger) : Bool :=
  ledger.get target.operationId = some (target.generation, .stopping, some target.sessionId)

def confirmActual (target : StopTarget) : Transaction Unit :=
  .transaction do
    if !target.current (← get) then
      throw .stopTargetChanged
    modify fun ledger => ledger.assign target.operationId target.generation fun row =>
      { row with actualStopConfirmed := true }

def fail (target : StopTarget) : Transaction Unit :=
  .transaction do
    if target.current (← get) then
      modify fun ledger =>
        ledger.write target.operationId target.generation .uncertain target.sessionId

def confirm (target : StopTarget) : Transaction Unit :=
  .transaction do
    if !target.current (← get) then
      throw .stopTargetChanged
    modify fun ledger => ledger.write target.operationId target.generation .stopped target.sessionId
    modify fun ledger => ledger.assign target.operationId target.generation fun row =>
      { row with stopVerified := true }

end StopTarget
