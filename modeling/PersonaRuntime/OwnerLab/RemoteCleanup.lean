import PersonaRuntime.MediaWorker.Lifecycle
import PersonaRuntime.OwnerLab.RemoteMediaRevocation

-- What the environment decides of a DELETE that is answered: the threads that it runs on, whether the
-- gate of the bounded STOP is free, and what the steps of the STOP get until it ends or times out.
structure DeleteRun where
  process      : Nat
  cancelThread : Nat
  stopThread   : Nat
  stopGate     : Bool
  answers      : List Answer
deriving DecidableEq

def MediaObservation.receipt : MediaObservation → Option StopTarget
  | receiptReturned target => some target
  | _                      => none

namespace MediaLifecycle

-- `cancel_bounded`. It answers with a receipt if one was returned, and with 202 or 409 if not.
def cancelBounded (w : MediaLifecycle) (operationId : String) (generation : Nat) (run : DeleteRun) :
    Option (MediaLifecycle × List MediaObservation) :=
  match machine.replay w [.cancel run.cancelThread run.process operationId generation false,
      .step run.cancelThread .ok] with
  | none        => none
  | some (w, t) =>
    if (t.findSome? (·.receipt)).isSome then
      some (w, t)
    else
      match w.ledger.get operationId with
      | some (generation', .stopping, some sessionId) | some (generation', .uncertain, some sessionId) =>
        if generation' = generation && run.stopGate then
          (machine.replay w (.finishStop run.stopThread run.process ⟨operationId, sessionId, generation⟩ ::
            run.answers.map (.step run.stopThread))).map fun (w', t') => (w', t ++ t')
        else
          some (w, t)
      | _ => some (w, t)

end MediaLifecycle

-- What a call of the bridge comes to, and whether it has asked the worker for a STOP.
structure GateOutcome where
  bridge : Rt1RemoteMediaRevocation
  result : Except String Unit
  asked  : Bool

def GatePoint.asks : GatePoint → Bool
  | cancel _ .worker => true
  | _                => false

namespace Rt1RemoteMediaRevocation

-- The steps of the holder of the gate, one after the other. No call takes more than eight.
def settle (b : Rt1RemoteMediaRevocation) (i : Nat) (reply : WorkerReply) : Nat → GatePoint → GateOutcome
  | 0,     _     => ⟨b, .ok (), false⟩
  | n + 1, point =>
    let (b, progress, _) := b.execute i reply point
    match progress with
    | .returns result => ⟨b, result, point.asks⟩
    | .next next      =>
      let outcome := settle b i reply n next
      { outcome with asked := point.asks || outcome.asked }

def call (b : Rt1RemoteMediaRevocation) (c : RevocationCall) (reply : WorkerReply) : GateOutcome :=
  match c with
  | .recordCreatedSession sessionId =>
    if isBlank sessionId then ⟨b, .error "RT1_REMOTE_SESSION_ID_INVALID", false⟩
    else b.settle 0 reply 8 c.first
  | .revokeConfirmed => { b with revoked := true }.settle 0 reply 8 c.first
  | .submitAnswer _  => b.settle 0 reply 8 c.first

end Rt1RemoteMediaRevocation

structure RemoteOperation where
  operationId : String
  bridge      : Rt1RemoteMediaRevocation

-- Every operation is started with this generation.
def remoteGeneration : Nat :=
  1

def maxTrackedRemoteOperations : Nat :=
  64

-- The owner lab and the worker. A remote operation is named by its number; the registry
-- `remote_cleanup` has it by the retry id.
structure RemoteCleanup where
  remotes  : List RemoteOperation
  registry : List (String × Nat)
  worker   : MediaLifecycle

-- An entry of a pass with what the environment decides of its STOP, in any order of the entries.
structure ReconcileEntry where
  retryId : String
  remote  : Nat
  delete  : DeleteRun
deriving DecidableEq

inductive RemoteEvent
  -- A visitor start up to its CREATE. The operation id is random.
  | start (retryId operationId : String)
  -- A call of the bridge by a start, a revoke or a close. Without a DELETE the worker does not answer.
  | call (remote : Nat) (c : RevocationCall) (answer : Bool) (delete : Option DeleteRun)
  | worker (e : MediaEvent)
  -- `reconcile_remote_stops`, with every call of the worker answered.
  | reconcile (entries : List ReconcileEntry)

namespace RemoteCleanup

variable (s : RemoteCleanup)

def registerRemote (retryId : String) (remote : Nat) : Except String RemoteCleanup :=
  if s.registry.length ≥ maxTrackedRemoteOperations ∨ s.registry.any (·.1 = retryId) then
    .error "RT1_REMOTE_CLEANUP_CAPACITY_EXCEEDED"
  else
    .ok { s with registry := s.registry ++ [(retryId, remote)] }

def bridge (remote : Nat) : Option Rt1RemoteMediaRevocation :=
  s.remotes[remote]?.map (·.bridge)

def setBridge (remote : Nat) (bridge : Rt1RemoteMediaRevocation) : RemoteCleanup :=
  { s with remotes := s.remotes.modify remote ({ · with bridge }) }

-- A call of the bridge with the DELETE that it may take.
def call (remote : Nat) (c : RevocationCall) (answer : Bool) (delete : Option DeleteRun) :
    Option (RemoteCleanup × Except String Unit) :=
  match s.remotes[remote]? with
  | none   => none
  | some r =>
    match delete with
    | some run =>
      if (r.bridge.call c ⟨none, answer⟩).asked then
        (s.worker.cancelBounded r.operationId remoteGeneration run).map fun (worker, t) =>
          let receipt := (t.findSome? (·.receipt)).map (·.sessionId.value)
          let outcome := r.bridge.call c ⟨receipt, answer⟩
          ({ s with worker }.setBridge remote outcome.bridge, outcome.result)
      else
        let outcome := r.bridge.call c ⟨none, answer⟩
        some (s.setBridge remote outcome.bridge, outcome.result)
    | none =>
      let outcome := r.bridge.call c ⟨none, answer⟩
      some (s.setBridge remote outcome.bridge, outcome.result)

def remove (retryId : String) (remote : Nat) : RemoteCleanup :=
  { s with registry := s.registry.filter (· ≠ (retryId, remote)) }

-- The body of the loop of `reconcile_remote_stops`.
def reconcileEntry (entry : ReconcileEntry) : Option RemoteCleanup :=
  match s.bridge entry.remote with
  | none        => none
  | some bridge =>
    if bridge.confirmed then
      some (s.remove entry.retryId entry.remote)
    else
      (s.call entry.remote .revokeConfirmed false (some entry.delete)).map fun (s, result) =>
        if result.isOk then s.remove entry.retryId entry.remote else s

def revoked : List (String × Nat) :=
  s.registry.filter fun entry => (s.bridge entry.2).any (·.revoked)

def reconcileRemoteStops (entries : List ReconcileEntry) : Option RemoteCleanup :=
  entries.foldlM reconcileEntry s

-- The operations of the worker that the owner lab asks for.
def asksFor : MediaEvent → Bool
  | .create _ _ _ generation _ | .cancel _ _ _ generation _ => generation = remoteGeneration
  | .finishStop _ _ target                                  => target.generation = remoteGeneration
  | _                                                       => true

def machine : Machine RemoteCleanup RemoteEvent Unit where
  init s := s = ⟨[], [], .initial⟩
  step s
    | .start retryId operationId =>
      if s.remotes.any (·.operationId = operationId) then
        none
      else
        let s' : RemoteCleanup := { s with remotes := s.remotes ++ [⟨operationId, .new⟩] }
        match s'.registerRemote retryId s.remotes.length with
        | .ok s'   => some (s', [])
        | .error _ => some (s', [])
    | .call remote c answer delete => (s.call remote c answer delete).map fun (s, _) => (s, [])
    | .worker e =>
      if asksFor e then (MediaLifecycle.machine.step s.worker e).map fun (worker, _) => ({ s with worker }, [])
      else none
    | .reconcile entries =>
      if (entries.map fun e => (e.retryId, e.remote)).isPerm s.revoked then
        (s.reconcileRemoteStops entries).map fun s => (s, [])
      else none

end RemoteCleanup
