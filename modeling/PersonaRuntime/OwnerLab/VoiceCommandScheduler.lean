import PersonaRuntime.Machine.Basic

namespace VoiceCommandScheduler

-- A dispatched command with the generation that its `run` has captured. Its barrier and its promise
-- go by the number of the dispatch.
structure Dispatch (T : Type) where
  id         : Nat
  command    : T
  generation : Nat
deriving DecidableEq

inductive Settlement
  | pending
  | fulfilled
  | rejected
deriving DecidableEq

-- The `await` that a run has reached.
inductive Awaiting
  | send (promise : Settlement)
  | playback
deriving DecidableEq

structure Running (T : Type) where
  dispatch : Dispatch T
  awaiting : Awaiting
  -- Whether its barrier is resolved.
  released : Bool
deriving DecidableEq

structure PlaybackAwareCommandScheduler (T : Type) where
  currentPlayback : Option Nat
  generation      : Nat
  pendingCommands : Nat
  -- How many calls of `dispatch` there were.
  dispatched      : Nat
  -- The runs that the chain of promises up to `queueTail` has still to call, and the one that it has
  -- called and that has not returned. The next one is called after that, whatever it returned.
  queueTail       : List (Dispatch T)
  running         : Option (Running T)

inductive Result
  | sent (sent : Bool)
  | error
deriving DecidableEq

inductive SchedulerSeen (T : Type)
  | dispatched (id : Nat) (command : T)
  | send (id : Nat) (command : T)
  | sendSettled (id : Nat) (fulfilled : Bool)
  -- The promise that `dispatch` has returned is settled.
  | settled (id : Nat) (result : Result)
  | playbackDone (id : Nat)
  | interrupted
deriving DecidableEq

-- What the event loop may do next. `run` and `resume` are microtasks, and `settle` is the promise of
-- the send being fulfilled or rejected, which `run` only learns of by being resumed.
inductive SchedulerEvent (T : Type)
  | dispatch (command : T)
  | run
  | settle (fulfilled : Bool)
  | resume
  | playbackDone
  | interrupt

namespace PlaybackAwareCommandScheduler

variable {T : Type} (s : PlaybackAwareCommandScheduler T)

def new : PlaybackAwareCommandScheduler T where
  currentPlayback := none
  generation      := 0
  pendingCommands := 0
  dispatched      := 0
  queueTail       := []
  running         := none

def hasActivePlayback : Bool :=
  s.currentPlayback.isSome

def hasPendingPlayback : Bool :=
  s.pendingCommands > 0

def dispatch (command : T) : PlaybackAwareCommandScheduler T :=
  { s with
    pendingCommands := s.pendingCommands + 1
    dispatched      := s.dispatched + 1
    queueTail       := s.queueTail ++ [⟨s.dispatched, command, s.generation⟩] }

-- A run up to its first `await`.
def run (d : Dispatch T) (queueTail : List (Dispatch T)) :
    PlaybackAwareCommandScheduler T × List (SchedulerSeen T) :=
  if d.generation ≠ s.generation then
    ({ s with queueTail }, [.settled d.id (.sent false)])
  else
    ({ s with queueTail, currentPlayback := some d.id, running := some ⟨d, .send .pending, false⟩ },
      [.send d.id d.command])

-- Resolving a barrier only matters to the run that waits for it.
def releaseBarrier (id : Nat) : Option (Running T) :=
  s.running.map fun r => if r.dispatch.id = id then { r with released := true } else r

def afterSend (r : Running T) : PlaybackAwareCommandScheduler T × List (SchedulerSeen T) :=
  if r.dispatch.generation ≠ s.generation then
    ({ s with
        currentPlayback := if s.currentPlayback = some r.dispatch.id then none else s.currentPlayback
        running         := none },
      [.settled r.dispatch.id (.sent false)])
  else
    ({ s with running := some { r with awaiting := .playback } }, [.settled r.dispatch.id (.sent true)])

def caught (r : Running T) : PlaybackAwareCommandScheduler T × List (SchedulerSeen T) :=
  ({ s with
      currentPlayback := if s.currentPlayback = some r.dispatch.id then none else s.currentPlayback
      pendingCommands :=
        if r.dispatch.generation = s.generation ∧ s.pendingCommands > 0 then
          s.pendingCommands - 1
        else
          s.pendingCommands
      running         := none },
    [.settled r.dispatch.id .error])

def resume (r : Running T) : Option (PlaybackAwareCommandScheduler T × List (SchedulerSeen T)) :=
  match r.awaiting with
  | .send .pending   => none
  | .send .fulfilled => some (s.afterSend r)
  | .send .rejected  => some (s.caught r)
  | .playback        => if r.released then some ({ s with running := none }, []) else none

def playbackDone : PlaybackAwareCommandScheduler T × List (SchedulerSeen T) :=
  match s.currentPlayback with
  | none    => (s, [])
  | some id =>
    ({ s with
        currentPlayback := none
        pendingCommands := if s.pendingCommands > 0 then s.pendingCommands - 1 else s.pendingCommands
        running         := s.releaseBarrier id },
      [.playbackDone id])

def interrupt : PlaybackAwareCommandScheduler T :=
  { s with
    generation      := s.generation + 1
    pendingCommands := 0
    currentPlayback := none
    running         := s.currentPlayback.elim s.running s.releaseBarrier }

end PlaybackAwareCommandScheduler

open PlaybackAwareCommandScheduler in
def scheduler (T : Type) :
    Machine (PlaybackAwareCommandScheduler T) (SchedulerEvent T) (SchedulerSeen T) where
  init s := s = new
  step s
    | .dispatch command => some (s.dispatch command, [.dispatched s.dispatched command])
    | .run =>
      match s.running, s.queueTail with
      | none, d :: queueTail => some (s.run d queueTail)
      | _, _                 => none
    | .settle fulfilled =>
      match s.running with
      | some ⟨d, .send .pending, released⟩ =>
        some ({ s with running := some ⟨d, .send (if fulfilled then .fulfilled else .rejected), released⟩ },
          [.sendSettled d.id fulfilled])
      | _ => none
    | .resume       => s.running.bind s.resume
    | .playbackDone => some s.playbackDone
    | .interrupt    => some (s.interrupt, [.interrupted])

end VoiceCommandScheduler
