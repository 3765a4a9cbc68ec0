import PersonaRuntime.Collections.Table
import PersonaRuntime.Machine.Threads

def maxRetainedVoiceStreams : Nat :=
  2

def maxPendingVoiceStreamEvents : Nat :=
  64

structure VoiceStreamState (ε : Type) where
  events   : List ε
  terminal : Bool

def VoiceStreamState.default {ε : Type} : VoiceStreamState ε where
  events   := []
  terminal := false

-- The sequence numbers of the session and of the request.
abbrev VoiceStreamKey := Nat × Nat

-- The map behind the lock. The condition variable has no state: a thread that waits for it may go on
-- at any time, be it notified or timed out.
structure VoiceStreamRegistry (ε : Type) where
  streams : Table VoiceStreamKey (VoiceStreamState ε)

inductive VoiceStreamCall (ε : Type)
  | begin (key : VoiceStreamKey)
  | push (key : VoiceStreamKey) (event : ε)
  | finishWithUnlock (key : VoiceStreamKey) (event : ε)
  | waitEvents (key : VoiceStreamKey)
  | clear

-- The section of `wait_events` behind the wait.
inductive VoiceStreamInstruction
  | drain (key : VoiceStreamKey)

inductive VoiceStreamObservation (ε : Type)
  -- The results of `begin` and of `push`.
  | began (key : VoiceStreamKey) (retained : Bool)
  | pushed (key : VoiceStreamKey) (event : ε) (accepted : Bool)
  -- Whether `finish_with_unlock` has found the stream.
  | finished (key : VoiceStreamKey) (event : ε) (found : Bool)
  -- The result of `wait_events`, either `None` or a `VoiceEventsResponse`.
  | missing (key : VoiceStreamKey)
  | response (key : VoiceStreamKey) (events : List ε) (terminal : Bool)
  -- What `clear` drops.
  | cleared (streams : Table VoiceStreamKey (VoiceStreamState ε))

namespace VoiceStreamRegistry

variable {ε : Type}

def new : VoiceStreamRegistry ε where
  streams := ∅

abbrev Step (ε : Type) :=
  VoiceStreamRegistry ε × List VoiceStreamInstruction × List (VoiceStreamObservation ε)

-- `streams.get_mut(key)` with an assignment.
def setStream (s : VoiceStreamRegistry ε) (key : VoiceStreamKey)
    (f : VoiceStreamState ε → VoiceStreamState ε) : VoiceStreamRegistry ε where
  streams := s.streams.update (fun k _ => k = key) fun _ => f

def begin (s : VoiceStreamRegistry ε) (key : VoiceStreamKey) : Step ε :=
  if key.1 = 0 ∨ key.2 = 0 then
    (s, [], [.began key false])
  else if s.streams.entries.length ≥ maxRetainedVoiceStreams ∨ key ∈ s.streams ∨
      s.streams.any fun _ stream => !stream.terminal then
    (s, [], [.began key false])
  else
    ({ s with streams := s.streams.insert key .default }, [], [.began key true])

def push (s : VoiceStreamRegistry ε) (key : VoiceStreamKey) (event : ε) : Step ε :=
  match s.streams.lookup key with
  | none        => (s, [], [.pushed key event false])
  | some stream =>
    -- The last place is for the event that finishes the stream.
    if stream.terminal ∨ stream.events.length ≥ maxPendingVoiceStreamEvents - 1 then
      (s, [], [.pushed key event false])
    else
      (s.setStream key ({ · with events := stream.events ++ [event] }), [], [.pushed key event true])

def finishWithUnlock (s : VoiceStreamRegistry ε) (key : VoiceStreamKey) (event : ε) : Step ε :=
  match s.streams.lookup key with
  | none        => (s, [], [.finished key event false])
  | some stream =>
    (s.setStream key fun _ => { events := stream.events ++ [event], terminal := true }, [],
      [.finished key event true])

def drain (s : VoiceStreamRegistry ε) (key : VoiceStreamKey) : Step ε :=
  match s.streams.lookup key with
  | none        => (s, [], [.missing key])
  | some stream =>
    let drained := s.setStream key ({ · with events := [] })
    let streams := if stream.terminal then drained.streams.erase key else drained.streams
    (⟨streams⟩, [], [.response key stream.events stream.terminal])

-- The lock is not released where there is nothing to wait for.
def waitEvents (s : VoiceStreamRegistry ε) (key : VoiceStreamKey) : Step ε :=
  match s.streams.lookup key with
  | none        => (s, [], [.missing key])
  | some stream =>
    if stream.events.isEmpty ∧ ¬stream.terminal then
      (s, [.drain key], [])
    else
      s.drain key

def enter (s : VoiceStreamRegistry ε) (c : VoiceStreamCall ε) (_ : Unit) : Option (Step ε) :=
  match c with
  | .begin key                  => s.begin key
  | .push key event             => s.push key event
  | .finishWithUnlock key event => s.finishWithUnlock key event
  | .waitEvents key             => s.waitEvents key
  | .clear                      => some (new, [], [.cleared s.streams])

def execute (s : VoiceStreamRegistry ε) (i : VoiceStreamInstruction) (_ : Unit) : Option (Step ε) :=
  match i with
  | .drain key => s.drain key

def program (ε : Type) :
    Program (VoiceStreamRegistry ε) VoiceStreamInstruction (VoiceStreamCall ε) Unit
      (VoiceStreamObservation ε) where
  init s  := s = new
  enter   := enter
  execute := execute

end VoiceStreamRegistry
