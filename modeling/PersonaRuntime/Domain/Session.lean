import PersonaRuntime.Domain.Ids
import PersonaRuntime.Machine.Mutation

inductive RealtimeSessionState
  | created
  | active
  | draining
  | revoked
  | closed
deriving DecidableEq, Repr

structure RealtimeSession where
  id        : SessionId
  personaId : PersonaId
  state     : RealtimeSessionState
deriving DecidableEq

structure SessionTransitionError where
  source : RealtimeSessionState
  target : RealtimeSessionState
deriving DecidableEq, Repr

namespace RealtimeSession

def new (id : SessionId) (personaId : PersonaId) : RealtimeSession :=
  { id, personaId, state := .created }

def valid : RealtimeSessionState → RealtimeSessionState → Bool
  | .created, .active | .created, .revoked | .active, .draining | .active, .revoked
  | .draining, .closed | .draining, .revoked | .revoked, .closed => true
  | _, _ => false

def transition (next : RealtimeSessionState) : EStateM SessionTransitionError RealtimeSession Unit := do
  if !valid (← get).state next then
    throw { source := (← get).state, target := next }
  modify ({ · with state := next })

end RealtimeSession

inductive TurnState
  | received
  | authorized
  | processing
  | outputting
  | completed
  | denied
  | failed
  | cancelled
deriving DecidableEq, Repr

namespace TurnState

-- The states from which a turn may still be interrupted.
def interruptible : TurnState → Bool
  | received | authorized | processing | outputting => true
  | completed | denied | failed | cancelled => false

-- The terminal states that freeze the output evidence of a turn.
def frozen : TurnState → Bool
  | denied | failed | cancelled => true
  | received | authorized | processing | outputting | completed => false

def terminal (s : TurnState) : Bool :=
  !s.interruptible

theorem interruptible_not_frozen {s : TurnState} (h : s.interruptible = true) : s.frozen = false := by
  cases s <;> first | rfl | simp [interruptible] at h

end TurnState

structure Turn where
  id            : TurnId
  correlationId : CorrelationId
  state         : TurnState
deriving DecidableEq

structure TurnTransitionError where
  source : TurnState
  target : TurnState
deriving DecidableEq, Repr

namespace Turn

def new (id : TurnId) (correlationId : CorrelationId) : Turn :=
  { id, correlationId, state := .received }

def valid : TurnState → TurnState → Bool
  | .received, .authorized | .received, .denied | .received, .failed | .received, .cancelled
  | .authorized, .processing | .authorized, .denied | .authorized, .failed | .authorized, .cancelled
  | .processing, .outputting | .processing, .denied | .processing, .failed | .processing, .cancelled
  | .outputting, .completed | .outputting, .denied | .outputting, .failed | .outputting, .cancelled =>
    true
  | _, _ => false

def transition (next : TurnState) : EStateM TurnTransitionError Turn Unit := do
  if !valid (← get).state next then
    throw { source := (← get).state, target := next }
  modify ({ · with state := next })

theorem transition_run (next : TurnState) (t : Turn) :
    (transition next).run t =
      if valid t.state next then .ok () { t with state := next }
      else .error { source := t.state, target := next } t := by
  cases h : valid t.state next <;> simp [transition, h]

theorem valid_interruptible {s next : TurnState} (h : valid s next = true) :
    s.interruptible = true := by
  revert h; cases s <;> cases next <;> decide

theorem valid_frozen {s next : TurnState} (h : s.interruptible = true) (hn : next.frozen = true) :
    valid s next = true := by
  revert h hn; cases s <;> cases next <;> decide

end Turn

inductive OutputCheckpoint
  | pending
  | generated
  | sent
  | played
deriving DecidableEq, Repr

inductive OutputDeliveryState
  | pending
  | generated
  | deliveryUncertain
  | sent
  | played
  | cancelled (reached : OutputCheckpoint)
  | cancelledDeliveryUncertain
deriving DecidableEq, Repr

def OutputDeliveryState.isCancelled : OutputDeliveryState → Bool
  | cancelled _ | cancelledDeliveryUncertain => true
  | pending | generated | deliveryUncertain | sent | played => false

structure OutputTransitionError where
  source : OutputDeliveryState
  target : OutputDeliveryState
deriving DecidableEq, Repr

structure OutputEvidence where
  state : OutputDeliveryState
deriving DecidableEq, Repr

namespace OutputEvidence

def default : OutputEvidence :=
  ⟨.pending⟩

def valid : OutputDeliveryState → OutputDeliveryState → Bool
  | .pending, .generated | .generated, .sent | .sent, .played => true
  | _, _ => false

def transition (next : OutputDeliveryState) : EStateM OutputTransitionError OutputEvidence Unit := do
  if !valid (← get).state next then
    throw { source := (← get).state, target := next }
  set (⟨next⟩ : OutputEvidence)

def markGenerated : EStateM OutputTransitionError OutputEvidence Unit :=
  transition .generated

def markDeliveryUncertain : EStateM OutputTransitionError OutputEvidence Unit := do
  match (← get).state with
  | .generated => set (⟨.deliveryUncertain⟩ : OutputEvidence)
  | .deliveryUncertain | .cancelledDeliveryUncertain => return
  | .cancelled .generated => set (⟨.cancelledDeliveryUncertain⟩ : OutputEvidence)
  | state => throw { source := state, target := .deliveryUncertain }

def markCancelled : EStateM OutputTransitionError OutputEvidence Unit := do
  let reached ←
    match (← get).state with
    | .pending           => pure (some OutputCheckpoint.pending)
    | .generated         => pure (some OutputCheckpoint.generated)
    | .deliveryUncertain => pure none
    | .sent              => pure (some OutputCheckpoint.sent)
    | .played            => pure (some OutputCheckpoint.played)
    | state@(.cancelled _) | state@.cancelledDeliveryUncertain =>
      throw { source := state, target := state }
  set (⟨reached.elim .cancelledDeliveryUncertain .cancelled⟩ : OutputEvidence)

def reconcileSent : EStateM OutputTransitionError OutputEvidence Unit := do
  match (← get).state with
  | .generated | .deliveryUncertain => set (⟨.sent⟩ : OutputEvidence)
  | .sent | .played | .cancelled .sent | .cancelled .played => return
  | .cancelled .generated | .cancelledDeliveryUncertain =>
    set (⟨.cancelled .sent⟩ : OutputEvidence)
  | state@.pending | state@(.cancelled .pending) => throw { source := state, target := .sent }

def reconcilePlayed : EStateM OutputTransitionError OutputEvidence Unit := do
  match (← get).state with
  | .sent | .deliveryUncertain => set (⟨.played⟩ : OutputEvidence)
  | .played | .cancelled .played => return
  | .cancelled .sent | .cancelledDeliveryUncertain => set (⟨.cancelled .played⟩ : OutputEvidence)
  | state => throw { source := state, target := .played }

def eligibleAsSpoken (e : OutputEvidence) : Bool :=
  match e.state with
  | .played | .cancelled .played => true
  | _ => false

-- How far a segment got, whether or not it was cancelled afterwards.
def rank (e : OutputEvidence) : Nat :=
  match e.state with
  | .pending | .cancelled .pending                       => 0
  | .generated | .cancelled .generated                   => 1
  | .deliveryUncertain | .cancelledDeliveryUncertain     => 2
  | .sent | .cancelled .sent                             => 3
  | .played | .cancelled .played                         => 4

end OutputEvidence
