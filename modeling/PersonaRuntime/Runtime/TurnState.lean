import PersonaRuntime.Domain.Reason
import PersonaRuntime.Domain.Session
import PersonaRuntime.Machine.Basic
import PersonaRuntime.Runtime.MediaTimeline

structure OutputSegmentEvidence where
  id       : Nat
  evidence : OutputEvidence
deriving DecidableEq, Repr

structure TurnMutableState where
  turn           : Turn
  outputSegments : List OutputSegmentEvidence
  nextSegmentId  : Nat
  media          : TurnMediaState
deriving DecidableEq

namespace TurnMutableState

def new (turn : Turn) (mediaEpoch : Nat) : TurnMutableState where
  turn           := turn
  outputSegments := []
  nextSegmentId  := 1
  media          := .new mediaEpoch

abbrev Update := EStateM Rt0ReasonCode TurnMutableState

def state (s : TurnMutableState) : TurnState :=
  s.turn.state

def providerExecutionAllowed (s : TurnMutableState) : Bool :=
  match s.state with
  | .authorized | .processing | .outputting => true
  | _ => false

def transition (next : TurnState) : Update Unit :=
  .zoom turn (fun s turn => { s with turn }) (fun _ => .invalidStateTransition)
    (Turn.transition next)

def onSegments (x : EStateM Rt0ReasonCode OutputEvidence Unit) : Update Unit :=
  .zoom outputSegments (fun s outputSegments => { s with outputSegments }) id
    (.forEach (.zoom OutputSegmentEvidence.evidence (fun s evidence => { s with evidence }) id x))

def freezeOutputSegments : Update Unit :=
  onSegments do
    if !(← get).state.isCancelled then
      .adaptExcept (fun _ => .invalidStateTransition) OutputEvidence.markCancelled

def transitionAndFreeze (next : TurnState) : Update Unit := do
  transition next
  freezeOutputSegments

def beginOutputSegment : Update Nat := do
  if (← get).state ≠ .outputting then
    throw .invalidStateTransition
  let id := (← get).nextSegmentId
  let nextSegmentId ← .check (fun _ => .internalError) (okOr () (checkedAdd id 1))
  modify ({ · with nextSegmentId })
  match OutputEvidence.markGenerated.run .default with
  | .error .. => throw .invalidStateTransition
  | .ok _ evidence =>
    modify fun s => { s with outputSegments := s.outputSegments ++ [{ id, evidence }] }
    return id

-- Writes back the evidence that `segment_mut` borrowed: the first segment with this id.
def writeSegment (id : Nat) (evidence : OutputEvidence) :
    List OutputSegmentEvidence → List OutputSegmentEvidence
  | []      => []
  | s :: ss => if s.id = id then { s with evidence } :: ss else s :: writeSegment id evidence ss

-- The three receipts differ only in the evidence operation that they apply to their segment.
def reconcile (x : EStateM OutputTransitionError OutputEvidence Unit) (id : Nat) : Update Unit := do
  match (← get).outputSegments.find? (·.id == id) with
  | none => throw .invalidStateTransition
  | some segment =>
    let result := x.run segment.evidence
    modify fun s => { s with outputSegments := writeSegment id result.state s.outputSegments }
    .check (fun _ => .invalidStateTransition) result.toExcept

def reconcileOutputDeliveryUncertain : Nat → Update Unit :=
  reconcile OutputEvidence.markDeliveryUncertain

def reconcileOutputSent : Nat → Update Unit :=
  reconcile OutputEvidence.reconcileSent

def reconcileOutputPlayed : Nat → Update Unit :=
  reconcile OutputEvidence.reconcilePlayed

def mapMediaTimelineError : MediaTimelineError → Rt0ReasonCode
  | .staleEpoch | .timestampRegression => .invalidStateTransition
  | .overflow => .internalError

-- A turn is stamped together with the timeline of its session.
abbrev Stamping := EStateM Rt0ReasonCode (TurnMutableState × MediaTimeline)

def mediaStamp (x : TurnMediaState.Stamping MediaTimelineStamp) : Stamping MediaTimelineStamp := do
  if (← get).1.state ≠ .outputting then
    throw .invalidStateTransition
  .zoom (fun s => (s.1.media, s.2)) (fun s r => ({ s.1 with media := r.1 }, r.2))
    mapMediaTimelineError x

def nextAudioMediaStamp (nowMillis durationMicros : Nat) : Stamping MediaTimelineStamp :=
  mediaStamp (TurnMediaState.nextAudioStamp nowMillis durationMicros)

def nextVideoMediaStamp (nowMillis sourceTimestampMicros : Nat) : Stamping MediaTimelineStamp :=
  mediaStamp (TurnMediaState.nextVideoStamp nowMillis sourceTimestampMicros)

def mediaFlushContext (s : TurnMutableState) : Nat × Option Nat :=
  s.media.flushContext

def interrupt : Update Unit := do
  let interruptible := (← get).state.interruptible
  let alreadyCancelled := (← get).outputSegments.any (·.evidence.state.isCancelled)
  if !interruptible || alreadyCancelled then
    throw .invalidStateTransition
  transition .cancelled
  onSegments (.adaptExcept (fun _ => .invalidStateTransition) OutputEvidence.markCancelled)

end TurnMutableState

-- The transitions that `ActiveTurn` requests.
inductive TurnAdvance
  | authorized
  | processing
  | outputting
  | completed
deriving DecidableEq, Repr

inductive TurnFreeze
  | denied
  | failed
deriving DecidableEq, Repr

inductive Receipt
  | deliveryUncertain
  | sent
  | played
deriving DecidableEq, Repr

def TurnAdvance.state : TurnAdvance → TurnState
  | authorized => .authorized
  | processing => .processing
  | outputting => .outputting
  | completed  => .completed

def TurnFreeze.state : TurnFreeze → TurnState
  | denied => .denied
  | failed => .failed

def Receipt.reconcile : Receipt → Nat → TurnMutableState.Update Unit
  | deliveryUncertain => TurnMutableState.reconcileOutputDeliveryUncertain
  | sent              => TurnMutableState.reconcileOutputSent
  | played            => TurnMutableState.reconcileOutputPlayed

-- Everything that `ActiveTurn` and its delivery paths do to the state of a turn.
inductive TurnCall
  | transition (next : TurnAdvance)
  | transitionAndFreeze (next : TurnFreeze)
  | beginOutputSegment
  | nextAudioMediaStamp (nowMillis durationMicros : Nat)
  | nextVideoMediaStamp (nowMillis sourceTimestampMicros : Nat)
  | interrupt
  | reconcile (receipt : Receipt) (id : Nat)
deriving DecidableEq, Repr

namespace TurnCall

-- Runs a method that does not look at the timeline of the session.
def onTurn {α : Type} (x : TurnMutableState.Update α) : TurnMutableState.Stamping Unit :=
  .zoom Prod.fst (fun s turn => (turn, s.2)) id ((fun _ => ()) <$> x)

def call : TurnCall → TurnMutableState.Stamping Unit
  | transition next          => onTurn (TurnMutableState.transition next.state)
  | transitionAndFreeze next => onTurn (TurnMutableState.transitionAndFreeze next.state)
  | beginOutputSegment       => onTurn TurnMutableState.beginOutputSegment
  | nextAudioMediaStamp n d  => (fun _ => ()) <$> TurnMutableState.nextAudioMediaStamp n d
  | nextVideoMediaStamp n t  => (fun _ => ()) <$> TurnMutableState.nextVideoMediaStamp n t
  | interrupt                => onTurn TurnMutableState.interrupt
  | reconcile receipt id     => onTurn (receipt.reconcile id)

end TurnCall

inductive TurnEvent
  | call (c : TurnCall)
  -- Other turns stamp and the session rebases on the same timeline.
  | timeline (t : MediaTimeline)

-- One turn from its creation, with every call that reaches it and what each call returned.
def TurnMutableState.machine :
    Machine (TurnMutableState × MediaTimeline) TurnEvent (TurnCall × Except Rt0ReasonCode Unit) where
  init s := ∃ id correlationId epoch, s.1 = .new (.new id correlationId) epoch
  step s
    | .call c     => let result := c.call.run s; some (result.state, [(c, result.toExcept)])
    | .timeline t => some ((s.1, t), [])
