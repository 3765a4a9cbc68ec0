import PersonaRuntime.OwnerLab.Evidence
import PersonaRuntime.OwnerLab.Requests
import PersonaRuntime.Runtime.TurnState

-- A turn is named by its number.
structure OutputDeliveryHandle where
  turnId    : Nat
  segmentId : Nat
deriving DecidableEq, Repr

namespace OutputDeliveryHandle

def sequence (delivery : OutputDeliveryHandle) : Nat :=
  delivery.segmentId

-- `acknowledge_output_sent` and `acknowledge_output_played` differ only in the receipt.
def acknowledge (receipt : Receipt) (turn : Nat) (delivery : OutputDeliveryHandle) :
    TurnMutableState.Update Unit :=
  if delivery.turnId = turn then
    receipt.reconcile delivery.segmentId
  else
    throw .invalidStateTransition

def acknowledgeOutputSent : Nat → OutputDeliveryHandle → TurnMutableState.Update Unit :=
  acknowledge .sent

def acknowledgeOutputPlayed : Nat → OutputDeliveryHandle → TurnMutableState.Update Unit :=
  acknowledge .played

end OutputDeliveryHandle

structure PendingVoicePlayback where
  turn       : Nat
  deliveries : Std.TreeMap Nat OutputDeliveryHandle

abbrev LabVoicePlaybackRegistry := Std.TreeMap Nat PendingVoicePlayback

namespace LabVoicePlaybackRegistry

def registerDelivery (evidenceTurnSequence turn : Nat) (delivery : OutputDeliveryHandle)
    (pending : LabVoicePlaybackRegistry) : Except LabError LabVoicePlaybackRegistry :=
  match pending[evidenceTurnSequence]? with
  | some entry =>
    if entry.turn ≠ turn ∨ delivery.sequence ∈ entry.deliveries then
      .error .invalidState
    else
      let deliveries := entry.deliveries.insert delivery.sequence delivery
      .ok (pending.insert evidenceTurnSequence { entry with deliveries })
  | none =>
    let deliveries : Std.TreeMap Nat OutputDeliveryHandle := ∅
    .ok (pending.insert evidenceTurnSequence ⟨turn, deliveries.insert delivery.sequence delivery⟩)

-- The turn and the delivery that a receipt is for.
def lookup (evidenceTurnSequence evidenceOutputSequence : Nat) (pending : LabVoicePlaybackRegistry) :
    Except LabError (Nat × OutputDeliveryHandle) :=
  match pending[evidenceTurnSequence]? with
  | none       => .error .invalidState
  | some entry =>
    match entry.deliveries[evidenceOutputSequence]? with
    | none          => .error .invalidState
    | some delivery => .ok (entry.turn, delivery)

-- The head of `acknowledge_voice_playback_complete`: what its loop goes over.
def complete (evidenceTurnSequence firstOutputSequence : Nat) (pending : LabVoicePlaybackRegistry) :
    Except LabError (Nat × List OutputDeliveryHandle) :=
  match pending[evidenceTurnSequence]? with
  | none       => .error .invalidState
  | some entry =>
    if firstOutputSequence ∉ entry.deliveries ∨ entry.deliveries.isEmpty then
      .error .invalidState
    else
      .ok (entry.turn, entry.deliveries.values)

end LabVoicePlaybackRegistry

inductive MediaRecordError
  | evidence (error : LabEvidenceError)
  | lab (error : LabError)
deriving DecidableEq, Repr

-- Where a call of `record_media` is. The registry is locked all along its loop, but the turn is only
-- for one delivery at a time.
inductive PlaybackPoint
  | acknowledge
  | reconcile (turn : Nat) (deliveries : List OutputDeliveryHandle)
  | record
  | returned
deriving DecidableEq

structure PlaybackCall where
  input   : LabMediaEvidenceInput
  binding : Nat × Nat
  point   : PlaybackPoint
  -- The call has changed the evidence of a segment. No step looks at this.
  changed : Bool

structure PlaybackServer where
  recorder : LabSessionEvidenceRecorder
  registry : LabVoicePlaybackRegistry
  locked   : Bool
  turns    : Nat → TurnMutableState × MediaTimeline
  calls    : List PlaybackCall

-- What `record_media` may change.
structure PlaybackWorld where
  recorder : LabSessionEvidenceRecorder
  segments : Nat → List OutputSegmentEvidence

inductive PlaybackObservation
  | moved (call : Nat) (before after : PlaybackWorld)
  | registered (call turn : Nat) (deliveries : List OutputDeliveryHandle)
  | returned (call : Nat) (input : LabMediaEvidenceInput) (result : Except MediaRecordError Unit)

inductive PlaybackEvent
  -- `record_media` with a `PlaybackCompleted`, up to its first step.
  | recordMedia (input : LabMediaEvidenceInput)
  | resume (call : Nat)
  -- Everything else that reaches the recorder, the turns and the registry.
  | recorder (call : RecorderCall)
  | turn (i : Nat) (event : TurnEvent)
  | registerDelivery (evidenceTurnSequence turn : Nat) (delivery : OutputDeliveryHandle)
  | acknowledgeVoiceDeliverySent (evidenceTurnSequence evidenceOutputSequence : Nat)
  | acknowledgeVoicePlayback (evidenceTurnSequence evidenceOutputSequence : Nat)
  | clear

namespace PlaybackServer

variable (s : PlaybackServer)

def world : PlaybackWorld where
  recorder := s.recorder
  segments := fun i => (s.turns i).1.outputSegments

def setTurn (i : Nat) (turn : TurnMutableState) : PlaybackServer :=
  { s with turns := Function.update s.turns i (turn, (s.turns i).2) }

def setCall (k : Nat) (call : PlaybackCall) : PlaybackServer :=
  { s with calls := s.calls.set k call }

def finish (k : Nat) (call : PlaybackCall) (result : Except MediaRecordError Unit) :
    PlaybackServer × List PlaybackObservation :=
  (s.setCall k { call with point := .returned }, [.returned k call.input result])

-- The body of the loop, for the first of the deliveries that are left.
def reconcile (k : Nat) (call : PlaybackCall) (turn : Nat) (delivery : OutputDeliveryHandle)
    (deliveries : List OutputDeliveryHandle) : PlaybackServer × List PlaybackObservation :=
  let before  := (s.turns turn).1
  let result  := (delivery.acknowledgeOutputPlayed turn).run before
  let changed := call.changed || decide (result.state.outputSegments ≠ before.outputSegments)
  match result.toExcept with
  | .ok _         =>
    ((s.setTurn turn result.state).setCall k { call with point := .reconcile turn deliveries, changed }, [])
  | .error reason =>
    let s := { s.setTurn turn result.state with locked := false }
    s.finish k { call with changed } (.error (.lab (.runtime reason)))

-- One step of a call that has not returned.
def resume (k : Nat) (call : PlaybackCall) : Option (PlaybackServer × List PlaybackObservation) :=
  match call.point with
  | .acknowledge =>
    if s.locked then
      none
    else
      match s.registry.complete call.binding.1 call.binding.2 with
      | .error e               => s.finish k call (.error (.lab e))
      | .ok (turn, deliveries) =>
        let s := s.setCall k { call with point := .reconcile turn deliveries }
        some ({ s with locked := true }, [.registered k turn deliveries])
  | .reconcile turn (delivery :: deliveries) => s.reconcile k call turn delivery deliveries
  | .reconcile _ []                          =>
    some ({ s.setCall k { call with point := .record } with locked := false }, [])
  | .record =>
    match s.recorder.recordCanonicalPlayback call.input call.binding.1 call.binding.2 with
    | .error e     => s.finish k call (.error (.evidence e))
    | .ok recorder => ({ s with recorder } : PlaybackServer).finish k call (.ok ())
  | .returned => none

def begin (input : LabMediaEvidenceInput) : PlaybackServer × List PlaybackObservation :=
  match s.recorder.prepareCanonicalPlayback input with
  | .error e    =>
    ({ s with calls := s.calls ++ [⟨input, (0, 0), .returned, false⟩] },
      [.returned s.calls.length input (.error (.evidence e))])
  | .ok binding => ({ s with calls := s.calls ++ [⟨input, binding, .acknowledge, false⟩] }, [])

-- The handle of a delivery is issued for a segment of its turn.
def issued (delivery : OutputDeliveryHandle) : Bool :=
  (s.turns delivery.turnId).1.outputSegments.any (·.id == delivery.segmentId)

def registerDelivery (evidenceTurnSequence turn : Nat) (delivery : OutputDeliveryHandle) : PlaybackServer :=
  match s.registry.registerDelivery evidenceTurnSequence turn delivery with
  | .error _     => s
  | .ok registry => { s with registry }

def acknowledgeVoice (receipt : Receipt) (evidenceTurnSequence evidenceOutputSequence : Nat) : PlaybackServer :=
  match s.registry.lookup evidenceTurnSequence evidenceOutputSequence with
  | .error _             => s
  | .ok (turn, delivery) => s.setTurn turn ((delivery.acknowledge receipt turn).run (s.turns turn).1).state

def acknowledgeVoiceDeliverySent : Nat → Nat → PlaybackServer :=
  s.acknowledgeVoice .sent

def acknowledgeVoicePlayback : Nat → Nat → PlaybackServer :=
  s.acknowledgeVoice .played

def machine : Machine PlaybackServer PlaybackEvent PlaybackObservation where
  init s := LabSessionEvidenceRecorder.machine.init s.recorder ∧ s.registry = ∅ ∧ s.locked = false ∧
    (∀ i, TurnMutableState.machine.init (s.turns i)) ∧ s.calls = []
  step s
    | .recordMedia input => if input.kind = .playbackCompleted then some (s.begin input) else none
    | .resume k =>
      match s.calls[k]? with
      | none      => none
      | some call => (s.resume k call).map fun (s', o) => (s', .moved k s.world s'.world :: o)
    | .recorder call =>
      (LabSessionEvidenceRecorder.machine.step s.recorder call).map fun (recorder, _) => ({ s with recorder }, [])
    | .turn i event =>
      (TurnMutableState.machine.step (s.turns i) event).map fun (turn, _) =>
        ({ s with turns := Function.update s.turns i turn }, [])
    | .registerDelivery evidenceTurnSequence turn delivery =>
      if s.locked || !s.issued delivery then none
      else some (s.registerDelivery evidenceTurnSequence turn delivery, [])
    | .acknowledgeVoiceDeliverySent evidenceTurnSequence evidenceOutputSequence =>
      if s.locked then none
      else some (s.acknowledgeVoiceDeliverySent evidenceTurnSequence evidenceOutputSequence, [])
    | .acknowledgeVoicePlayback evidenceTurnSequence evidenceOutputSequence =>
      if s.locked then none
      else some (s.acknowledgeVoicePlayback evidenceTurnSequence evidenceOutputSequence, [])
    | .clear => if s.locked then none else some ({ s with registry := ∅ }, [])

end PlaybackServer
