import PersonaRuntime.Integration.Audio
import PersonaRuntime.Runtime.MediaSession
import PersonaRuntime.Runtime.Session

structure GeneratedVideoFrame where
  encodedFrame    : List UInt8
  timestampMicros : Nat
deriving DecidableEq

def audioContract (audio : GeneratedAudioBuffer) : Option (Nat × Nat × PcmSampleFormat × Nat) := do
  let sampleRateHz ← audio.sampleRateHz
  let channels ← audio.channels
  let sampleFormat ← audio.sampleFormat
  if audio.pcm.isEmpty || sampleRateHz == 0 || channels == 0 then
    none
  let bytesPerSample := match sampleFormat with
    | .s16Le => 2
  let frameBytes ← checkedMul channels bytesPerSample
  if audio.pcm.length % frameBytes ≠ 0 then
    none
  let durationMicros := (← checkedMul (audio.pcm.length / frameBytes) 1000000) / sampleRateHz
  return (sampleRateHz, channels, sampleFormat, durationMicros)

-- The two events for the transport, `RealtimeAudioOutputEvent` and `RealtimeVideoOutputEvent`, differ
-- in what they carry.
inductive MediaPayload
  | audio (pcm : List UInt8) (sampleRateHz channels : Nat) (sampleFormat : PcmSampleFormat)
  | video (encodedFrame : List UInt8)
deriving DecidableEq

structure RealtimeMediaOutputEvent where
  sessionId     : SessionId
  turnId        : TurnId
  correlationId : CorrelationId
  timeline      : MediaTimelineStamp
  payload       : MediaPayload
deriving DecidableEq

structure RealtimeMediaFlushEvent where
  sessionId       : SessionId
  turnId          : TurnId
  correlationId   : CorrelationId
  epoch           : Nat
  throughSequence : Option Nat
deriving DecidableEq

inductive TransportErrorKind
  | unavailable
  | cancelled
  | deliveryUncertain
deriving DecidableEq, Repr

-- What `deliver_audio` and `deliver_video_frame` are called with.
inductive MediaInput
  | audio (buffer : GeneratedAudioBuffer)
  | video (frame : GeneratedVideoFrame)

-- What is left of the input after the checks that come before the clock is read.
def MediaInput.contract : MediaInput → Except Rt0ReasonCode (StampRequest × MediaPayload)
  | audio buffer =>
    match audioContract buffer with
    | none => .error .internalError
    | some (sampleRateHz, channels, sampleFormat, durationMicros) =>
      .ok (.audio durationMicros, .audio buffer.pcm sampleRateHz channels sampleFormat)
  | video frame =>
    if frame.encodedFrame.isEmpty then .error .internalError
    else .ok (.video frame.timestampMicros, .video frame.encodedFrame)

namespace TurnMutableState

-- `next_audio_media_stamp` and `next_video_media_stamp`, cut where they release the timeline.
def openMediaOrigin (r : StampRequest) (nowMillis : Nat) : Stamping MediaTurnOrigin := do
  if (← get).1.state ≠ .outputting then
    throw .invalidStateTransition
  .zoom (fun s => (s.1.media, s.2)) (fun s r => ({ s.1 with media := r.1 }, r.2))
    mapMediaTimelineError (r.openOrigin nowMillis)

def finishMediaStamp (r : StampRequest) (origin : MediaTurnOrigin) : Stamping MediaTimelineStamp :=
  .zoom (fun s => (s.1.media, s.2)) (fun s r => ({ s.1 with media := r.1 }, r.2))
    mapMediaTimelineError (r.stamp origin)

end TurnMutableState

-- The calls that hold no lock, each by the next step that it takes.
inductive MediaStep
  | beginOutputSegment (turn : TurnAddress) (timeline : MediaTimelineStamp) (payload : MediaPayload)
  | send (turn : TurnAddress) (segment : Nat) (timeline : MediaTimelineStamp) (payload : MediaPayload)
  | reconcileTransportSend (turn : TurnAddress) (receipt : Receipt) (segment : Nat)
  | mediaFlushContext (turn : TurnAddress)
  | flushMedia (turn : TurnAddress) (epoch : Nat) (throughSequence : Option Nat)
deriving DecidableEq

-- A session with the media calls that are on their way.
structure MediaRuntime where
  session  : ActiveSession
  -- The delivery that holds the lock of the turn and is between its two visits to the timeline.
  stamping : TurnAddress → Option (StampRequest × MediaPayload × MediaTurnOrigin)
  pending  : List MediaStep

inductive MediaRuntimeEvent
  | session (e : SessionEvent)
  | deliver (turn : TurnAddress) (input : MediaInput) (nowMillis : Option Nat)
  | finishStamp (turn : TurnAddress)
  | interruptAndFlushMedia (turn : TurnAddress)
  -- The clock and the transport answer to the steps that ask them.
  | resume (call : Nat) (nowMillis : Option Nat) (transport : Except TransportErrorKind Unit)

inductive TransportObservation
  | sent (turn : TurnAddress) (event : RealtimeMediaOutputEvent)
  | flushed (turn : TurnAddress) (event : RealtimeMediaFlushEvent)
deriving DecidableEq

-- The turn whose lock an event takes.
def SessionEvent.locks : SessionEvent → Option TurnAddress
  | method i .. | issueProviderPermit i .. => some i
  | _                                      => none

def TurnMethod.stamps : TurnMethod → Bool
  | nextAudioMediaStamp .. | nextVideoMediaStamp .. => true
  | _                                               => false

-- Only the delivery paths ask for stamps.
def SessionEvent.stamps : SessionEvent → Bool
  | method _ x _ => x.stamps
  | _            => false

namespace MediaRuntime

def locked (s : MediaRuntime) (i : TurnAddress) : Bool :=
  (s.stamping i).isSome

-- Writes back what a call has made of the state of a turn and of the timeline.
def writeTurn (s : MediaRuntime) (i : TurnAddress) (turn : ActiveTurn)
    (r : TurnMutableState × MediaTimeline) : MediaRuntime :=
  { s with session :=
      { s.session.setTurn i { turn with state := r.1 } with mediaTimeline := r.2 } }

def deliver (s : MediaRuntime) (i : TurnAddress) (turn : ActiveTurn) (input : MediaInput)
    (nowMillis : Option Nat) : MediaRuntime :=
  match input.contract, nowMillis with
  | .ok (request, payload), some now =>
    match (TurnMutableState.openMediaOrigin request now).run (turn.state, s.session.mediaTimeline) with
    | .error _ r   => s.writeTurn i turn r
    | .ok origin r =>
      { s.writeTurn i turn r with
        stamping := Function.update s.stamping i (some (request, payload, origin)) }
  | _, _ => s

def finishStamp (s : MediaRuntime) (i : TurnAddress) (turn : ActiveTurn) (request : StampRequest)
    (payload : MediaPayload) (origin : MediaTurnOrigin) : MediaRuntime :=
  let released := { s with stamping := Function.update s.stamping i none }
  match (TurnMutableState.finishMediaStamp request origin).run (turn.state, s.session.mediaTimeline) with
  | .error _ r => released.writeTurn i turn r
  | .ok stamp r =>
    { released.writeTurn i turn r with pending := s.pending ++ [.beginOutputSegment i stamp payload] }

def interruptAndFlushMedia (s : MediaRuntime) (i : TurnAddress) (turn : ActiveTurn) : MediaRuntime :=
  match ActiveTurn.interrupt.run (turn, s.session.mediaTimeline) with
  | .error _ r => { s with session := { s.session.setTurn i r.1 with mediaTimeline := r.2 } }
  | .ok _ r    =>
    { s with
      session := { s.session.setTurn i r.1 with mediaTimeline := r.2 }
      pending := s.pending ++ [.mediaFlushContext i] }

-- `ActiveTurn::begin_output_segment` with the id that it returns.
def beginOutputSegment (s : ActiveSession) (nowMillis : Option Nat) :
    EStateM Rt0ReasonCode ActiveTurn Nat := do
  .check id (ActiveTurn.requireExecutionactiveEgress s (← get) nowMillis)
  .zoom ActiveTurn.state (fun turn state => { turn with state }) id TurnMutableState.beginOutputSegment

def receipt : Except TransportErrorKind Unit → Option Receipt
  | .ok ()                    => some .sent
  | .error .deliveryUncertain => some .deliveryUncertain
  | .error _                  => none

-- One step of a call: what it leaves of the session, how the call goes on and what the transport sees.
def execute (s : ActiveSession) (nowMillis : Option Nat) (transport : Except TransportErrorKind Unit) :
    MediaStep → Option (ActiveSession × Option MediaStep × List TransportObservation)
  | .beginOutputSegment i timeline payload => do
    let turn ← s.turns i
    match (beginOutputSegment s nowMillis).run turn with
    | .error _ turn     => return (s.setTurn i turn, none, [])
    | .ok segment turn  => return (s.setTurn i turn, some (.send i segment timeline payload), [])
  | .send i segment timeline payload => do
    let turn ← s.turns i
    let event :=
      { sessionId     := s.session.id
        turnId        := turn.snapshot.turnId
        correlationId := turn.snapshot.correlationId
        timeline, payload }
    let next := (receipt transport).map (.reconcileTransportSend i · segment)
    return (s, next, [.sent i event])
  | .reconcileTransportSend i receipt segment => do
    let turn ← s.turns i
    let state := ((receipt.reconcile segment).run turn.state).state
    return (s.setTurn i { turn with state }, none, [])
  | .mediaFlushContext i => do
    let turn ← s.turns i
    let (epoch, throughSequence) := turn.state.mediaFlushContext
    return (s, some (.flushMedia i epoch throughSequence), [])
  | .flushMedia i epoch throughSequence => do
    let turn ← s.turns i
    let event :=
      { sessionId     := s.session.id
        turnId        := turn.snapshot.turnId
        correlationId := turn.snapshot.correlationId
        epoch, throughSequence }
    return (s, none, [.flushed i event])

end MediaRuntime

-- The turn whose lock a step takes.
def MediaStep.locks : MediaStep → Option TurnAddress
  | beginOutputSegment i .. | reconcileTransportSend i .. | mediaFlushContext i => some i
  | send .. | flushMedia ..                                                     => none

namespace MediaRuntime

def machine : Machine MediaRuntime MediaRuntimeEvent TransportObservation where
  init s := ActiveSession.machine.init s.session ∧ s.stamping = (fun _ => none) ∧ s.pending = []
  step s
    | .session e => do
      guard (!e.locks.any s.locked && !e.stamps)
      let (session, _) ← ActiveSession.machine.step s.session e
      return ({ s with session }, [])
    | .deliver i input nowMillis => do
      guard (!s.locked i)
      let turn ← s.session.ofTurn i
      return (s.deliver i turn input nowMillis, [])
    | .finishStamp i => do
      let (request, payload, origin) ← s.stamping i
      let turn ← s.session.turns i
      return (s.finishStamp i turn request payload origin, [])
    | .interruptAndFlushMedia i => do
      guard (!s.locked i)
      let turn ← s.session.ofTurn i
      return (s.interruptAndFlushMedia i turn, [])
    | .resume k nowMillis transport => do
      let step ← s.pending[k]?
      guard (!step.locks.any s.locked)
      let (session, next, o) ← execute s.session nowMillis transport step
      return ({ s with session, pending := s.pending.eraseIdx k ++ next.toList }, o)

end MediaRuntime
