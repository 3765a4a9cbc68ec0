import PersonaRuntime.Domain.Ids
import PersonaRuntime.Machine.Mutation

inductive MediaTimelineError
  | staleEpoch
  | timestampRegression
  | overflow
deriving DecidableEq, Repr

structure MediaTimelineStamp where
  epoch                  : Nat
  sequence               : Nat
  presentationTimeMicros : Nat
deriving DecidableEq, Repr

structure MediaTurnOrigin where
  epoch        : Nat
  originMicros : Nat
deriving DecidableEq, Repr

-- The state that all turns of one session share behind the mutex of `MediaTimeline`.
structure MediaTimeline where
  epoch                  : Nat
  nextSequence           : Nat
  epochFloorMicros       : Nat
  lastPresentationMicros : Option Nat
deriving DecidableEq, Repr

-- `u64::checked_mul`
def checkedMul (a b : Nat) : Option Nat :=
  if a * b ≤ u64Max then some (a * b) else none

-- `option.ok_or(error)`
def okOr {ε α : Type} (e : ε) : Option α → Except ε α
  | some a => .ok a
  | none   => .error e

namespace MediaTimeline

def new : MediaTimeline where
  epoch                  := 1
  nextSequence           := 1
  epochFloorMicros       := 0
  lastPresentationMicros := none

def openTurnOrigin (timeline : MediaTimeline) (nowMillis : Nat) :
    Except MediaTimelineError MediaTurnOrigin := do
  let nowMicros ← okOr .overflow (checkedMul nowMillis 1000)
  return { epoch := timeline.epoch, originMicros := max nowMicros timeline.epochFloorMicros }

def stamp (origin : MediaTurnOrigin) (relativeMicros : Nat) :
    EStateM MediaTimelineError MediaTimeline MediaTimelineStamp := do
  if origin.epoch ≠ (← get).epoch then
    throw .staleEpoch
  let presentation ← .check id (okOr .overflow (checkedAdd origin.originMicros relativeMicros))
  if (← get).lastPresentationMicros.any (presentation < ·) then
    throw .timestampRegression
  let sequence := (← get).nextSequence
  let nextSequence ← .check id (okOr .overflow (checkedAdd sequence 1))
  modify ({ · with nextSequence })
  modify ({ · with lastPresentationMicros := some presentation })
  return { epoch := (← get).epoch, sequence, presentationTimeMicros := presentation }

def rebase (nowMillis : Nat) : EStateM MediaTimelineError MediaTimeline Nat := do
  let nowMicros ← .check id (okOr .overflow (checkedMul nowMillis 1000))
  let epoch ← .check id (okOr .overflow (checkedAdd (← get).epoch 1))
  modify ({ · with epoch })
  let afterLast := ((← get).lastPresentationMicros.bind (checkedAdd · 1)).getD 0
  modify ({ · with epochFloorMicros := max nowMicros afterLast })
  return (← get).epoch

end MediaTimeline

structure TurnMediaState where
  boundEpoch            : Nat
  origin                : Option MediaTurnOrigin
  audioCursorMicros     : Nat
  videoSourceBaseMicros : Option Nat
  lastVideoSourceMicros : Option Nat
  lastSequence          : Option Nat
deriving DecidableEq, Repr

namespace TurnMediaState

def new (boundEpoch : Nat) : TurnMediaState where
  boundEpoch            := boundEpoch
  origin                := none
  audioCursorMicros     := 0
  videoSourceBaseMicros := none
  lastVideoSourceMicros := none
  lastSequence          := none

-- A stamp works on the media state of its turn and on the timeline of the session.
abbrev Stamping := EStateM MediaTimelineError (TurnMediaState × MediaTimeline)

def modifyTurn (f : TurnMediaState → TurnMediaState) : Stamping Unit :=
  modify fun s => (f s.1, s.2)

def onTimeline {α : Type} (x : EStateM MediaTimelineError MediaTimeline α) : Stamping α :=
  .zoom Prod.snd (fun s timeline => (s.1, timeline)) id x

def openOrigin (nowMillis : Nat) : Stamping MediaTurnOrigin := do
  let (turn, timeline) ← get
  match turn.origin with
  | some origin => return origin
  | none =>
    let origin ← .check id (timeline.openTurnOrigin nowMillis)
    if origin.epoch ≠ turn.boundEpoch then
      throw .staleEpoch
    modifyTurn ({ · with origin := some origin })
    return origin

def nextAudioStamp (nowMillis durationMicros : Nat) : Stamping MediaTimelineStamp := do
  let origin ← openOrigin nowMillis
  let relativeMicros := (← get).1.audioCursorMicros
  let stamp ← onTimeline (MediaTimeline.stamp origin relativeMicros)
  let cursor ← .check id (okOr .overflow (checkedAdd (← get).1.audioCursorMicros durationMicros))
  modifyTurn ({ · with audioCursorMicros := cursor })
  modifyTurn ({ · with lastSequence := some stamp.sequence })
  return stamp

def nextVideoStamp (nowMillis sourceTimestampMicros : Nat) : Stamping MediaTimelineStamp := do
  if (← get).1.lastVideoSourceMicros.any (sourceTimestampMicros < ·) then
    throw .timestampRegression
  let origin ← openOrigin nowMillis
  let base := (← get).1.videoSourceBaseMicros.getD sourceTimestampMicros
  if sourceTimestampMicros < base then
    throw .timestampRegression
  let stamp ← onTimeline (MediaTimeline.stamp origin (sourceTimestampMicros - base))
  modifyTurn fun turn =>
    { turn with videoSourceBaseMicros := turn.videoSourceBaseMicros <|> some sourceTimestampMicros }
  modifyTurn ({ · with lastVideoSourceMicros := some sourceTimestampMicros })
  modifyTurn ({ · with lastSequence := some stamp.sequence })
  return stamp

def flushContext (turn : TurnMediaState) : Nat × Option Nat :=
  (turn.origin.elim turn.boundEpoch (·.epoch), turn.lastSequence)

end TurnMediaState
