import PersonaRuntime.Machine.Basic
import PersonaRuntime.Runtime.MediaTimeline

inductive StampRequest
  | audio (durationMicros : Nat)
  | video (sourceTimestampMicros : Nat)
deriving DecidableEq, Repr

namespace StampRequest

def call (nowMillis : Nat) : StampRequest → TurnMediaState.Stamping MediaTimelineStamp
  | audio duration => TurnMediaState.nextAudioStamp nowMillis duration
  | video source   => TurnMediaState.nextVideoStamp nowMillis source

-- A stamp holds the lock of its turn and takes the lock of the timeline twice. This is all up to the
-- first release, which opens the origin of the turn ...
def openOrigin (nowMillis : Nat) : StampRequest → TurnMediaState.Stamping MediaTurnOrigin
  | audio _ => TurnMediaState.openOrigin nowMillis
  | video source => do
    if (← get).1.lastVideoSourceMicros.any (source < ·) then
      throw .timestampRegression
    TurnMediaState.openOrigin nowMillis

-- ... and this is the rest.
def stamp (origin : MediaTurnOrigin) : StampRequest → TurnMediaState.Stamping MediaTimelineStamp
  | audio duration => do
    let relativeMicros := (← get).1.audioCursorMicros
    let stamp ← TurnMediaState.onTimeline (MediaTimeline.stamp origin relativeMicros)
    let cursor ← .check id (okOr .overflow (checkedAdd (← get).1.audioCursorMicros duration))
    TurnMediaState.modifyTurn ({ · with audioCursorMicros := cursor })
    TurnMediaState.modifyTurn ({ · with lastSequence := some stamp.sequence })
    return stamp
  | video source => do
    let base := (← get).1.videoSourceBaseMicros.getD source
    if source < base then
      throw .timestampRegression
    let stamp ← TurnMediaState.onTimeline (MediaTimeline.stamp origin (source - base))
    TurnMediaState.modifyTurn fun turn =>
      { turn with videoSourceBaseMicros := turn.videoSourceBaseMicros <|> some source }
    TurnMediaState.modifyTurn ({ · with lastVideoSourceMicros := some source })
    TurnMediaState.modifyTurn ({ · with lastSequence := some stamp.sequence })
    return stamp

theorem call_eq (nowMillis : Nat) (r : StampRequest) :
    r.call nowMillis = r.openOrigin nowMillis >>= r.stamp := by
  cases r
  case audio => rfl
  case video source =>
    simp only [call, TurnMediaState.nextVideoStamp, openOrigin, bind_assoc]
    congr 1
    funext s
    split <;> rfl

end StampRequest

-- The media state of a turn and the stamp that holds the lock of the turn, if there is one.
structure MediaTurn where
  media    : TurnMediaState
  stamping : Option (StampRequest × MediaTurnOrigin)
deriving DecidableEq

-- The media side of a session: the timeline with all the turns that share it.
structure MediaSession where
  timeline : MediaTimeline
  turns    : List MediaTurn
deriving DecidableEq

inductive TimelineEvent
  | newTurn
  | openOrigin (turn : Nat) (request : StampRequest) (nowMillis : Nat)
  | stamp (turn : Nat)
  | rebase (nowMillis : Nat)

inductive TimelineObservation
  | created (turn epoch : Nat)
  | stamped (turn : Nat) (stamp : MediaTimelineStamp)
  | rebased (epoch : Nat)
  | failed (error : MediaTimelineError)
deriving DecidableEq

namespace MediaSession

def new : MediaSession where
  timeline := .new
  turns    := []

def machine : Machine MediaSession TimelineEvent TimelineObservation where
  init s := s = .new
  step s
    | .newTurn =>
      let turn := ⟨.new s.timeline.epoch, none⟩
      some ({ s with turns := s.turns ++ [turn] }, [.created s.turns.length s.timeline.epoch])
    | .openOrigin i request nowMillis => do
      let turn ← s.turns[i]?
      guard turn.stamping.isNone
      match (request.openOrigin nowMillis).run (turn.media, s.timeline) with
      | .ok origin (media, timeline) =>
        return (⟨timeline, s.turns.set i ⟨media, some (request, origin)⟩⟩, [])
      | .error e (media, timeline)   => return (⟨timeline, s.turns.set i ⟨media, none⟩⟩, [.failed e])
    | .stamp i => do
      let turn ← s.turns[i]?
      let (request, origin) ← turn.stamping
      match (request.stamp origin).run (turn.media, s.timeline) with
      | .ok stamp (media, timeline) => return (⟨timeline, s.turns.set i ⟨media, none⟩⟩, [.stamped i stamp])
      | .error e (media, timeline)  => return (⟨timeline, s.turns.set i ⟨media, none⟩⟩, [.failed e])
    | .rebase nowMillis =>
      match (MediaTimeline.rebase nowMillis).run s.timeline with
      | .ok epoch timeline => some ({ s with timeline }, [.rebased epoch])
      | .error e timeline  => some ({ s with timeline }, [.failed e])

end MediaSession
