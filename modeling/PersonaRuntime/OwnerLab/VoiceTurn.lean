import PersonaRuntime.OwnerLab.VoicePhrase
import PersonaRuntime.OwnerLab.VoicePlayback
import PersonaRuntime.OwnerLab.VoiceStt

inductive LlmEvent
  | phrase (phrase : List Char)
  | finished (reply : List Char) (firstMeaningful : Bool)
  | failed (error : ProviderExecutionError)

-- Where the thread of `produce` is once it has made the sends that are due.
inductive LlmProduction
  | opening
  | reading (reply : List Char) (firstMeaningful : Bool) (phrases : RealtimePhraseBuffer)
  | over

structure LlmProducer where
  outbox     : List LlmEvent
  production : LlmProduction

-- The thread has not begun or it has ended, so that it holds no sender.
def LlmProducer.ended (p : LlmProducer) : Bool :=
  match p with
  | ⟨[], .over⟩ => true
  | _           => false

-- What the call reads of its engine, which it has for itself.
structure VoiceEngine where
  stt             : Bool
  llm             : Bool
  avatar          : Bool
  sessionAudience : Option LabSessionAudience
  tts             : Bool
  -- The client control of the avatar handle takes text.
  clientText      : Bool

-- Where the call is. A point stands before the call of the source that it is named after.
inductive VoicePoint
  | authorize
  | beginProcessing
  | transcribe
  | instruct
  | receive
  | beginOutput (phrase : List Char)
  -- What comes before the segment: the check of the handle, a speech that is made in one piece, and
  -- the permit.
  | prepare (phrase : List Char)
  | beginOutputSegment (phrase : List Char)
  | speak (phrase : List Char) (segment : Nat)
  | acknowledgeOutputSent (phrase : List Char) (segment : Nat)
  | registerDelivery (segment : Nat)
  | emitSegment (sequence : Nat)
  -- `terminalize_failed_turn` reads the state, fails the turn, and reads the state again if it cannot.
  | terminalize (error : LabError)
  | fail (error : LabError)
  | refused (reason : Rt0ReasonCode)
  -- The scope waits for the producer. A call that has not come to the scope has none.
  | leave (result : Except LabError (List Char))
  | complete (reply : List Char)
  | returned (result : Except LabError (List Char))
deriving DecidableEq

-- The receiver lives until the closure of the scope returns.
def VoicePoint.receiving : VoicePoint → Bool
  | leave _ | complete _ | returned _ => false
  | _                                 => true

-- A call of `voice_turn_streaming` from its new turn on, or of `finish_voice_input_streaming`.
structure VoiceTurn where
  session         : ActiveSession
  registry        : LabVoicePlaybackRegistry
  producer        : LlmProducer
  channel         : List LlmEvent
  outputStarted   : Bool
  outputSequences : List Nat
  point           : VoicePoint

inductive VoiceObservation
  | generated (phrase : List Char)
  | speaking (phrase : List Char)
  | delivered (phrase : List Char)
  | emitted (sequence : Nat)
deriving DecidableEq

-- An answer is what the providers or `emit_segment` give to the step, behind a permit or the refusal of
-- one. The errors of the consumer come as the engine maps them.
inductive VoiceTurnEvent
  | session (e : SessionEvent)
  | clear
  | produce (answer : Except ProviderExecutionError (Option (List Char)))
  | consume (nowMillis : Option Nat) (answer : Except LabError Unit)

-- A step on the session that leaves the turn to its call: all that others have of it are interrupt
-- handles and the registered deliveries.
def SessionEvent.foreign (s : ActiveSession) (i : TurnAddress) : SessionEvent → Bool
  | .dropHandle j                 => j ≠ i || (s.turns i).any (1 < ·.owners)
  | .method _ .interrupt _        => true
  | .method _ (.reconcile ..) _   => true
  | .method j _ _                 => j ≠ i
  | _                             => true

-- A method of the turn that the caller holds.
def ActiveSession.callMethod (s : ActiveSession) (i : TurnAddress) (m : TurnMethod) (nowMillis : Option Nat) :
    Option (Except Rt0ReasonCode Unit × ActiveSession) := do
  let turn ← s.turns i
  let result := (m.call s nowMillis).run (turn, s.mediaTimeline)
  return (result.toExcept, { s.setTurn i result.state.1 with mediaTimeline := result.state.2 })

namespace VoiceTurn

def channelBound : Nat :=
  2

variable (engine : VoiceEngine) (i : TurnAddress) (evidenceTurnSequence : Nat)

def turn (s : VoiceTurn) : Option ActiveTurn :=
  s.session.turns i

def fails (s : VoiceTurn) (error : LabError) : VoiceTurn :=
  { s with point := .leave (.error error) }

-- `turn.x().map_err(LabError::Runtime)?`
def advance (s : VoiceTurn) (m : TurnMethod) (nowMillis : Option Nat) (next : VoiceTurn)
    (shown : List VoiceObservation) : Option (VoiceTurn × List VoiceObservation) := do
  let (result, session) ← s.session.callMethod i m nowMillis
  match result with
  | .ok _         => return ({ next with session }, shown)
  | .error reason => return ({ s.fails (.runtime reason) with session }, [])

-- The result of a call whose error is terminalized.
def orTerminalize (s : VoiceTurn) (result : Except LabError Unit) (next : VoiceTurn) : VoiceTurn :=
  match result with
  | .ok _        => next
  | .error error => { s with point := .terminalize error }

def receive (s : VoiceTurn) : Option (VoiceTurn × List VoiceObservation) :=
  match s.channel with
  | [] => if s.producer.ended then some ({ s with point := .terminalize .invalidInput }, []) else none
  | .phrase phrase :: channel =>
    if s.outputStarted then
      some ({ s with channel, point := .prepare phrase }, [.speaking phrase])
    else
      some ({ s with channel, point := .beginOutput phrase }, [])
  | .failed error :: channel =>
    some ({ s with channel, point := .terminalize (mapProviderExecution error) }, [])
  | .finished reply firstMeaningful :: channel =>
    if !firstMeaningful || (trimmed reply).isEmpty || s.outputSequences.isEmpty then
      some ({ s with channel, point := .terminalize .invalidInput }, [])
    else
      some ({ s with channel, point := .leave (.ok reply) }, [])

-- The segment that is opened has the number that the turn has ready for it.
def openSegment (s : VoiceTurn) (phrase : List Char) (nowMillis : Option Nat) : Option VoiceTurn := do
  let turn ← s.turn i
  let (result, session) ← s.session.callMethod i .beginOutputSegment nowMillis
  let opened := { s with session }
  return opened.orTerminalize (result.mapError .runtime) { opened with point := .speak phrase turn.state.nextSegmentId }

-- The delivery of the text to a client is not acknowledged by the call.
def acknowledges : Bool :=
  engine.tts || !engine.clientText

def sent (s : VoiceTurn) (phrase : List Char) (segment : Nat) : VoiceTurn × List VoiceObservation :=
  ({ s with point := .registerDelivery segment }, [.delivered phrase])

def terminalize (s : VoiceTurn) (error : LabError) : Option VoiceTurn := do
  let turn ← s.turn i
  match turn.state.state with
  | .processing | .outputting => return { s with point := .fail error }
  | .cancelled                => return s.fails (.runtime .turnCancelled)
  | _                         => return s.fails error

def fail (s : VoiceTurn) (error : LabError) (nowMillis : Option Nat) : Option VoiceTurn := do
  let (result, session) ← s.session.callMethod i .fail nowMillis
  match result with
  | .ok _         => return { s.fails error with session }
  | .error reason => return { s with session, point := .refused reason }

def refused (s : VoiceTurn) (reason : Rt0ReasonCode) : Option VoiceTurn := do
  let turn ← s.turn i
  return s.fails (.runtime (if turn.state.state = .cancelled then .turnCancelled else reason))

def leave (s : VoiceTurn) (result : Except LabError (List Char)) : Option VoiceTurn :=
  if !s.producer.ended then
    none
  else
    match result with
    | .error error => some { s with point := .returned (.error error) }
    | .ok reply    =>
      if s.outputSequences.isEmpty then
        some { s with point := .terminalize .invalidInput }
      else
        some { s with point := .complete reply }

def quietly (s : Option VoiceTurn) : Option (VoiceTurn × List VoiceObservation) :=
  s.map fun s => (s, [])

def consume (s : VoiceTurn) (nowMillis : Option Nat) (answer : Except LabError Unit) :
    Option (VoiceTurn × List VoiceObservation) :=
  match s.point with
  | .authorize       => s.advance i .authorize nowMillis { s with point := .beginProcessing } []
  | .beginProcessing => s.advance i .beginProcessing nowMillis { s with point := .transcribe } []
  | .transcribe      =>
    if !engine.stt then
      some (s.fails .invalidState, [])
    else
      some (s.orTerminalize answer { s with point := .instruct }, [])
  | .instruct        =>
    if engine.sessionAudience.isNone || !engine.llm || !engine.avatar then
      some (s.fails .invalidState, [])
    else
      some ({ s with producer := ⟨[], .opening⟩, point := .receive }, [])
  | .receive         => s.receive
  | .beginOutput phrase =>
    s.advance i .beginOutput nowMillis { s with outputStarted := true, point := .prepare phrase } [.speaking phrase]
  | .prepare phrase  => some (s.orTerminalize answer { s with point := .beginOutputSegment phrase }, [])
  | .beginOutputSegment phrase => quietly (s.openSegment i phrase nowMillis)
  | .speak phrase segment      =>
    match answer with
    | .error error => some ({ s with point := .terminalize error }, [])
    | .ok _        =>
      if acknowledges engine then
        some ({ s with point := .acknowledgeOutputSent phrase segment }, [])
      else
        some (s.sent phrase segment)
  | .acknowledgeOutputSent phrase segment => do
    let (result, session) ← s.session.callMethod i (.reconcile .sent segment) nowMillis
    match result with
    | .ok _         => return { s with session }.sent phrase segment
    | .error reason => return ({ s with session, point := .terminalize (.runtime reason) }, [])
  | .registerDelivery segment =>
    match s.registry.registerDelivery evidenceTurnSequence evidenceTurnSequence ⟨evidenceTurnSequence, segment⟩ with
    | .error error  => some (s.fails error, [])
    | .ok registry  => some ({ s with registry, point := .emitSegment segment }, [])
  | .emitSegment sequence =>
    some (s.orTerminalize answer
      { s with outputSequences := s.outputSequences ++ [sequence], point := .receive }, [.emitted sequence])
  | .terminalize error => quietly (s.terminalize i error)
  | .fail error        => quietly (s.fail i error nowMillis)
  | .refused reason    => quietly (s.refused i reason)
  | .leave result      => quietly (s.leave result)
  | .complete reply    => s.advance i .complete nowMillis { s with point := .returned (.ok reply) } []
  | .returned _        => none

-- A step of the thread of `produce`: one of its sends or, when it has none to make, what it sends next.
def produce (s : VoiceTurn) (answer : Except ProviderExecutionError (Option (List Char))) :
    Option (VoiceTurn × List VoiceObservation) :=
  match s.producer.outbox with
  | event :: outbox =>
    if !s.point.receiving then
      some ({ s with producer := ⟨[], .over⟩ }, [])
    else if s.channel.length < channelBound then
      some ({ s with channel := s.channel ++ [event], producer := { s.producer with outbox } }, [])
    else
      none
  | [] =>
    match s.producer.production, answer with
    | .over, _            => none
    | _, .error error     => some ({ s with producer := ⟨[.failed error], .over⟩ }, [])
    | .opening, .ok _     => some ({ s with producer := ⟨[], .reading [] false .default⟩ }, [])
    | .reading reply firstMeaningful phrases, .ok (some chunk) =>
      let (said, phrases) := phrases.push chunk
      let production := .reading (reply ++ chunk) (firstMeaningful || !(trimmed chunk).isEmpty) phrases
      some ({ s with producer := ⟨said.map .phrase, production⟩ }, said.map .generated)
    | .reading reply firstMeaningful phrases, .ok none =>
      let said := phrases.finish.1
      some ({ s with producer := ⟨said.map .phrase ++ [.finished reply firstMeaningful], .over⟩ },
        said.map .generated)

-- The call has a new turn, for which the providers have been found, or the one of an accepted input. No
-- segment of it is open and nothing is registered under its number.
def machine : Machine VoiceTurn VoiceTurnEvent VoiceObservation where
  init s := (∃ t, ActiveSession.machine.Run t s.session) ∧
    (∃ turn, s.session.ofTurn i = some turn ∧ turn.state.outputSegments = [] ∧
      (s.point = .authorize ∧ turn.state.state = .received ∧ (engine.stt && engine.llm && engine.avatar) = true ∨
        (s.point = .transcribe ∨ s.point = .terminalize .invalidInput) ∧
          (turn.state.state = .processing ∨ turn.state.state.frozen = true))) ∧
    s.registry[evidenceTurnSequence]? = none ∧ s.producer = ⟨[], .over⟩ ∧ s.channel = [] ∧
    s.outputStarted = false ∧ s.outputSequences = []
  step s
    | .session e           =>
      if e.foreign s.session i then
        (ActiveSession.machine.step s.session e).map fun (session, _) => ({ s with session }, [])
      else none
    | .clear               => some ({ s with registry := ∅ }, [])
    | .produce answer      => s.produce answer
    | .consume now answer  => s.consume engine i evidenceTurnSequence now answer

end VoiceTurn
