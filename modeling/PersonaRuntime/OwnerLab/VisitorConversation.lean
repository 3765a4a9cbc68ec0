import PersonaRuntime.Runtime.Session

-- A stored handle of a session is always one of the session that the engine has started.
structure LiveVisitorInterrupt where
  cancelled   : Bool
  session     : Bool
  turn        : Option TurnAddress
  backendStop : Bool
deriving DecidableEq

-- Where a call of `LiveVisitorInterrupt::revoke_authority_only` is that has set `cancelled`.
inductive RevokePoint
  | turn
  | interruptTurn (turn : TurnAddress)
  | session
  | revokeAuthority
  | returned
deriving DecidableEq

-- The provider operations of `start_scoped`.
inductive AvatarOperation
  | openRealtimeAvatar
  | prepareClientInterrupt
deriving DecidableEq

-- Where `Rt1VisitorConversation::start` is, from the registration of its callbacks on.
inductive StartPoint
  | authorizePersona
  | startScoped
  -- The callback that registers the startup turn.
  | storeTurn (turn : TurnAddress)
  | loadCancelled (turn : TurnAddress)
  | interruptTurn (turn : TurnAddress)
  | beginAvatarPreparation (turn : TurnAddress)
  -- A provider operation of the startup turn.
  | issueProviderPermit (turn : TurnAddress) (operation : AvatarOperation)
  | beginProviderEgress (turn : TurnAddress) (operation : AvatarOperation)
  | provider (turn : TurnAddress) (operation : AvatarOperation)
  | isCancelled (turn : TurnAddress)
  | dropPermit (turn : TurnAddress) (operation : AvatarOperation) (done : Bool)
  | clearTurn (started : Bool)
  | storeSession
  | storeBackendStop
  | reloadCancelled
  | reauthorizePersona
  | returning
  -- `LiveVisitorInterrupt::stop`
  | stop (point : RevokePoint)
  | stopProvider
  | returned (ok : Bool)
deriving DecidableEq

inductive VisitorOperation
  | submitAnswer
  | submitIce
  | textTurn
  | voiceTurn
deriving DecidableEq

-- Where one of these calls is.
inductive CallPoint
  | loadCancelled (operation : VisitorOperation)
  | loadBackendStop (operation : VisitorOperation)
  | stageMicrophoneAudio
  | beginProviderEgress
  | recheckCancelled
  | lockEngine
  | newTurn
  | authorize (turn : TurnAddress)
  | beginProcessing (turn : TurnAddress)
  -- The callback that registers the turn.
  | storeTurn (turn : TurnAddress)
  | recheckTurn (turn : TurnAddress)
  | interruptTurn (turn : TurnAddress)
  -- Whatever the engine does with the turn that is registered.
  | work (turn : TurnAddress)
  | unlockEngine
  | clearTurn
  | dropPermit
  | returned
deriving DecidableEq

-- The text and the voice turn need a stop handle to begin with.
def VisitorOperation.first : VisitorOperation → CallPoint
  | submitAnswer | submitIce       => .beginProviderEgress
  | o@textTurn | o@voiceTurn       => .loadCancelled o

-- A conversation with the calls that act on it. `engine` and `egress` are its engine mutex and its
-- `VisitorEgressState`. The handles in the slots do not count as owners of their turn.
structure VisitorConversation where
  interrupt : LiveVisitorInterrupt
  session   : Option ActiveSession
  start     : StartPoint
  revokes   : List RevokePoint
  calls     : List CallPoint
  engine    : Bool
  egress    : Bool

-- What a step may get from the manager, the provider and the clock, and the identifiers that the
-- counters of the engine give.
structure ConversationEnvironment where
  accepts       : Bool
  now           : Option Nat
  turn          : TurnAddress
  turnId        : TurnId
  correlationId : CorrelationId
  -- What the engine does next with its turn, until it is done with it.
  work          : Option SessionEvent

inductive ConversationEvent
  | revoke
  | resumeRevoke (k : Nat)
  | start (env : ConversationEnvironment)
  | call (operation : VisitorOperation)
  | resumeCall (k : Nat) (env : ConversationEnvironment)

inductive ConversationObservation
  | session (o : SessionObservation)
  -- A call of `revoke_authority_only` has returned.
  | revoked
  | started (ok : Bool)

deriving instance DecidableEq for GateWriter, SessionObservation, ConversationObservation

-- The operations of a turn that is there, and the end of any provider call.
def SessionEvent.concerns (i : TurnAddress) : SessionEvent → Bool
  | cloneHandle j | dropHandle j | method j _ _ | issueProviderPermit j _ _ _ => j = i
  | beginProviderEgress _ _ | dropPermit _                                    => true
  | _                                                                         => false

namespace VisitorConversation

def providerScope : AuthorityScope :=
  ⟨"provider.egress", by decide⟩

-- `start_scoped`, with the authority of `provider_authority`
def startSecurity : SessionSecurityConfig where
  effectiveAuthority   := .compose [⟨{providerScope}, ∅⟩]
  expiresAtMillis      := none
  providerPolicyAllows := true
  consent              := .granted
  localOnlyRequired    := false

abbrev Step := VisitorConversation × List ConversationObservation

-- What happens to the session, if it is there and can take the step.
def onSession (s : VisitorConversation) (e : SessionEvent) : Step :=
  match s.session.bind (ActiveSession.machine.step · e) with
  | some (session, o) => ({ s with session := some session }, o.map .session)
  | none              => (s, [])

def turnState (s : VisitorConversation) (i : TurnAddress) : Option TurnState :=
  (s.session.bind (·.turns i)).map (·.state.state)

def turnCancelled (s : VisitorConversation) (i : TurnAddress) : Bool :=
  (s.session.bind (·.turns i)).any (·.cancelled)

-- One step of `revoke_authority_only`.
def revokeAuthorityOnly (s : VisitorConversation) : RevokePoint → Step × RevokePoint
  | .turn =>
    match s.interrupt.turn with
    | some i => ((s, []), .interruptTurn i)
    | none   => ((s, []), .session)
  | .interruptTurn i  => (s.onSession (.method i .interrupt none), .session)
  | .session          => ((s, []), if s.interrupt.session then .revokeAuthority else .returned)
  | .revokeAuthority  => (s.onSession (.write .revoke), .returned)
  | .returned         => ((s, []), .returned)

variable (persona : PersonaIdentity) (sessionId : SessionId)

-- The part of `start_scoped` before its turn is registered. Nobody else knows of the session before.
def startScoped (env : ConversationEnvironment) : Option ActiveSession :=
  let i := env.turn
  let created := ActiveSession.new sessionId persona.id startSecurity
  (ActiveSession.machine.replay created
    [.activate, .newTurn i env.turnId env.correlationId persona, .method i .authorize env.now,
      .method i .beginProcessing env.now]).bind fun (session, _) =>
    -- The turn is only processing if none of the steps has failed.
    if (session.turns i).any (·.state.state = .processing) then some session else none

def startStep (s : VisitorConversation) (env : ConversationEnvironment) : Option Step :=
  match s.start with
  | .authorizePersona =>
    some ({ s with start := if env.accepts then .startScoped else .returned false },
      if env.accepts then [] else [.started false])
  | .startScoped =>
    match startScoped persona sessionId env with
    | some session => some ({ s with session := some session, start := .storeTurn env.turn }, [])
    | none         => some ({ s with start := .clearTurn false }, [])
  | .storeTurn i => some ({ s with interrupt.turn := some i, start := .loadCancelled i }, [])
  | .loadCancelled i =>
    some ({ s with start := if s.interrupt.cancelled then .interruptTurn i else .beginAvatarPreparation i }, [])
  | .interruptTurn i =>
    let (s, o) := s.onSession (.method i .interrupt none)
    some ({ s with start := .beginAvatarPreparation i }, o)
  | .beginAvatarPreparation i =>
    let next := if env.accepts then .issueProviderPermit i .openRealtimeAvatar else .clearTurn false
    some ({ s with start := next }, [])
  | .issueProviderPermit i operation =>
    let (s', o) := s.onSession (.issueProviderPermit i providerScope .biometric env.now)
    let issued := (s'.session.any (·.calls ≠ []) : Bool)
    some ({ s' with start := if issued then .beginProviderEgress i operation else .clearTurn false }, o)
  | .beginProviderEgress i operation =>
    let (s', o) := s.onSession (.beginProviderEgress 0 env.now)
    some ({ s' with start := if o = [] then .clearTurn false else .provider i operation }, o)
  | .provider i operation =>
    let next :=
      if !env.accepts then .dropPermit i operation false
      else if operation = .openRealtimeAvatar then .isCancelled i
      else .dropPermit i operation true
    some ({ s with start := next }, [])
  | .isCancelled i =>
    some ({ s with start := .dropPermit i .openRealtimeAvatar (!s.turnCancelled i) }, [])
  | .dropPermit i operation done =>
    let (s, o) := s.onSession (.dropPermit 0)
    -- Whether the client has a control that needs a prepared interruption.
    let next :=
      if done ∧ operation = .openRealtimeAvatar ∧ env.accepts then .issueProviderPermit i .prepareClientInterrupt
      else .clearTurn done
    some ({ s with start := next }, o)
  | .clearTurn started =>
    some ({ s with interrupt.turn := none, start := if started then .storeSession else .returned false },
      if started then [] else [.started false])
  | .storeSession     => some ({ s with interrupt.session := true, start := .storeBackendStop }, [])
  | .storeBackendStop => some ({ s with interrupt.backendStop := env.accepts, start := .reloadCancelled }, [])
  | .reloadCancelled  =>
    some ({ s with start := if s.interrupt.cancelled then .stop .turn else .reauthorizePersona }, [])
  | .reauthorizePersona =>
    if env.accepts then
      some ({ s with start := .returning }, [])
    else
      some ({ s with interrupt.cancelled := true, start := .stop .turn }, [])
  | .returning      => some ({ s with start := .returned true }, [.started true])
  | .stop .returned => some ({ s with interrupt.backendStop := false, start := .stopProvider }, [])
  | .stop point     =>
    let ((s, o), point) := s.revokeAuthorityOnly point
    some ({ s with start := .stop point }, o)
  | .stopProvider =>
    -- `OwnerLabEngine::close`, once the provider has closed.
    let s' := if env.accepts then ((s.onSession .beginDraining).1.onSession .close).1 else s
    some ({ s' with start := .returned false }, [.started false])
  | .returned _ => none

def callStep (s : VisitorConversation) (env : ConversationEnvironment) : CallPoint → Option (Step × CallPoint)
  | .loadCancelled operation =>
    some ((s, []), if s.interrupt.cancelled then .returned else .loadBackendStop operation)
  | .loadBackendStop operation =>
    let next := if operation = .voiceTurn then .stageMicrophoneAudio else .beginProviderEgress
    some ((s, []), if s.interrupt.backendStop then next else .returned)
  | .stageMicrophoneAudio =>
    some ((s, []), if !s.interrupt.cancelled && env.accepts then .beginProviderEgress else .returned)
  | .beginProviderEgress =>
    if env.accepts ∧ s.egress = false then
      some (({ s with egress := true }, []), .recheckCancelled)
    else
      some ((s, []), .returned)
  | .recheckCancelled => some ((s, []), if s.interrupt.cancelled then .dropPermit else .lockEngine)
  | .lockEngine       => if s.engine then none else some (({ s with engine := true }, []), .newTurn)
  | .newTurn =>
    -- Whatever the engine checks before its turn, it may refuse the call.
    if env.accepts ∧ s.turnState env.turn = none then
      let (s', o) := s.onSession (.newTurn env.turn env.turnId env.correlationId persona)
      some ((s', o), if (s'.turnState env.turn).isSome then .authorize env.turn else .unlockEngine)
    else
      some ((s, []), .unlockEngine)
  | .authorize i =>
    let (s', o) := s.onSession (.method i .authorize env.now)
    some ((s', o), if s'.turnState i = some .authorized then .beginProcessing i else .unlockEngine)
  | .beginProcessing i =>
    let (s', o) := s.onSession (.method i .beginProcessing env.now)
    some ((s', o), if s'.turnState i = some .processing then .storeTurn i else .unlockEngine)
  | .storeTurn i     => some (({ s with interrupt.turn := some i }, []), .recheckTurn i)
  | .recheckTurn i   => some ((s, []), if s.interrupt.cancelled then .interruptTurn i else .work i)
  | .interruptTurn i => some (s.onSession (.method i .interrupt none), .work i)
  | .work i =>
    match env.work with
    | none   => some ((s, []), .unlockEngine)
    | some e => if e.concerns i then some (s.onSession e, .work i) else none
  | .unlockEngine => some (({ s with engine := false }, []), .clearTurn)
  -- The last checks of a call only decide what it returns.
  | .clearTurn    => some (({ s with interrupt.turn := none }, []), .dropPermit)
  | .dropPermit   => some (({ s with egress := false }, []), .returned)
  | .returned     => none

def new : VisitorConversation where
  interrupt := ⟨false, false, none, false⟩
  session   := none
  start     := .authorizePersona
  revokes   := []
  calls     := []
  engine    := false
  egress    := false

def machine : Machine VisitorConversation ConversationEvent ConversationObservation where
  init s := s = new
  step s
    | .revoke =>
      some ({ s with interrupt.cancelled := true, revokes := s.revokes ++ [.turn] }, [])
    | .resumeRevoke k =>
      match s.revokes[k]? with
      | none | some .returned => none
      | some point            =>
        let ((s, o), point) := s.revokeAuthorityOnly point
        some ({ s with revokes := s.revokes.set k point }, o ++ if point = .returned then [.revoked] else [])
    | .start env => s.startStep persona sessionId env
    | .call operation =>
      if s.start = .returned true then some ({ s with calls := s.calls ++ [operation.first] }, []) else none
    | .resumeCall k env =>
      (s.calls[k]?.bind (s.callStep persona env)).map fun ((s, o), point) =>
        ({ s with calls := s.calls.set k point }, o)

end VisitorConversation
