import PersonaRuntime.Domain.Persona
import PersonaRuntime.Runtime.Authority
import PersonaRuntime.Runtime.TurnState

-- A turn with everything that it shares with its handles. `owners` counts the `ActiveTurn` and its
-- interrupt handles, each of which holds the cancellation flag.
structure ActiveTurn where
  state                 : TurnMutableState
  snapshot              : TurnExecutionSnapshot
  authorizationSnapshot : AuthorizationSnapshot
  egressPolicySnapshot  : EgressPolicySnapshot
  cancelled             : Bool
  owners                : Nat
deriving DecidableEq

-- A call of `issue_provider_permit` between its two halves.
structure ProviderCall where
  cancellation  : ProviderCancellation
  requiredScope : AuthorityScope
  dataClass     : DataClass
deriving DecidableEq

structure SessionSecurityConfig where
  effectiveAuthority   : EffectiveAuthority
  expiresAtMillis      : Option Nat
  providerPolicyAllows : Bool
  consent              : ConsentState
  localOnlyRequired    : Bool
deriving DecidableEq

-- A session with everything that is reached through it: the state of both controllers, the count of
-- pending provider operations, the turns, the calls between their halves and the permits whose
-- operation is running.
structure ActiveSession where
  session       : RealtimeSession
  authorization : AuthorizationRuntimeState
  egressPolicy  : EgressPolicyRuntimeState
  activeEgress  : Nat
  mediaTimeline : MediaTimeline
  turns         : TurnAddress → Option ActiveTurn
  calls         : List ProviderCall
  permits       : List ProviderCancellation

namespace ActiveSession

def new (id : SessionId) (personaId : PersonaId) (security : SessionSecurityConfig) :
    ActiveSession where
  session       := .new id personaId
  authorization := .new security.expiresAtMillis security.effectiveAuthority
  egressPolicy  := .new security.providerPolicyAllows security.consent security.localOnlyRequired
  activeEgress  := 0
  mediaTimeline := .new
  turns _       := none
  calls         := []
  permits       := []

-- `strong_count() > 0` for the cancellation flag at `i`.
def live (s : ActiveSession) (i : TurnAddress) : Bool :=
  (s.turns i).any (0 < ·.owners) || s.calls.any (·.cancellation.turn = i) || s.permits.any (·.turn = i)

def setTurn (s : ActiveSession) (i : TurnAddress) (turn : ActiveTurn) : ActiveSession :=
  { s with turns := Function.update s.turns i (some turn) }

def cancelTurns (s : ActiveSession) (stale : TurnAddress → Bool) : ActiveSession :=
  { s with turns := fun i =>
      (s.turns i).map fun turn => { turn with cancelled := turn.cancelled || stale i } }

abbrev Update := EStateM RuntimeDenyReason ActiveSession

def onAuthorization (x : AuthorizationState.Update Unit) : Update Unit :=
  .zoom (·.authorization.authorization)
    (fun s authorization => { s with authorization := { s.authorization with authorization } })
    (fun _ => .internalError) x

def cancelStaleBoundTurns : Update Unit :=
  modify fun s =>
    let bound := s.authorization.boundTurns
    let swept := s.cancelTurns (bound.stale s.live s.authorization.authorization.epoch)
    { swept with authorization := { s.authorization with boundTurns := bound.prune s.live } }

def revokeAuthority : Update Unit := do
  onAuthorization AuthorizationState.revoke
  cancelStaleBoundTurns

def replace (expiresAtMillis : Option Nat) : Update Unit := do
  onAuthorization (AuthorizationState.replace expiresAtMillis)
  cancelStaleBoundTurns

def replaceEffectiveAuthority (effectiveAuthority : EffectiveAuthority)
    (expiresAtMillis : Option Nat) : Update Unit := do
  onAuthorization (AuthorizationState.replace expiresAtMillis)
  modify fun s => { s with authorization := { s.authorization with effectiveAuthority } }
  cancelStaleBoundTurns

def advanceAndCancel : Update Unit := do
  let revision ← .check (fun _ => .internalError) (← get).egressPolicy.revision.next
  modify fun s => { s with egressPolicy := { s.egressPolicy with revision } }
  modify fun s =>
    let bound := s.egressPolicy.boundTurns
    let swept := s.cancelTurns (bound.stale s.live revision)
    { swept with egressPolicy := { s.egressPolicy with boundTurns := bound.prune s.live } }

-- The three setters differ in the field that they compare and assign.
def setPolicy {α : Type} [DecidableEq α] (field : EgressPolicyRuntimeState → α)
    (assign : EgressPolicyRuntimeState → α → EgressPolicyRuntimeState) (value : α) : Update Unit := do
  if field (← get).egressPolicy ≠ value then
    advanceAndCancel
    modify fun s => { s with egressPolicy := assign s.egressPolicy value }

def setProviderPolicyAllows : Bool → Update Unit :=
  setPolicy (·.providerPolicyAllows) fun p providerPolicyAllows => { p with providerPolicyAllows }

def setConsent : ConsentState → Update Unit :=
  setPolicy (·.consent) fun p consent => { p with consent }

def setLocalOnlyRequired : Bool → Update Unit :=
  setPolicy (·.localOnlyRequired) fun p localOnlyRequired => { p with localOnlyRequired }

end ActiveSession

-- The operations that hold the write side of the gate.
inductive GateWriter
  | revoke
  | replace (expiresAtMillis : Option Nat)
  | replaceAuthority (effectiveAuthority : EffectiveAuthority) (expiresAtMillis : Option Nat)
  | setProviderPolicyAllows (allows : Bool)
  | setConsent (consent : ConsentState)
  | setLocalOnlyRequired (required : Bool)

def GateWriter.call : GateWriter → ActiveSession.Update Unit
  | revoke                     => ActiveSession.revokeAuthority
  | replace expires            => ActiveSession.replace expires
  | replaceAuthority a expires => ActiveSession.replaceEffectiveAuthority a expires
  | setProviderPolicyAllows b  => ActiveSession.setProviderPolicyAllows b
  | setConsent consent         => ActiveSession.setConsent consent
  | setLocalOnlyRequired b     => ActiveSession.setLocalOnlyRequired b

namespace ActiveSession

-- The methods of `ActiveSession` itself. Whoever calls one of those with `&mut self` has the session
-- for itself, so that nothing comes between the controller and the assignment of the new state.
abbrev Call := EStateM Rt0ReasonCode ActiveSession

def write (w : GateWriter) : Call Unit :=
  .adaptExcept RuntimeDenyReason.reasonCode w.call

def transition (next : RealtimeSessionState) : Call Unit :=
  .zoom session (fun s session => { s with session }) (fun _ => .invalidStateTransition)
    (RealtimeSession.transition next)

def activate : Call Unit :=
  transition .active

def beginDraining : Call Unit :=
  transition .draining

def endWith (next : RealtimeSessionState) : Call Unit := do
  match (RealtimeSession.transition next).run (← get).session with
  | .error .. => throw .invalidStateTransition
  | .ok _ candidate =>
    write .revoke
    modify ({ · with session := candidate })

def revoke : Call Unit :=
  endWith .revoked

def close : Call Unit :=
  endWith .closed

def whileActive (w : GateWriter) : Call Unit := do
  if (← get).session.state ≠ .active then
    throw .invalidStateTransition
  write w

def replaceAuthority (effectiveAuthority : EffectiveAuthority) (expiresAtMillis : Option Nat) :
    Call Unit :=
  whileActive (.replaceAuthority effectiveAuthority expiresAtMillis)

def refreshAuthorization (expiresAtMillis : Option Nat) : Call Unit :=
  whileActive (.replace expiresAtMillis)

def rebaseMediaTimeline (nowMillis : Option Nat) : Call Nat := do
  if (← get).session.state ≠ .active then
    throw .invalidStateTransition
  let nowMillis ← .check id (okOr .internalError nowMillis)
  .zoom mediaTimeline (fun s mediaTimeline => { s with mediaTimeline }) (fun _ => .internalError)
    (MediaTimeline.rebase nowMillis)

-- `bind_turn` of both controllers. The address stands for the flag that the new turn allocates.
def bindTurn (s : ActiveSession) (i : TurnAddress) (turn : ActiveTurn) : ActiveSession :=
  let bound := { s with
    authorization := { s.authorization with
      boundTurns := s.authorization.boundTurns.bind s.live s.authorization.authorization.epoch i }
    egressPolicy := { s.egressPolicy with
      boundTurns := s.egressPolicy.boundTurns.bind s.live s.egressPolicy.revision i } }
  bound.setTurn i turn

-- `ActiveTurn::new`
def newTurn (i : TurnAddress) (turnId : TurnId) (correlationId : CorrelationId)
    (persona : PersonaIdentity) : Update Unit := do
  if (← get).session.state ≠ .active then
    throw .invalidTurnState
  if (← get).session.personaId ≠ persona.id then
    throw .authorityDenied
  modify fun s => s.bindTurn i {
    state                 := .new (.new turnId correlationId) s.mediaTimeline.epoch
    snapshot              :=
      { turnId, correlationId
        personaId            := persona.id
        personaVersion       := persona.version
        personaMode          := persona.mode
        authorizationEpoch   := s.authorization.authorization.epoch
        egressPolicyRevision := s.egressPolicy.revision }
    authorizationSnapshot := s.authorization.authorization.snapshot
    egressPolicySnapshot  := ⟨s.egressPolicy.revision⟩
    cancelled             := false
    owners                := 1 }

end ActiveSession

namespace ActiveTurn

-- A method of a turn reads the controllers of its session and changes the turn and the timeline.
abbrev Call := EStateM Rt0ReasonCode (ActiveTurn × MediaTimeline)

def requireNotCancelled (turn : ActiveTurn) : Except Rt0ReasonCode Unit :=
  if turn.cancelled then .error .turnCancelled else .ok ()

def validateSnapshots (s : ActiveSession) (turn : ActiveTurn) (nowMillis : Option Nat) :
    Except Rt0ReasonCode Unit := do
  let nowMillis ← okOr .internalError nowMillis
  (s.authorization.validateBound turn.authorizationSnapshot nowMillis).mapError
    RuntimeDenyReason.reasonCode
  (s.egressPolicy.validateSnapshot turn.egressPolicySnapshot).mapError RuntimeDenyReason.reasonCode

def requireExecutionactiveEgress (s : ActiveSession) (turn : ActiveTurn) (nowMillis : Option Nat) :
    Except Rt0ReasonCode Unit := do
  turn.requireNotCancelled
  validateSnapshots s turn nowMillis

-- A method checks its guard and then works on the locked state of the turn.
def guarded (guard : ActiveTurn → Except Rt0ReasonCode Unit) (c : TurnCall) : Call Unit := do
  .check id (guard (← get).1)
  .zoom (fun s => (s.1.state, s.2)) (fun s r => ({ s.1 with state := r.1 }, r.2)) id c.call

def authorize (s : ActiveSession) (nowMillis : Option Nat) : Call Unit :=
  guarded (fun turn => do validateSnapshots s turn nowMillis; turn.requireNotCancelled)
    (.transition .authorized)

def beginProcessing (s : ActiveSession) (nowMillis : Option Nat) : Call Unit :=
  guarded (requireExecutionactiveEgress s · nowMillis) (.transition .processing)

def beginOutput (s : ActiveSession) (nowMillis : Option Nat) : Call Unit :=
  guarded (requireExecutionactiveEgress s · nowMillis) (.transition .outputting)

def complete (s : ActiveSession) (nowMillis : Option Nat) : Call Unit :=
  guarded (requireExecutionactiveEgress s · nowMillis) (.transition .completed)

def deny : Call Unit :=
  guarded requireNotCancelled (.transitionAndFreeze .denied)

def fail : Call Unit :=
  guarded requireNotCancelled (.transitionAndFreeze .failed)

def beginOutputSegment (s : ActiveSession) (nowMillis : Option Nat) : Call Unit :=
  guarded (requireExecutionactiveEgress s · nowMillis) .beginOutputSegment

-- The stamps and the receipts of the delivery paths have no guard of their own.
def deliver (c : TurnCall) : Call Unit :=
  guarded (fun _ => .ok ()) c

def interrupt : Call Unit := do
  guarded (fun _ => .ok ()) .interrupt
  modify fun s => ({ s.1 with cancelled := true }, s.2)

end ActiveTurn

inductive TurnMethod
  | authorize
  | beginProcessing
  | beginOutput
  | complete
  | deny
  | fail
  | beginOutputSegment
  | nextAudioMediaStamp (nowMillis durationMicros : Nat)
  | nextVideoMediaStamp (nowMillis sourceTimestampMicros : Nat)
  | reconcile (receipt : Receipt) (id : Nat)
  | interrupt

def TurnMethod.call (s : ActiveSession) (nowMillis : Option Nat) : TurnMethod → ActiveTurn.Call Unit
  | authorize                => ActiveTurn.authorize s nowMillis
  | beginProcessing          => ActiveTurn.beginProcessing s nowMillis
  | beginOutput              => ActiveTurn.beginOutput s nowMillis
  | complete                 => ActiveTurn.complete s nowMillis
  | deny                     => ActiveTurn.deny
  | fail                     => ActiveTurn.fail
  | beginOutputSegment       => ActiveTurn.beginOutputSegment s nowMillis
  | nextAudioMediaStamp n d  => ActiveTurn.deliver (.nextAudioMediaStamp n d)
  | nextVideoMediaStamp n t  => ActiveTurn.deliver (.nextVideoMediaStamp n t)
  | reconcile receipt id     => ActiveTurn.deliver (.reconcile receipt id)
  | interrupt                => ActiveTurn.interrupt

namespace ActiveSession

-- The first half of `ActiveTurn::issue_provider_permit`.
def issueProviderPermit (i : TurnAddress) (turn : ActiveTurn) (requiredScope : AuthorityScope)
    (dataClass : DataClass) (nowMillis : Option Nat) : Update Unit := do
  let s ← get
  if !turn.state.providerExecutionAllowed then
    throw .invalidTurnState
  let nowMillis ← .check id (okOr .internalError nowMillis)
  let cancellation ← .check id <| s.authorization.issueProviderPermit s.egressPolicy
    turn.authorizationSnapshot turn.egressPolicySnapshot i turn.cancelled requiredScope dataClass
    nowMillis
  modify fun s => { s with calls := s.calls ++ [⟨cancellation, requiredScope, dataClass⟩] }

-- The second half. The call ends here, admitted or not.
def beginProviderEgress (n : Nat) (call : ProviderCall) (turn : ActiveTurn)
    (nowMillis : Option Nat) : Update Unit := do
  modify fun s => { s with calls := s.calls.eraseIdx n }
  if call.cancellation.isCancelled turn.cancelled nowMillis then
    throw .turnCancelled
  let activeEgress ← .check (fun _ => .turnCancelled) (okOr () (checkedAdd (← get).activeEgress 1))
  modify fun s => { s with activeEgress, permits := s.permits ++ [call.cancellation] }

-- Dropping a permit drops its guard.
def dropPermit (s : ActiveSession) (n : Nat) : ActiveSession :=
  { s with activeEgress := s.activeEgress - 1, permits := s.permits.eraseIdx n }

end ActiveSession

inductive SessionEvent
  | activate
  | beginDraining
  | revoke
  | close
  | replaceAuthority (effectiveAuthority : EffectiveAuthority) (expiresAtMillis : Option Nat)
  | refreshAuthorization (expiresAtMillis : Option Nat)
  | rebaseMediaTimeline (nowMillis : Option Nat)
  -- The controllers are shared with the turns and with the revocation handle of the session.
  | write (w : GateWriter)
  | newTurn (i : TurnAddress) (turnId : TurnId) (correlationId : CorrelationId)
    (persona : PersonaIdentity)
  | cloneHandle (i : TurnAddress)
  | dropHandle (i : TurnAddress)
  | method (i : TurnAddress) (m : TurnMethod) (nowMillis : Option Nat)
  | issueProviderPermit (i : TurnAddress) (requiredScope : AuthorityScope) (dataClass : DataClass)
    (nowMillis : Option Nat)
  | beginProviderEgress (n : Nat) (nowMillis : Option Nat)
  | dropPermit (n : Nat)

inductive SessionObservation
  | wrote (w : GateWriter) (result : Except Rt0ReasonCode Unit)
  | admitted (call : ProviderCall) (nowMillis : Option Nat)

namespace ActiveSession

def ofTurn (s : ActiveSession) (i : TurnAddress) : Option ActiveTurn :=
  (s.turns i).filter (0 < ·.owners)

def machine : Machine ActiveSession SessionEvent SessionObservation where
  init s := ∃ id personaId security, s = .new id personaId security
  step s
    | .activate                   => some ((activate.run s).state, [])
    | .beginDraining              => some ((beginDraining.run s).state, [])
    | .revoke                     => some ((revoke.run s).state, [])
    | .close                      => some ((close.run s).state, [])
    | .replaceAuthority a expires => some (((replaceAuthority a expires).run s).state, [])
    | .refreshAuthorization expires => some (((refreshAuthorization expires).run s).state, [])
    | .rebaseMediaTimeline now    => some (((rebaseMediaTimeline now).run s).state, [])
    | .write w                    =>
      let result := (write w).run s
      some (result.state, [.wrote w result.toExcept])
    | .newTurn i turnId correlationId persona =>
      if (s.turns i).isSome then none
      else some (((newTurn i turnId correlationId persona).run s).state, [])
    | .cloneHandle i              => do
      let turn ← s.ofTurn i
      return (s.setTurn i { turn with owners := turn.owners + 1 }, [])
    | .dropHandle i               => do
      let turn ← s.ofTurn i
      return (s.setTurn i { turn with owners := turn.owners - 1 }, [])
    | .method i m now             => do
      let turn ← s.ofTurn i
      let (turn, mediaTimeline) := ((m.call s now).run (turn, s.mediaTimeline)).state
      return ({ s.setTurn i turn with mediaTimeline }, [])
    | .issueProviderPermit i scope dataClass now => do
      let turn ← s.ofTurn i
      return (((issueProviderPermit i turn scope dataClass now).run s).state, [])
    | .beginProviderEgress n now  => do
      let call ← s.calls[n]?
      let turn ← s.turns call.cancellation.turn
      let result := (beginProviderEgress n call turn now).run s
      return (result.state, if result.isOk then [.admitted call now] else [])
    | .dropPermit n               => if n < s.permits.length then some (s.dropPermit n, []) else none

end ActiveSession
