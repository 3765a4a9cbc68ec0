import PersonaRuntime.Domain.Ids
import PersonaRuntime.Machine.Basic

-- The flags and identities of the bridge. The worker and the identity of the operation never change
-- and are left out, so is everything that guards one of the identities, as it is only used by the
-- holder of the STOP gate.
structure Rt1RemoteMediaRevocation where
  revoked            : Bool
  confirmed          : Bool
  createdSessionId   : Option String
  confirmedSessionId : Option String
  identityConflict   : Bool
deriving DecidableEq, Repr

inductive RevocationCall
  | recordCreatedSession (sessionId : String)
  | revokeConfirmed
  | submitAnswer (sdp : String)
deriving DecidableEq, Repr

-- What the worker replies: the session that `cancel_confirmed` returns, if any, and whether it
-- accepts an answer.
structure WorkerReply where
  cancelConfirmed : Option String
  answer          : Bool
deriving DecidableEq, Repr

-- The checks of `cancel_locked`.
inductive CancelPoint
  | conflict
  | confirmed
  | worker
  | identity (stoppedSession : String)
deriving DecidableEq, Repr

-- Where the holder of the STOP gate is. A `cancel` has the result that its caller returns if it
-- succeeds.
inductive GatePoint
  | recordConflict (sessionId : String)
  | recordIdentity (sessionId : String)
  | recordRevoked (sessionId : String)
  | recordConfirmed
  | revokeConfirmed
  | answerRevoked
  | answer
  | answerAccepted
  | cancel (result : Except String Unit) (point : CancelPoint)
deriving DecidableEq

inductive GateProgress
  | next (point : GatePoint)
  | returns (result : Except String Unit)
deriving DecidableEq

-- What can be seen of the call `i`.
inductive RevocationObservation
  -- A revocation has set the flag.
  | revoked (i : Nat)
  -- An answer was found not to be revoked before it is submitted.
  | admitted (i : Nat)
  | answered (i : Nat) (accepted : Bool)
  | stopped (i : Nat) (sessionId : String)
  | returned (i : Nat) (call : RevocationCall) (result : Except String Unit)
deriving DecidableEq

-- Where a call is when it has the gate.
def RevocationCall.first : RevocationCall → GatePoint
  | recordCreatedSession sessionId => .recordConflict sessionId
  | revokeConfirmed                => .revokeConfirmed
  | submitAnswer _                 => .answerRevoked

namespace Rt1RemoteMediaRevocation

def new : Rt1RemoteMediaRevocation where
  revoked            := false
  confirmed          := false
  createdSessionId   := none
  confirmedSessionId := none
  identityConflict   := false

-- One step of `cancel_locked`.
def cancelLocked (b : Rt1RemoteMediaRevocation) (i : Nat) (reply : WorkerReply)
    (result : Except String Unit) :
    CancelPoint → Rt1RemoteMediaRevocation × GateProgress × List RevocationObservation
  | .conflict =>
    if b.identityConflict then (b, .returns (.error "RT1_REMOTE_SESSION_ID_CONFLICT"), [])
    else (b, .next (.cancel result .confirmed), [])
  | .confirmed =>
    if b.confirmed then (b, .returns result, [])
    else (b, .next (.cancel result .worker), [])
  | .worker =>
    match reply.cancelConfirmed with
    | none                => (b, .returns (.error "RT1_REMOTE_MEDIA_STOP_UNCONFIRMED"), [])
    | some stoppedSession => (b, .next (.cancel result (.identity stoppedSession)), [.stopped i stoppedSession])
  | .identity stoppedSession =>
    if b.createdSessionId.any (· ≠ stoppedSession) then
      ({ b with identityConflict := true, confirmed := false },
        .returns (.error "RT1_REMOTE_MEDIA_STOP_IDENTITY_MISMATCH"), [])
    else
      ({ b with confirmedSessionId := some stoppedSession, confirmed := true }, .returns result, [])

-- One step of the call that has the gate: a check, with the stores of the branch that it takes.
def execute (b : Rt1RemoteMediaRevocation) (i : Nat) (reply : WorkerReply) :
    GatePoint → Rt1RemoteMediaRevocation × GateProgress × List RevocationObservation
  | .recordConflict sessionId =>
    if b.identityConflict then (b, .returns (.error "RT1_REMOTE_SESSION_ID_CONFLICT"), [])
    else (b, .next (.recordIdentity sessionId), [])
  | .recordIdentity sessionId =>
    if b.createdSessionId.any (· ≠ sessionId) ∨ b.confirmedSessionId.any (· ≠ sessionId) then
      ({ b with identityConflict := true, revoked := true, confirmed := false },
        .returns (.error "RT1_REMOTE_SESSION_ID_CONFLICT"), [])
    else
      ({ b with createdSessionId := some sessionId }, .next (.recordRevoked sessionId), [])
  | .recordRevoked _ =>
    if b.revoked then (b, .next .recordConfirmed, [])
    else (b, .returns (.ok ()), [])
  | .recordConfirmed =>
    if b.confirmed then (b, .returns (.error "RT1_VISITOR_REVOKED"), [])
    else (b, .next (.cancel (.error "RT1_VISITOR_REVOKED") .conflict), [])
  | .revokeConfirmed =>
    if b.confirmed then (b, .returns (.ok ()), [])
    else (b, .next (.cancel (.ok ()) .conflict), [])
  | .answerRevoked =>
    if b.revoked then (b, .returns (.error "RT1_VISITOR_REVOKED"), [])
    else (b, .next .answer, [.admitted i])
  | .answer =>
    if reply.answer then (b, .next .answerAccepted, [.answered i true])
    else
      ({ b with revoked := true }, .next (.cancel (.error "RT1_REMOTE_ANSWER_UNCONFIRMED") .conflict),
        [.answered i false])
  | .answerAccepted =>
    if b.revoked then (b, .next (.cancel (.error "RT1_VISITOR_REVOKED") .conflict), [])
    else (b, .returns (.ok ()), [])
  | .cancel result point => b.cancelLocked i reply result point

end Rt1RemoteMediaRevocation

-- A call that has the gate or waits for it.
structure GateCall where
  i    : Nat
  call : RevocationCall
deriving DecidableEq

-- The bridge with the calls that run on it. Only one of them has the STOP gate.
structure RevocationRuntime where
  bridge  : Rt1RemoteMediaRevocation
  calls   : Nat
  waiting : List GateCall
  gate    : Option (GateCall × GatePoint)
deriving DecidableEq

inductive RevocationEvent
  | call (c : RevocationCall)
  -- A call that waits gets the gate.
  | acquire (k : Nat)
  | resume (reply : WorkerReply)
deriving DecidableEq

namespace RevocationRuntime

def enter (s : RevocationRuntime) (c : RevocationCall) : RevocationRuntime :=
  { s with calls := s.calls + 1, waiting := s.waiting ++ [⟨s.calls, c⟩] }

def machine : Machine RevocationRuntime RevocationEvent RevocationObservation where
  init s := s = ⟨.new, 0, [], none⟩
  step s
    | .call (.recordCreatedSession sessionId) =>
      if isBlank sessionId then
        some ({ s with calls := s.calls + 1 },
          [.returned s.calls (.recordCreatedSession sessionId) (.error "RT1_REMOTE_SESSION_ID_INVALID")])
      else
        some (s.enter (.recordCreatedSession sessionId), [])
    | .call .revokeConfirmed =>
      -- The flag is set before the call waits for the gate.
      some ({ s with bridge.revoked := true }.enter .revokeConfirmed, [.revoked s.calls])
    | .call (.submitAnswer sdp) => some (s.enter (.submitAnswer sdp), [])
    | .acquire k =>
      match s.gate, s.waiting[k]? with
      | none, some c => some ({ s with waiting := s.waiting.eraseIdx k, gate := some (c, c.call.first) }, [])
      | _, _         => none
    | .resume reply =>
      match s.gate with
      | none            => none
      | some (c, point) =>
        let (bridge, progress, o) := s.bridge.execute c.i reply point
        match progress with
        | .next point     => some ({ s with bridge, gate := some (c, point) }, o)
        | .returns result => some ({ s with bridge, gate := none }, o ++ [.returned c.i c.call result])

end RevocationRuntime
