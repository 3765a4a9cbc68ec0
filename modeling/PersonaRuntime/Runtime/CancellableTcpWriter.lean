import PersonaRuntime.Machine.Basic

inductive SocketErrorKind
  | interrupted
  | timedOut
  | wouldBlock
  | writeZero
  | other (code : Nat)
deriving DecidableEq, Repr

structure SocketError where
  kind    : SocketErrorKind
  message : String
deriving DecidableEq, Repr

namespace TcpWrite

def maxWriteChunk : Nat :=
  16 * 1024

-- In nanoseconds.
def maxSyscallWait : Nat :=
  100000000

def revokedError : SocketError :=
  ⟨.interrupted, "TCP response revoked"⟩

def deadlineError : SocketError :=
  ⟨.timedOut, "TCP response deadline exceeded"⟩

def closedError : SocketError :=
  ⟨.writeZero, "TCP response closed"⟩

-- The next access of `write_all_bounded` to anything that it shares. The bytes are those that remain.
inductive Point
  | idle
  | checkRevoked (remaining : List UInt8)
  | checkDeadline (remaining : List UInt8)
  | setWriteTimeout (remaining : List UInt8) (left : Nat)
  | write (remaining : List UInt8)
  | recheckRevoked (remaining : List UInt8)
  | abort (error : SocketError)
  | failed (error : SocketError)
  -- The `?` behind `set_write_timeout`, the only error that is returned with neither an abort nor a
  -- check of the flag.
  | timeoutFailed (error : SocketError)
  | sent
  | dropped
deriving DecidableEq

end TcpWrite

-- The writer and the handles share the flag. The shutdown of the socket that comes with setting it is
-- not part of the state, because the socket may answer anything at any time.
structure CancellableTcpWriter where
  deadline : Nat
  revoked  : Bool
  point    : TcpWrite.Point
deriving DecidableEq

inductive TcpEvent
  | revoke
  | writeAllBounded (bytes : List UInt8)
  | drop
  | resume
  | now (instant : Nat)
  | setWriteTimeout (answer : Except SocketError Unit)
  | write (answer : Except SocketError Nat)

inductive TcpObservation
  | revoked
  | started (bytes : List UInt8)
  | timeout (wait : Nat)
  | handed (chunk accepted : List UInt8)
  | returned (result : Except SocketError Unit)
deriving DecidableEq

namespace CancellableTcpWriter

open TcpWrite

variable (s : CancellableTcpWriter)

def isRevoked : Bool :=
  s.revoked

def revoke : CancellableTcpWriter :=
  { s with revoked := true }

-- The steps for which nothing outside has to answer.
def resume : Option (CancellableTcpWriter × List TcpObservation) :=
  match s.point with
  | .checkRevoked remaining =>
    let admitted := if remaining.isEmpty then .sent else .checkDeadline remaining
    some ({ s with point := if s.revoked then .failed revokedError else admitted }, [])
  | .recheckRevoked remaining =>
    some ({ s with point := if s.revoked then .failed revokedError else .checkRevoked remaining }, [])
  | .abort error                               => some ({ s.revoke with point := .failed error }, [])
  | .failed error | .timeoutFailed error       => some ({ s with point := .idle }, [.returned (.error error)])
  | .sent                                      => some ({ s with point := .idle }, [.returned (.ok ())])
  | _                                          => none

def checkDeadline (instant : Nat) (remaining : List UInt8) : Point :=
  if s.deadline < instant then
    .abort deadlineError
  else if s.deadline - instant = 0 then
    .abort deadlineError
  else
    .setWriteTimeout remaining (s.deadline - instant)

-- What comes after the answer of the socket, and how much it has accepted. A socket cannot accept more
-- than it was handed.
def write (remaining : List UInt8) (answer : Except SocketError Nat) : Option (Point × Nat) :=
  match answer with
  | .ok written =>
    if written > min remaining.length maxWriteChunk then
      none
    else if written = 0 then
      some (.abort closedError, 0)
    else
      some (.checkRevoked (remaining.drop written), written)
  | .error error =>
    match error.kind with
    | .interrupted | .timedOut | .wouldBlock => some (.recheckRevoked remaining, 0)
    | _                                      => some (.abort error, 0)

def machine : Machine CancellableTcpWriter TcpEvent TcpObservation where
  init s := s.revoked = false ∧ s.point = .idle
  step s
    | .revoke                => some (s.revoke, [.revoked])
    | .writeAllBounded bytes =>
      if s.point = .idle then some ({ s with point := .checkRevoked bytes }, [.started bytes]) else none
    | .drop        => if s.point = .idle then some ({ s.revoke with point := .dropped }, []) else none
    | .resume      => s.resume
    | .now instant =>
      match s.point with
      | .checkDeadline remaining => some ({ s with point := s.checkDeadline instant remaining }, [])
      | _                        => none
    | .setWriteTimeout answer =>
      match s.point with
      | .setWriteTimeout remaining left =>
        let point := match answer with
          | .ok _        => .write remaining
          | .error error => .timeoutFailed error
        some ({ s with point }, [.timeout (min left maxSyscallWait)])
      | _ => none
    | .write answer =>
      match s.point with
      | .write remaining =>
        let chunk := remaining.take (min remaining.length maxWriteChunk)
        (CancellableTcpWriter.write remaining answer).map fun (point, written) =>
          ({ s with point }, [.handed chunk (chunk.take written)])
      | _ => none

end CancellableTcpWriter
