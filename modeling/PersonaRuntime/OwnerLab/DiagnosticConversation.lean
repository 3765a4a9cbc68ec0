import PersonaRuntime.OwnerLab.RemoteMediaRevocation
import PersonaRuntime.OwnerLab.VisitorSessions

-- Where a call of `Rt1VisitorConversation::submit_answer` is. `egress` is the visitor whose permit it has.
inductive AnswerPoint
  -- Waits for the thread of the manager that runs `begin_provider_egress`.
  | admitting (thread : Nat) (sdp : String)
  | loadCancelled (egress : VisitorAddress) (sdp : String)
  -- Waits for its call on the bridge.
  | submitting (egress : VisitorAddress) (call : Nat)
  | authorize (egress : VisitorAddress) (result : Except String Unit)
  | authorizing (thread : Nat) (egress : VisitorAddress) (result : Except String Unit)
  | reloadCancelled (egress : VisitorAddress) (result : Except String Unit)
  | dropPermit (egress : VisitorAddress) (result : Except String Unit)
  | returning (result : Except String Unit)
  | returned
deriving DecidableEq

-- The stop callback of the visitor, which a thread of the manager runs.
inductive RevocationStop
  | revokeConfirmed (thread : Nat)
  | revoking (thread : Nat) (call : Nat)
deriving DecidableEq

def RevocationStop.thread : RevocationStop → Nat
  | revokeConfirmed thread | revoking thread _ => thread

-- A conversation that `start_diagnostic` has registered, with the manager and the bridge that it shares
-- with the owner and with its own callbacks.
structure DiagnosticConversation where
  manager   : Threaded VisitorSessionManager VisitorInstruction
  bridge    : RevocationRuntime
  -- `LiveVisitorInterrupt::cancelled`
  cancelled : Bool
  answers   : List AnswerPoint
  stop      : Option RevocationStop
  -- Whether the answer at the gate has been sent to the worker.
  requested : Bool

inductive DiagnosticEvent
  | manager (e : ThreadEvent VisitorCall VisitorEnvironment)
  | bridge (e : RevocationEvent)
  | submitAnswer (sdp : String) (env : VisitorEnvironment)
  -- A call of `submit_answer` goes on.
  | resume (k : Nat) (env : VisitorEnvironment)
  -- The answer that has the gate is sent to the worker.
  | request
  -- The stop callback goes on.
  | stop

inductive DiagnosticObservation
  -- A transaction that has drained the visitor is released.
  | released
  | requested
  | returned (result : Except String Unit)
deriving DecidableEq

def RevocationCall.submits : RevocationCall → Bool
  | submitAnswer _                           => true
  | recordCreatedSession _ | revokeConfirmed => false

namespace AnswerPoint

-- What the thread of the manager that a call waits for has come to.
def hear (e : ThreadEvent VisitorCall VisitorEnvironment) (o : List VisitorObservation) (p : AnswerPoint) :
    AnswerPoint :=
  match p, e, o with
  | admitting thread sdp, .resume k _, [.egress v _] => if thread = k then loadCancelled v sdp else p
  | admitting thread _, .resume k _, [.returned (.error error)] =>
    if thread = k then returning (.error error) else p
  | authorizing thread v result, .resume k _, [.returned (.ok _)] =>
    if thread = k then reloadCancelled v result else p
  | authorizing thread v _, .resume k _, [.returned (.error error)] =>
    if thread = k then dropPermit v (.error error) else p
  | p, _, _ => p

-- The same for the bridge.
def accept (o : List RevocationObservation) (p : AnswerPoint) : AnswerPoint :=
  match p, o.getLast? with
  | submitting v call, some (.returned i _ result) => if call = i then authorize v result else p
  | p, _                                           => p

end AnswerPoint

def RevocationStop.accept (o : List RevocationObservation) (p : RevocationStop) : Option RevocationStop :=
  match p, o.getLast? with
  | revoking _ call, some (.returned i ..) => if call = i then none else some p
  | p, _                                   => some p

namespace DiagnosticConversation

variable (sha256 : Digest) (id : String) (v : VisitorAddress)

-- The callbacks of the visitor run in the thread that makes this step.
def callbacks (s : DiagnosticConversation) (e : ThreadEvent VisitorCall VisitorEnvironment)
    (o : List VisitorObservation) : DiagnosticConversation :=
  match e, o with
  | .resume _ _, [.fastRevoked w] => if w = v then { s with cancelled := true } else s
  | .resume k _, [.stopped w]     =>
    if w = v then { s with cancelled := true, stop := some (.revokeConfirmed k) } else s
  | _, _                          => s

-- Whether the step releases a transaction that has drained the visitor.
def releases (s : DiagnosticConversation) (e : ThreadEvent VisitorCall VisitorEnvironment) : Bool :=
  match e.next s.manager with
  | some (.release sessions) => v ∈ sessions
  | _                        => false

-- A thread that runs the stop callback has to wait for it.
def blocks (s : DiagnosticConversation) (e : ThreadEvent VisitorCall VisitorEnvironment) : Bool :=
  match e with
  | .enter ..   => false
  | .resume k _ => s.stop.any (·.thread = k)

def manage (s : DiagnosticConversation) (e : ThreadEvent VisitorCall VisitorEnvironment) :
    Option (DiagnosticConversation × List DiagnosticObservation) :=
  if s.blocks e then
    none
  else
    ((VisitorSessionManager.program sha256).machine.step s.manager e).map fun (manager, o) =>
      (callbacks v { s with manager, answers := s.answers.map (·.hear e o) } e o,
        if releases v s e then [.released] else [])

def call (s : DiagnosticConversation) (e : RevocationEvent) :
    Option (DiagnosticConversation × List DiagnosticObservation) :=
  (RevocationRuntime.machine.step s.bridge e).map fun (bridge, o) =>
    ({ s with bridge, answers := s.answers.map (·.accept o), stop := s.stop.bind (·.accept o) }, [])

-- A call of the manager that the thread of the answer enters itself.
def enter (s : DiagnosticConversation) (c : VisitorCall) (env : VisitorEnvironment) :
    Option DiagnosticConversation :=
  ((VisitorSessionManager.program sha256).machine.step s.manager (.enter c env)).map fun (manager, _) =>
    { s with manager }

def setAnswer (s : DiagnosticConversation) (k : Nat) (p : AnswerPoint) : DiagnosticConversation :=
  { s with answers := s.answers.set k p }

def revokedError : Except String Unit :=
  .error "RT1_VISITOR_REVOKED"

-- `Rt1VisitorConversation::submit_answer`
def submitAnswer (s : DiagnosticConversation) (k : Nat) (env : VisitorEnvironment) :
    AnswerPoint → Option (DiagnosticConversation × List DiagnosticObservation)
  | .loadCancelled w sdp =>
    if s.cancelled then
      some (s.setAnswer k (.dropPermit w revokedError), [])
    else
      some ({ s with bridge := s.bridge.enter (.submitAnswer sdp) }.setAnswer k (.submitting w s.bridge.calls), [])
  | .authorize w result =>
    (s.enter sha256 (.authorize id) env).map fun s' =>
      (s'.setAnswer k (.authorizing s.manager.threads.length w result), [])
  | .reloadCancelled w result =>
    some (s.setAnswer k (.dropPermit w (if s.cancelled then revokedError else result)), [])
  | .dropPermit w result =>
    (s.enter sha256 (.dropPermit w) env).map fun s' => (s'.setAnswer k (.returning result), [])
  | .returning result => some (s.setAnswer k .returned, [.returned result])
  | .admitting .. | .submitting .. | .authorizing .. | .returned => none

def machine : Machine DiagnosticConversation DiagnosticEvent DiagnosticObservation where
  init s :=
    (VisitorSessionManager.program sha256).machine.init s.manager ∧ RevocationRuntime.machine.init s.bridge ∧
      s.cancelled = false ∧ s.answers = [] ∧ s.stop = none ∧ s.requested = false
  step s
    | .manager e => s.manage sha256 v e
    | .bridge (.call c) => if c.submits then none else s.call (.call c)
    | .bridge (.acquire k) => s.call (.acquire k)
    | .bridge (.resume reply) =>
      match s.bridge.gate with
      | some (_, .answer) => if s.requested then { s with requested := false }.call (.resume reply) else none
      | _                 => s.call (.resume reply)
    | .submitAnswer sdp env =>
      (s.enter sha256 (.beginProviderEgress id) env).map fun s' =>
        ({ s' with answers := s.answers ++ [.admitting s.manager.threads.length sdp] }, [])
    | .resume k env => s.answers[k]?.bind (s.submitAnswer sha256 id k env)
    | .request =>
      match s.bridge.gate with
      | some (_, .answer) => if s.requested then none else some ({ s with requested := true }, [.requested])
      | _                 => none
    | .stop =>
      match s.stop with
      | some (.revokeConfirmed thread) =>
        ({ s with stop := some (.revoking thread s.bridge.calls) }.call (.call .revokeConfirmed))
      | _ => none

end DiagnosticConversation
