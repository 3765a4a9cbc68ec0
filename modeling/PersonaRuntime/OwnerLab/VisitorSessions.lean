import PersonaRuntime.Collections.Table
import PersonaRuntime.Machine.Threads
import PersonaRuntime.OwnerLab.Requests

def maxActiveVisitors : Nat :=
  8

structure Rt1VisitorSession where
  bearerToken : String
  permit      : VisitorPermit
deriving DecidableEq

-- The callbacks of a visitor show up as the observations `fastRevoked` and `stopped`.
structure ManagedVisitor where
  authority : Rt1VisitorSession
  revoked   : Bool
  stopped   : Bool
  -- The counter of the `VisitorEgressState`.
  active    : Nat

def ManagedVisitor.new (authority : Rt1VisitorSession) : ManagedVisitor where
  authority := authority
  revoked   := false
  stopped   := false
  active    := 0

-- `VisitorEgressState::admit`
def ManagedVisitor.admitEgress (m : ManagedVisitor) : Except String ManagedVisitor :=
  if m.revoked then
    .error "visitor session revoked"
  else if m.active ≠ 0 then
    .error "visitor provider turn already active"
  else
    .ok { m with active := 1 }

-- What an `Arc<ManagedVisitor>` points to.
abbrev VisitorAddress := Nat

-- The manager with everything that its threads share: the file, the registry, every visitor that was
-- ever allocated and the live `VisitorEgressPermit`s, each by its visitor.
structure VisitorSessionManager where
  file        : Option RawPersona
  -- Whether `WORKSPACE_TRANSACTION` is held.
  transaction : Bool
  sessions    : Table String VisitorAddress
  visitors    : List ManagedVisitor
  permits     : List VisitorAddress

inductive ClockFailure
  | precedesUnixEpoch
  | outOfRange
deriving DecidableEq, Repr

def ClockFailure.message : ClockFailure → String
  | precedesUnixEpoch => "server clock precedes Unix epoch"
  | outOfRange        => "server clock out of range"

-- What a step may get from the outside.
structure VisitorEnvironment where
  readable : Bool
  clock    : Except ClockFailure Nat
  random   : RandomSource
  outcome  : CommitOutcome
  -- The order in which `into_values` visits the registry.
  order    : List VisitorAddress

def VisitorEnvironment.serverNowMillis (env : VisitorEnvironment) : Except String Nat :=
  env.clock.mapError (·.message)

-- The requests of the owner. The last two drain the registry after their commit.
inductive OwnerRequest
  | workspace (c : WorkspaceCall)
  | pauseAndCollectRevocations (ownerToken : String)
  | unpublishAndCollectRevocations (ownerToken : String)

namespace OwnerRequest

def call : OwnerRequest → WorkspaceCall
  | workspace c                               => c
  | pauseAndCollectRevocations ownerToken     => .pause ownerToken
  | unpublishAndCollectRevocations ownerToken => .unpublish ownerToken

def collects : OwnerRequest → Bool
  | workspace _                                                    => false
  | pauseAndCollectRevocations _ | unpublishAndCollectRevocations _ => true

-- Whether the request pauses or unpublishes.
def withdraws (r : OwnerRequest) : Bool :=
  match r.call with
  | .pause _ | .unpublish _           => true
  | .provisionOwner _ | .publish .. => false

end OwnerRequest

inductive VisitorCall
  | open (visitorToken : String)
  | authorize (sessionId : String)
  | beginProviderEgress (sessionId : String)
  | close (sessionId : String)
  | revokeAll
  -- `VisitorEgressPermit::drop`
  | dropPermit (visitor : VisitorAddress)
  | owner (request : OwnerRequest)

inductive VisitorReply
  | opened (sessionId : String)
  | authorized
  | closed
  | revoked
  | owner (reply : WorkspaceReply)
deriving DecidableEq, Repr

-- Where `ManagedVisitor::authorize` returns to.
inductive AuthorizeCaller
  | open (sessionId : String)
  | authorize
  -- The recheck after a failed admission, which returns the error of the admission.
  | beginProviderEgress (error : String)
deriving DecidableEq

inductive VisitorInstruction
  | insert (authority : Rt1VisitorSession)
  | admitProviderEgress (visitor : VisitorAddress)
  -- `ManagedVisitor::authorize`
  | loadRevoked (visitor : VisitorAddress) (caller : AuthorizeCaller)
  | authorizeVisitor (visitor : VisitorAddress) (caller : AuthorizeCaller)
  | reloadRevoked (visitor : VisitorAddress) (caller : AuthorizeCaller)
  -- The `close` of an `open` whose last check has failed.
  | discard (sessionId : String) (error : String)
  -- `ManagedVisitor::mark_revoked` and `ManagedVisitor::revoke`
  | swapRevoked (visitor : VisitorAddress)
  | fastRevoke (visitor : VisitorAddress)
  | swapStopped (visitor : VisitorAddress)
  | stop (visitor : VisitorAddress)
  -- `change_publication_and_collect` after its commit
  | takeForRevocation
  | release (sessions : List VisitorAddress)
  | finish (result : Except String VisitorReply)
deriving DecidableEq

inductive VisitorObservation
  | minted (permit : VisitorPermit)
  -- The file is replaced by a record that is paused or unpublished.
  | withdrawn
  -- A successful `begin_provider_egress`.
  | egress (visitor : VisitorAddress) (permit : VisitorPermit)
  | fastRevoked (visitor : VisitorAddress)
  | stopped (visitor : VisitorAddress)
  -- The registry is drained under the transaction.
  | drained (sessions : List VisitorAddress)
  | released
  | returned (result : Except String VisitorReply)
deriving DecidableEq

namespace AuthorizeCaller

def failed (error : String) : AuthorizeCaller → List VisitorInstruction
  | .open sessionId           => [.discard sessionId error]
  | authorize                 => [.finish (.error error)]
  | beginProviderEgress error => [.finish (.error error)]

def succeeded : AuthorizeCaller → List VisitorInstruction
  | .open sessionId           => [.finish (.ok (.opened sessionId))]
  | authorize                 => [.finish (.ok .authorized)]
  | beginProviderEgress error => [.finish (.error error)]

end AuthorizeCaller

namespace VisitorSessionManager

variable (sha256 : Digest)

def new (file : Option RawPersona) : VisitorSessionManager where
  file        := file
  transaction := false
  sessions    := ∅
  visitors    := []
  permits     := []

def setVisitor (s : VisitorSessionManager) (v : VisitorAddress) (m : ManagedVisitor) :
    VisitorSessionManager :=
  { s with visitors := s.visitors.set v m }

-- The values of the registry.
def registered (s : VisitorSessionManager) : List VisitorAddress :=
  s.sessions.entries.map (·.2)

def requiredPersona (s : VisitorSessionManager) (env : VisitorEnvironment) :
    Except String PersistedPersonaV2 :=
  if env.readable then
    RawPersona.requiredPersona s.file
  else
    .error "reviewed Persona file store read failed"

def admitVisitorTurn (s : VisitorSessionManager) (env : VisitorEnvironment) (bearerToken : String) :
    Except String VisitorPermit := do
  let nowMillis ← env.serverNowMillis
  let record ← s.requiredPersona env
  let workspace ← record.workspace.okOr "owner workspace missing"
  let permit ← workspace.visitorPermit sha256 bearerToken
  workspace.authorizeVisitor sha256 bearerToken permit record.snapshot.personaId
    record.snapshot.personaVersion nowMillis
  return permit

-- `Rt1VisitorSession::authorize`
def authorizeVisitor (s : VisitorSessionManager) (env : VisitorEnvironment)
    (authority : Rt1VisitorSession) : Except String Unit := do
  let nowMillis ← env.serverNowMillis
  let record ← s.requiredPersona env
  let workspace ← record.workspace.okOr "owner workspace missing"
  workspace.authorizeVisitor sha256 authority.bearerToken authority.permit record.snapshot.personaId
    record.snapshot.personaVersion nowMillis

-- The callback is `VisitorEgressState::admit`.
def admitVisitorProviderEgress (s : VisitorSessionManager) (env : VisitorEnvironment)
    (m : ManagedVisitor) : Except String ManagedVisitor := do
  let record ← s.requiredPersona env
  let workspace ← record.workspace.okOr "owner workspace missing"
  let nowMillis ← env.serverNowMillis
  workspace.authorizeVisitor sha256 m.authority.bearerToken m.authority.permit
    record.snapshot.personaId record.snapshot.personaVersion nowMillis
  m.admitEgress

-- Everything of an owner's request that comes before `commit_raw`.
def prepare (s : VisitorSessionManager) (env : VisitorEnvironment) (request : OwnerRequest) :
    Except String (PersistedPersonaV2 × WorkspaceReply) :=
  if env.readable then
    request.call.prepare sha256 s.file
  else
    .error "reviewed Persona file store read failed"

def markRevoked (v : VisitorAddress) : List VisitorInstruction :=
  [.swapRevoked v]

def revoke (v : VisitorAddress) : List VisitorInstruction :=
  markRevoked v ++ [.swapStopped v]

abbrev Step := VisitorSessionManager × List VisitorInstruction × List VisitorObservation

def fail (s : VisitorSessionManager) (error : String) : Step :=
  (s, [.finish (.error error)], [])

-- A call that looks its session up in the registry.
def lookup (s : VisitorSessionManager) (sessionId : String) (found : VisitorAddress → Step) : Step :=
  match s.sessions.lookup sessionId with
  | some v => found v
  | none   => s.fail "visitor session not found"

-- The workspace transaction from its lock to its commit. Whatever else reads or replaces the file
-- holds the transaction too, so that this is one step.
def ownerRequest (s : VisitorSessionManager) (env : VisitorEnvironment) (request : OwnerRequest) :
    Step :=
  match s.prepare sha256 env request with
  | .error error => s.fail error
  | .ok (record, reply) =>
    let committed := { s with file := env.outcome.file s.file record }
    let o := if request.withdraws ∧ env.outcome.replaces then [.withdrawn] else []
    match env.outcome.result with
    | .error error => (committed, [.finish (.error error)], o)
    | .ok _        =>
      if request.collects then
        ({ committed with transaction := true }, [.takeForRevocation], o)
      else
        (committed, [.finish (.ok (.owner reply))], o)

-- The first step of a call.
def enter (s : VisitorSessionManager) (c : VisitorCall) (env : VisitorEnvironment) : Option Step :=
  match c with
  | .open visitorToken =>
    if s.transaction then none
    else
      match s.admitVisitorTurn sha256 env visitorToken with
      | .error error => some (s.fail error)
      | .ok permit   => some (s, [.insert ⟨visitorToken, permit⟩], [.minted permit])
  | .authorize sessionId =>
    some <| s.lookup sessionId fun v => (s, [.loadRevoked v .authorize], [])
  | .beginProviderEgress sessionId =>
    some <| s.lookup sessionId fun v => (s, [.admitProviderEgress v], [])
  | .close sessionId =>
    some <| s.lookup sessionId fun v =>
      ({ s with sessions := s.sessions.erase sessionId }, revoke v ++ [.finish (.ok .closed)], [])
  | .revokeAll =>
    if env.order.isPerm s.registered then
      some ({ s with sessions := ∅ },
        env.order.flatMap markRevoked ++ env.order.flatMap revoke ++ [.finish (.ok .revoked)], [])
    else
      none
  | .dropPermit v => do
    let m ← s.visitors[v]?
    if v ∈ s.permits then
      let s := { s with permits := s.permits.erase v }
      some (s.setVisitor v { m with active := m.active - 1 }, [], [])
    else
      none
  | .owner request =>
    if s.transaction then none else some (s.ownerRequest sha256 env request)

def insertVisitor (s : VisitorSessionManager) (env : VisitorEnvironment)
    (authority : Rt1VisitorSession) : Step :=
  match env.random 32 with
  | none        => s.fail "visitor session entropy unavailable"
  | some secret =>
    let id := hex secret.toList
    if s.sessions.entries.length ≥ maxActiveVisitors then
      s.fail "visitor session capacity reached"
    else if id ∈ s.sessions then
      s.fail "visitor session collision"
    else
      ({ s with
        sessions := s.sessions.insert id s.visitors.length
        visitors := s.visitors ++ [.new authority] }, [.loadRevoked s.visitors.length (.open id)], [])

def execute (s : VisitorSessionManager) (i : VisitorInstruction) (env : VisitorEnvironment) :
    Option Step :=
  match i with
  | .insert authority => some (s.insertVisitor env authority)
  | .admitProviderEgress v => do
    let m ← s.visitors[v]?
    if s.transaction then none
    else
      match s.admitVisitorProviderEgress sha256 env m with
      | .error error => some (s, [.loadRevoked v (.beginProviderEgress error)], [])
      | .ok m'       => some (setVisitor { s with permits := v :: s.permits } v m', [],
          [.egress v m.authority.permit])
  | .loadRevoked v caller => do
    let m ← s.visitors[v]?
    if m.revoked then
      some (s, caller.failed "visitor session revoked", [])
    else
      some (s, [.authorizeVisitor v caller], [])
  | .authorizeVisitor v caller => do
    let m ← s.visitors[v]?
    if s.transaction then none
    else
      match s.authorizeVisitor sha256 env m.authority with
      | .error error => some (s, revoke v ++ caller.failed error, [])
      | .ok _        => some (s, [.reloadRevoked v caller], [])
  | .reloadRevoked v caller => do
    let m ← s.visitors[v]?
    if m.revoked then
      some (s, caller.failed "visitor session revoked", [])
    else
      some (s, caller.succeeded, [])
  | .discard sessionId error =>
    match s.sessions.lookup sessionId with
    | none   => some (s.fail error)
    | some v =>
      some ({ s with sessions := s.sessions.erase sessionId }, revoke v ++ [.finish (.error error)], [])
  | .swapRevoked v => do
    let m ← s.visitors[v]?
    if m.revoked then
      some (s, [], [])
    else
      some (s.setVisitor v { m with revoked := true }, [.fastRevoke v], [])
  | .fastRevoke v => some (s, [], [.fastRevoked v])
  | .swapStopped v => do
    let m ← s.visitors[v]?
    if m.stopped then
      some (s, [], [])
    else
      some (s.setVisitor v { m with stopped := true }, [.stop v], [])
  | .stop v => some (s, [], [.stopped v])
  | .takeForRevocation =>
    if env.order.isPerm s.registered then
      some ({ s with sessions := ∅ }, env.order.flatMap markRevoked ++ [.release env.order],
        [.drained env.order])
    else
      none
  | .release sessions =>
    -- The stops of `PendingVisitorRevocations::revoke` run without the transaction.
    some ({ s with transaction := false }, sessions.flatMap revoke ++ [.finish (.ok (.owner .changed))],
      [.released])
  | .finish result => some (s, [], [.returned result])

def program : Program VisitorSessionManager VisitorInstruction VisitorCall VisitorEnvironment
    VisitorObservation where
  init s  := s = .new s.file
  enter   := enter sha256
  execute := execute sha256

end VisitorSessionManager
