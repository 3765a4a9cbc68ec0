import PersonaRuntime.Domain.Reason
import PersonaRuntime.OwnerLab.Persistence

-- What the workspace methods return beside the change that they commit.
inductive WorkspaceReply
  | provisioned (ownerId ownerToken : String)
  | published (visitorToken : String)
  | changed
deriving DecidableEq, Repr

-- The methods of `Rt1WorkspaceService` that change the durable record.
inductive WorkspaceCall
  | provisionOwner (random : RandomSource)
  | publish (ownerToken : String) (expectedPersonaVersion : Nat) (serverReadinessVerified : Bool)
    (random : RandomSource)
  | pause (ownerToken : String)
  | unpublish (ownerToken : String)

namespace WorkspaceCall

variable (sha256 : Digest)

-- `change_publication`
def changePublication (record : PersistedPersonaV2)
    (operation : OwnerWorkspaceRecord → Except String OwnerWorkspaceRecord) :
    Except String (PersistedPersonaV2 × WorkspaceReply) := do
  let workspace ← record.workspace.okOr "owner workspace missing"
  let workspace ← operation workspace
  return ({ record with workspace := some workspace }, .changed)

-- The body of a method between the load and the commit.
def apply (record : PersistedPersonaV2) :
    WorkspaceCall → Except String (PersistedPersonaV2 × WorkspaceReply)
  | provisionOwner random =>
    if record.workspace.isSome then
      .error "owner workspace already provisioned"
    else do
      let (workspace, ownerToken) ← OwnerWorkspaceRecord.provision sha256 random
      return ({ record with workspace := some workspace }, .provisioned workspace.ownerId ownerToken)
  | publish ownerToken expectedPersonaVersion serverReadinessVerified random =>
    if record.snapshot.personaVersion ≠ expectedPersonaVersion then
      .error "stale Persona version"
    else do
      let workspace ← record.workspace.okOr "owner workspace missing"
      let (workspace, visitorToken) ← workspace.publish sha256 ownerToken record.snapshot.personaId
        expectedPersonaVersion serverReadinessVerified random
      return ({ record with workspace := some workspace }, .published visitorToken)
  | pause ownerToken     => changePublication record (·.pause sha256 ownerToken)
  | unpublish ownerToken => changePublication record (·.unpublish sha256 ownerToken)

-- Everything up to `commit_raw`: the load, the body and the check of `commit_current_record`.
def prepare (c : WorkspaceCall) (raw : Option RawPersona) :
    Except String (PersistedPersonaV2 × WorkspaceReply) := do
  let (record, reply) ← c.apply sha256 (← RawPersona.requiredPersona raw)
  let _ ← record.validate
  return (record, reply)

end WorkspaceCall

inductive LabSessionAudience
  | owner
  | visitor
deriving DecidableEq, Repr

inductive LabError
  | invalidInput
  | speechNotRecognized
  | invalidState
  | runtime (reason : Rt0ReasonCode)
  | provider (reason : Rt0ReasonCode)
  | persistenceFailed
  | internal
deriving DecidableEq, Repr

-- A call of `correct_owner_claim_persisted`.
structure ClaimCorrection where
  id        : ClaimId
  statement : String
  kind      : ClaimKind
deriving DecidableEq

-- Everything up to the persistence of the corrected profile.
def ClaimCorrection.prepare (c : ClaimCorrection) (audience : Option LabSessionAudience)
    (context : Option PersonaProfile) : Except LabError (PersonaProfile × PersonaProfile.Undo) :=
  if audience = some .visitor then
    .error (.runtime .authScopeDenied)
  else
    match context with
    | none         => .error .invalidState
    | some profile =>
      match profile.undo c.id, profile.correctClaim c.id c.statement c.kind with
      | some undo, .ok corrected => .ok (corrected, undo)
      | _, _                     => .error .invalidInput

inductive OwnerCall
  | correct (c : ClaimCorrection)
  | workspace (c : WorkspaceCall)

inductive OwnerError
  | lab (error : LabError)
  | workspace (message : String)
deriving DecidableEq, Repr

structure OwnerCallResult where
  call   : OwnerCall
  result : Except OwnerError WorkspaceReply

-- A call between the read of the file and its commit.
structure Correction where
  call     : ClaimCorrection
  undo     : PersonaProfile.Undo
  previous : Option RawPersona
  record   : PersistedPersonaV2

structure WorkspaceTransaction where
  call   : WorkspaceCall
  raw    : Option RawPersona
  record : PersistedPersonaV2
  reply  : WorkspaceReply

-- The process that serves the owner. The engine mutex is held while there is a `correction`, and
-- `WORKSPACE_TRANSACTION` is held while there is a `transaction`.
structure OwnerProcess where
  file        : Option RawPersona
  audience    : Option LabSessionAudience
  -- The profile of `reviewed_owner_context`.
  context     : Option PersonaProfile
  correction  : Option Correction
  transaction : Option WorkspaceTransaction

inductive OwnerEvent
  -- A thread takes the lock of its call and reads the file, if the file can be read.
  | start (call : OwnerCall) (readable : Bool)
  | commitCorrection (outcome : CommitOutcome)
  | commitTransaction (outcome : CommitOutcome)

namespace OwnerProcess

variable (sha256 : Digest)

-- A correction that does not get to its commit is undone at once.
def startCorrection (s : OwnerProcess) (c : ClaimCorrection) (readable : Bool) :
    OwnerProcess × List OwnerCallResult :=
  let failed error := (s, [⟨.correct c, .error (.lab error)⟩])
  match c.prepare s.audience s.context with
  | .error error => failed error
  | .ok (corrected, undo) =>
    let undone := { s with context := some (corrected.rollback undo) }
    if !readable then (undone, [⟨.correct c, .error (.lab .persistenceFailed)⟩])
    else
      match PersistedPersonaV2.reconciled corrected.durableSnapshot s.file with
      | .error _   => (undone, [⟨.correct c, .error (.lab .persistenceFailed)⟩])
      | .ok record => ({ s with
          context    := some corrected
          correction := some { call := c, undo, previous := s.file, record } }, [])

def startTransaction (s : OwnerProcess) (c : WorkspaceCall) (readable : Bool) :
    OwnerProcess × List OwnerCallResult :=
  let failed message := (s, [⟨.workspace c, .error (.workspace message)⟩])
  if !readable then failed "reviewed Persona file store read failed"
  else
    match c.prepare sha256 s.file with
    | .error message       => failed message
    | .ok (record, reply) => ({ s with
        transaction := some { call := c, raw := s.file, record, reply } }, [])

def commitCorrection (s : OwnerProcess) (c : Correction) (outcome : CommitOutcome) :
    OwnerProcess × List OwnerCallResult :=
  let s := { s with file := outcome.file s.file c.record, correction := none }
  match outcome.result with
  -- The readiness is reset as well. That cannot fail for a reviewed profile.
  | .ok _    => (s, [⟨.correct c.call, .ok .changed⟩])
  | .error _ => ({ s with context := s.context.map (·.rollback c.undo) },
      [⟨.correct c.call, .error (.lab .persistenceFailed)⟩])

def commitTransaction (s : OwnerProcess) (c : WorkspaceTransaction) (outcome : CommitOutcome) :
    OwnerProcess × List OwnerCallResult :=
  let s := { s with file := outcome.file s.file c.record, transaction := none }
  match outcome.result with
  | .ok _          => (s, [⟨.workspace c.call, .ok c.reply⟩])
  | .error message => (s, [⟨.workspace c.call, .error (.workspace message)⟩])

def machine : Machine OwnerProcess OwnerEvent OwnerCallResult where
  init s := s.correction.isNone ∧ s.transaction.isNone ∧ s.context.all (·.isReviewed)
  step s
    | .start (.correct c) readable =>
      if s.correction.isSome then none else some (s.startCorrection c readable)
    | .start (.workspace c) readable =>
      if s.transaction.isSome then none else some (s.startTransaction sha256 c readable)
    | .commitCorrection outcome =>
      s.correction.map fun c => s.commitCorrection c outcome
    | .commitTransaction outcome =>
      s.transaction.map fun c => s.commitTransaction c outcome

end OwnerProcess
