import PersonaRuntime.Domain.Profile
import PersonaRuntime.OwnerLab.Workspace

structure DurableOwnerClaimRevisionSnapshot where
  revision     : Nat
  statement    : String
  kind         : String
  source       : String
  verification : String
  derivation   : String
deriving DecidableEq, Repr

structure DurableReviewedOwnerClaimSnapshot where
  claimId         : String
  historyComplete : Bool
  revisions       : List DurableOwnerClaimRevisionSnapshot
deriving DecidableEq, Repr

structure DurableReviewedOwnerContextSnapshot where
  personaId      : String
  personaVersion : Nat
  claims         : List DurableReviewedOwnerClaimSnapshot
deriving DecidableEq, Repr

def ClaimKind.apiLabel : ClaimKind → String
  | factual       => "factual"
  | opinion       => "opinion"
  | preference    => "preference"
  | prediction    => "prediction"
  | valueJudgment => "value_judgment"

def SourceKind.apiLabel : SourceKind → String
  | owner    => "owner"
  | user     => "user"
  | document => "document"
  | web      => "web"
  | tool     => "tool"
  | model    => "model"

def VerificationState.apiLabel : VerificationState → String
  | unverified     => "unverified"
  | corroborated   => "corroborated"
  | ownerVerified  => "owner_verified"
  | sourceVerified => "source_verified"
  | disputed       => "disputed"

def DerivationKind.apiLabel : DerivationKind → String
  | direct     => "direct"
  | remembered => "remembered"
  | inferred   => "inferred"
  | summarized => "summarized"
  | simulated  => "simulated"

def OwnerClaimRevision.durableSnapshot (r : OwnerClaimRevision) : DurableOwnerClaimRevisionSnapshot where
  revision     := r.revision.get
  statement    := r.claim.statement
  kind         := r.claim.kind.apiLabel
  source       := r.claim.source.apiLabel
  verification := r.claim.verification.apiLabel
  derivation   := r.claim.derivation.apiLabel

def OwnerClaimRecord.durableSnapshot (r : OwnerClaimRecord) : DurableReviewedOwnerClaimSnapshot where
  claimId         := r.id.asStr
  historyComplete := r.hasCompleteHistory
  revisions       := r.retainedRevisions.map (·.durableSnapshot)

-- `durable_snapshot_from_profile`
def PersonaProfile.durableSnapshot (p : PersonaProfile) : DurableReviewedOwnerContextSnapshot where
  personaId      := p.identity.id.asStr
  personaVersion := p.identity.version.get
  claims         := p.claims.map (·.durableSnapshot)

-- `is_reviewed_profile`
def PersonaProfile.isReviewed (p : PersonaProfile) : Bool :=
  p.identity.mode = .digitalTwin && p.captureState = .reviewed && !p.claims.isEmpty &&
    p.claims.all (·.isOwnerReviewed)

def storeSchemaV1 : String :=
  "vpr-reviewed-owner-persona-1"

def storeSchemaV2 : String :=
  "vpr-reviewed-owner-persona-2"

structure PersistedPersonaV2 where
  schemaVersion : String
  snapshot      : DurableReviewedOwnerContextSnapshot
  workspace     : Option OwnerWorkspaceRecord
deriving DecidableEq

-- The content of the file store, by what `serde_json` makes of it.
inductive RawPersona
  | persisted (record : PersistedPersonaV2)
  -- It is no such record, though it may have a schema version.
  | other (schemaVersion : Option String)
deriving DecidableEq

-- `SchemaProbe`
def RawPersona.probe : RawPersona → Option String
  | persisted record    => some record.schemaVersion
  | other schemaVersion => schemaVersion

namespace PersistedPersonaV2

def new (snapshot : DurableReviewedOwnerContextSnapshot) : PersistedPersonaV2 where
  schemaVersion := storeSchemaV2
  snapshot      := snapshot
  workspace     := none

def validate (r : PersistedPersonaV2) : Except String DurableReviewedOwnerContextSnapshot :=
  if r.schemaVersion ≠ storeSchemaV2 then
    .error "reviewed Persona store schema is unsupported"
  else
    match r.workspace with
    | none           => .ok r.snapshot
    | some workspace => do
      workspace.validate r.snapshot.personaId r.snapshot.personaVersion
      return r.snapshot

-- Takes the workspace of the previous record over to the next snapshot.
def adopt (next old : PersistedPersonaV2) : Except String PersistedPersonaV2 := do
  let _ ← old.validate
  if old.snapshot.personaId ≠ next.snapshot.personaId ∨
      old.snapshot.personaVersion > next.snapshot.personaVersion then
    .error "canonical Persona identity or version mismatch"
  else
    match old.workspace with
    | none => .ok next
    | some workspace =>
      if old.snapshot.personaVersion < next.snapshot.personaVersion then do
        let workspace ← workspace.onPersonaCorrection next.snapshot.personaVersion
        return { next with workspace := some workspace }
      else
        .ok { next with workspace := some workspace }

-- The record before its validation.
def merged (snapshot : DurableReviewedOwnerContextSnapshot) :
    Option RawPersona → Except String PersistedPersonaV2
  | none => .ok (new snapshot)
  | some previous =>
    match previous.probe with
    | none => .error "existing Persona record is invalid"
    | some schemaVersion =>
      if schemaVersion = storeSchemaV2 then
        match previous with
        | .persisted old => (new snapshot).adopt old
        | .other _       => .error "existing Persona v2 record is invalid"
      else if schemaVersion ≠ storeSchemaV1 then
        .error "existing Persona schema is unsupported"
      else
        .ok (new snapshot)

def reconciled (snapshot : DurableReviewedOwnerContextSnapshot) (previous : Option RawPersona) :
    Except String PersistedPersonaV2 := do
  let next ← merged snapshot previous
  let _ ← next.validate
  return next

end PersistedPersonaV2

-- `load_current_record` after the file was read.
def RawPersona.loadCurrentRecord : Option RawPersona → Except String (Option PersistedPersonaV2)
  | none                     => .ok none
  | some (.other _)          => .error "canonical Persona v2 record required"
  | some (.persisted record) => do
    let _ ← record.validate
    return record

def RawPersona.requiredPersona (raw : Option RawPersona) : Except String PersistedPersonaV2 := do
  (← loadCurrentRecord raw).okOr "reviewed Persona required"

-- The steps of `commit_raw` that may fail before the file is replaced.
inductive CommitFailure
  | directoryCreation
  | temporaryName
  | staging
  | stagingExhausted
  | write
  | sync
  | rename
deriving DecidableEq, Repr

def CommitFailure.message : CommitFailure → String
  | directoryCreation => "reviewed Persona file store directory creation failed"
  | temporaryName     => "reviewed Persona file store temporary name failed"
  | staging           => "reviewed Persona file store staging failed"
  | stagingExhausted  => "reviewed Persona file store staging exhausted"
  | write             => "reviewed Persona file store write failed"
  | sync              => "reviewed Persona file store sync failed"
  | rename            => "reviewed Persona file store commit failed"

-- How `commit_raw` ends. The last one is an error too, but the file is replaced by then.
inductive CommitOutcome
  | committed
  | notReplaced (failure : CommitFailure)
  | notFlushed
deriving DecidableEq, Repr

namespace CommitOutcome

def replaces : CommitOutcome → Bool
  | committed | notFlushed => true
  | notReplaced _          => false

-- What is in the file afterwards.
def file (outcome : CommitOutcome) (file : Option RawPersona) (record : PersistedPersonaV2) :
    Option RawPersona :=
  match outcome with
  | committed | notFlushed => some (.persisted record)
  | notReplaced _          => file

def result : CommitOutcome → Except String Unit
  | committed           => .ok ()
  | notReplaced failure => .error failure.message
  | notFlushed          => .error "reviewed Persona directory sync failed"

end CommitOutcome
