import PersonaRuntime.OwnerLab.OwnerContext

structure ReviewedOwnerClaimSnapshot where
  claimId   : String
  statement : String
  kind      : String
  revision  : Nat
deriving DecidableEq

structure ReviewedOwnerContextSnapshot where
  personaId      : String
  personaVersion : Nat
  claims         : List ReviewedOwnerClaimSnapshot
deriving DecidableEq

-- `snapshot_from_profile`
def PersonaProfile.reviewedSnapshot (p : PersonaProfile) : ReviewedOwnerContextSnapshot where
  personaId      := p.identity.id.asStr
  personaVersion := p.identity.version.get
  claims         := p.claims.map fun r => {
    claimId   := r.id.asStr
    statement := r.current.claim.statement
    kind      := r.current.claim.kind.apiLabel
    revision  := r.current.revision.get }

structure PersistedPersonaV1 where
  schemaVersion : String
  snapshot      : ReviewedOwnerContextSnapshot
deriving DecidableEq

-- The content of the file by what `serde_json` makes of it, as a `SchemaProbe` and as each record.
structure StoredPersona where
  probe    : Option String
  v1       : Option PersistedPersonaV1
  v2       : Option PersistedPersonaV2
  v1_probe : ∀ r, v1 = some r → probe = some r.schemaVersion
  v2_probe : ∀ r, v2 = some r → probe = some r.schemaVersion

namespace StoredPersona

def raw (s : StoredPersona) : RawPersona :=
  match s.v2 with
  | some record => .persisted record
  | none        => .other s.probe

-- The bytes of a record. Read as a v1 record they are never asked for.
def ofRecord (record : PersistedPersonaV2) : StoredPersona where
  probe    := some record.schemaVersion
  v1       := none
  v2       := some record
  v1_probe := nofun
  v2_probe := fun _ h => congrArg (Option.map PersistedPersonaV2.schemaVersion) h

-- A file that was not written to its end.
def incomplete : StoredPersona where
  probe    := none
  v1       := none
  v2       := none
  v1_probe := nofun
  v2_probe := nofun

end StoredPersona

structure DecodedPersona where
  snapshot       : DurableReviewedOwnerContextSnapshot
  migratedLegacy : Bool
deriving DecidableEq

def migrateClaim (c : ReviewedOwnerClaimSnapshot) : DurableReviewedOwnerClaimSnapshot where
  claimId         := c.claimId
  historyComplete := false
  revisions       := [{
    revision     := c.revision
    statement    := c.statement
    kind         := c.kind
    source       := "owner"
    verification := "owner_verified"
    derivation   := "direct" }]

-- The loop over the claims stops at the first one that is refused.
def migrateClaims : List ReviewedOwnerClaimSnapshot → Except String (List DurableReviewedOwnerClaimSnapshot)
  | []      => .ok []
  | c :: cs =>
    if c.revision < 2 ∨ c.revision > 10000 then
      .error "legacy reviewed Persona claim revision is invalid"
    else do
      return migrateClaim c :: (← migrateClaims cs)

def migrateV1Snapshot (s : ReviewedOwnerContextSnapshot) : Except String DurableReviewedOwnerContextSnapshot :=
  if s.personaVersion < 2 ∨ s.claims.isEmpty then
    .error "legacy reviewed Persona snapshot is invalid"
  else do
    let claims ← migrateClaims s.claims
    let validated ← (ReviewedOwnerContext.fromDurableSnapshot {
      personaId      := s.personaId
      personaVersion := s.personaVersion
      claims }).orMessage "legacy reviewed Persona snapshot is invalid"
    return validated.durableSnapshot

def decodePersisted (raw : StoredPersona) : Except String DecodedPersona := do
  let schemaVersion ← raw.probe.okOr "reviewed Persona store contains invalid data"
  if schemaVersion = storeSchemaV2 then do
    let persisted ← raw.v2.okOr "reviewed Persona store contains invalid v2 data"
    return { snapshot := ← persisted.validate, migratedLegacy := false }
  else if schemaVersion = storeSchemaV1 then do
    let persisted ← raw.v1.okOr "reviewed Persona store contains invalid v1 data"
    if persisted.schemaVersion ≠ storeSchemaV1 then
      throw "reviewed Persona store schema is unsupported"
    return { snapshot := ← migrateV1Snapshot persisted.snapshot, migratedLegacy := true }
  else
    throw "reviewed Persona store schema is unsupported"

inductive PrimitiveAnswer
  | done
  | alreadyExists
  | failed
  -- The process ends in the primitive, before or after it takes effect.
  | cut (applied : Bool)
deriving DecidableEq

-- The file of the store, the temporary file of the call, and what the primitives will answer. Behind
-- the end of the answers everything is done.
structure PersonaFiles where
  file    : Option StoredPersona
  staged  : Option StoredPersona
  answers : List PrimitiveAnswer

inductive Interruption
  | error (message : String)
  | ended
deriving DecidableEq

abbrev PersonaIo := EStateM Interruption PersonaFiles

namespace PersonaFiles

def answer : PersonaIo PrimitiveAnswer := do
  let answer := (← get).answers.headD .done
  modify fun s => { s with answers := s.answers.tail }
  return answer

def primitive (message : String) (effect : PersonaFiles → PersonaFiles) : PersonaIo Unit := do
  match ← answer with
  | .done          => modify effect
  | .cut applied   => do
    if applied then
      modify effect
    throw .ended
  | .alreadyExists | .failed => throw (.error message)

def readRaw : PersonaIo (Option StoredPersona) := do
  primitive "reviewed Persona file store read failed" id
  return (← get).file

-- The attempts that are left to open a temporary file.
def stage : Nat → PersonaIo Unit
  | 0     => throw (.error "reviewed Persona file store staging exhausted")
  | n + 1 => do
    -- `getrandom::fill`
    primitive "reviewed Persona file store temporary name failed" id
    match ← answer with
    | .done          => modify ({ · with staged := some .incomplete })
    | .alreadyExists => stage n
    | .cut applied   => do
      if applied then
        modify ({ · with staged := some .incomplete })
      throw .ended
    | .failed        => throw (.error "reviewed Persona file store staging failed")

def rename (s : PersonaFiles) : PersonaFiles :=
  match s.staged with
  | some content => { s with file := some content, staged := none }
  | none         => s

def commit (record : PersistedPersonaV2) : PersonaIo Unit := do
  primitive "reviewed Persona file store write failed" ({ · with staged := some (.ofRecord record) })
  primitive "reviewed Persona file store sync failed" id
  primitive "reviewed Persona file store commit failed" rename
  primitive "reviewed Persona directory sync failed" id

-- `let _ = fs::remove_file(&temp);`
def removeStaged : PersonaIo Unit := do
  match ← answer with
  | .done                    => modify ({ · with staged := none })
  | .cut applied             => do
    if applied then
      modify ({ · with staged := none })
    throw .ended
  | .alreadyExists | .failed => return

def commitRaw (record : PersistedPersonaV2) : PersonaIo Unit := do
  primitive "reviewed Persona file store directory creation failed" id
  stage 16
  tryCatch (commit record) fun
    | .error message => do
      removeStaged
      throw (.error message)
    | .ended         => throw .ended

def saveFile (snapshot : DurableReviewedOwnerContextSnapshot) : PersonaIo Unit := do
  let previous ← readRaw
  let record ← .check .error (PersistedPersonaV2.reconciled snapshot (previous.map (·.raw)))
  commitRaw record

def loadFile : PersonaIo (Option DurableReviewedOwnerContextSnapshot) := do
  match ← readRaw with
  | none     => return none
  | some raw => do
    let decoded ← .check .error (decodePersisted raw)
    if decoded.migratedLegacy then
      saveFile decoded.snapshot
    return some decoded.snapshot

end PersonaFiles
