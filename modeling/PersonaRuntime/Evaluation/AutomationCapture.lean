import PersonaRuntime.Evaluation.CaptureFiles
import PersonaRuntime.Machine.Basic

def automationFiles : List String :=
  ["ci-evidence.json", "e2e-evidence.json"]

structure AutomationJournal where
  schemaVersion : String
  candidateSha  : String
  inputSha256   : String
  ciSha256      : String
  e2eSha256     : String
deriving DecidableEq

inductive CaptureOutcome
  | committed
  | alreadyCommitted
deriving DecidableEq

structure AutomationCaptureTransaction where
  journal   : AutomationJournal
  scaffold  : ArtifactSet
  artifacts : ArtifactSet

namespace AutomationCaptureTransaction

open FileProgram CaptureProgram

def names : CaptureNames where
  lockFile      := ".rt0-automation-capture.lock"
  commitMarker  := ".rt0-automation-capture.commit"
  stagePrefix   := ".rt0-automation-capture.stage."
  journalPrefix := ".rt0-automation-capture.stage.journal."

-- The lock goes when the process ends, however it ends.
def acquireLock : ExceptT String CaptureProgram Unit := do
  orFail "AUTOMATION_CAPTURE_LOCK_FAILED" (edit (.create .lock))
  match ← attempt (edit (.tryLock .lock)) with
  | .error .wouldBlock => throw "AUTOMATION_CAPTURE_IN_PROGRESS"
  | .error _           => throw "AUTOMATION_CAPTURE_LOCK_FAILED"
  | .ok _              => return

def restorePairs : List ((String × List UInt8) × (String × List UInt8)) →
    ExceptT IoErrorKind CaptureProgram Unit
  | []                                                                         => return
  | ((scaffoldName, scaffoldBytes), (artifactName, artifactBytes)) :: rest => do
    if scaffoldName ≠ artifactName then
      throw .other
    else
      let actual ← read (.target scaffoldName)
      if actual = scaffoldBytes then
        restorePairs rest
      else if actual ≠ artifactBytes then
        throw .other
      else
        overwriteSynced (.target scaffoldName) scaffoldBytes
        restorePairs rest

-- Stops at the first file that it does not recognise.
def restoreTransactionOwned (scaffold artifacts : ArtifactSet) : ExceptT IoErrorKind CaptureProgram Unit :=
  if scaffold.length ≠ artifacts.length then
    throw .other
  else
    restorePairs (scaffold.zip artifacts)

variable (codec : JournalCodec AutomationJournal)

def readJournal : ExceptT String CaptureProgram AutomationJournal := do
  let bytes ← orFail "AUTOMATION_CAPTURE_JOURNAL_INVALID" (read .marker)
  match codec.decode bytes with
  | some journal => return journal
  | none         => throw "AUTOMATION_CAPTURE_JOURNAL_INVALID"

def recoverIfNeeded (c : AutomationCaptureTransaction) : ExceptT String CaptureProgram Unit := do
  if ← markerExists then
    let previous ← readJournal codec
    if previous ≠ c.journal then
      throw "STALE_AUTOMATION_CAPTURE_MISMATCH"
    else if ← artifactsMatch c.artifacts then
      cleanupStaged names
      orFail "AUTOMATION_CAPTURE_RECOVERY_FAILED" (edit (.removeFile .marker))
    else
      orFail "STALE_AUTOMATION_CAPTURE_AMBIGUOUS" (restoreTransactionOwned c.scaffold c.artifacts)
      cleanupStaged names
      orFail "AUTOMATION_CAPTURE_RECOVERY_FAILED" (edit (.removeFile .marker))
  else
    cleanupStaged names

-- Removes the file even where it was not this process that made it.
def writeNewSynced (path : CaptureFile) (bytes : List UInt8) : ExceptT String CaptureProgram Unit := do
  match ← attempt (writeNewSyncedIo path bytes) with
  | .ok _    => return
  | .error _ =>
    ignore (edit (.removeFile path))
    throw "AUTOMATION_CAPTURE_STAGE_FAILED"

def stageArtifacts (p : CaptureProcess) (artifacts : ArtifactSet) :
    ExceptT String CaptureProgram (List CaptureFile) :=
  CaptureProgram.stageArtifacts (fun _ => true) writeNewSynced p [] artifacts

-- The target at which it stops is not among those that are rolled back.
def rollBack (c : AutomationCaptureTransaction) (index : Nat) (code : String) :
    ExceptT String CaptureProgram Unit := do
  orFail "AUTOMATION_CAPTURE_ROLLBACK_FAILED"
    (restoreTransactionOwned (c.scaffold.take index) (c.artifacts.take index))
  throw code

def replaceArtifacts (c : AutomationCaptureTransaction) (index : Nat) :
    List ((String × List UInt8) × CaptureFile) → ExceptT String CaptureProgram Unit
  | []                            => return
  | ((name, _), stagedPath) :: rest => do
    match c.scaffold[index]? with
    | none                        => throw "index out of bounds"
    | some (_, expectedScaffold) =>
      if ← holds (.target name) expectedScaffold then
        let bytes ← orFail "AUTOMATION_CAPTURE_STAGE_FAILED" (read stagedPath)
        match ← attempt (overwriteSynced (.target name) bytes) with
        | .error _ => c.rollBack index "AUTOMATION_CAPTURE_WRITE_FAILED"
        | .ok _    => replaceArtifacts c (index + 1) rest
      else
        c.rollBack index "AUTOMATION_CAPTURE_CONCURRENT_MODIFICATION"

-- The staged files go whether or not the targets could be replaced.
def writeStaged (c : AutomationCaptureTransaction) (p : CaptureProcess) (staged : List CaptureFile) :
    ExceptT String CaptureProgram CaptureOutcome := do
  match ← createJournal codec p c.journal with
  | .error kind =>
    cleanup staged
    throw (if kind = .alreadyExists then "AUTOMATION_CAPTURE_IN_PROGRESS" else "AUTOMATION_CAPTURE_STAGE_FAILED")
  | .ok _ =>
    let result ← attempt (c.replaceArtifacts 0 (c.artifacts.zip staged))
    cleanup staged
    match result with
    | .error code => throw code
    | .ok _       =>
      orFail "AUTOMATION_CAPTURE_FINALIZE_FAILED" (edit (.removeFile .marker))
      return .committed

def commit (c : AutomationCaptureTransaction) (p : CaptureProcess) :
    ExceptT String CaptureProgram CaptureOutcome := do
  acquireLock
  c.recoverIfNeeded codec
  if ← artifactsMatch c.artifacts then
    return .alreadyCommitted
  else if ← artifactsMatch c.scaffold then
    let staged ← stageArtifacts p c.artifacts
    c.writeStaged codec p staged
  else
    throw "AUTOMATION_CAPTURE_AMBIGUOUS"

-- What `automation_scaffold` leaves.
structure Scaffolded (c : AutomationCaptureTransaction) (dir : Directory CaptureFile) : Prop where
  scaffold : c.scaffold.In dir
  marker   : dir.lookup .marker = none
  lock     : dir.lookup .lock ≠ some .other

-- Attempts at one transaction, one after the other. Each is cut off where its list of faults ends.
def attempts (c : AutomationCaptureTransaction) :
    Machine (Directory CaptureFile) (CaptureProcess × List (Option IoFault))
      (Option (Except String CaptureOutcome)) where
  init dir      := c.Scaffolded dir
  step dir call :=
    let e := (c.commit codec call.1).run.exec call.2 dir
    some (e.state, [e.result])

end AutomationCaptureTransaction
