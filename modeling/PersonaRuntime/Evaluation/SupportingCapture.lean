import PersonaRuntime.Evaluation.CaptureFiles
import PersonaRuntime.Machine.Basic

def rt0ManualSupportingFiles : List String :=
  ["acceptance.json", "cost.json", "privacy-permissions.json", "human-evaluation.json", "known-limitations.md"]

-- The digests are in the order of their keys.
structure SupportingJournal where
  schemaVersion       : String
  candidateSha        : String
  providerStateSha256 : String
  inputSha256         : String
  artifactSha256      : List (String × String)
deriving DecidableEq

inductive LockOutcome
  | acquired
  | alreadyCommitted
deriving DecidableEq

inductive PreviousJournal
  | empty
  | valid (journal : SupportingJournal)
  | invalid
deriving DecidableEq

-- What a capture is called with. `expected` is the scaffold.
structure SupportingCapture where
  journal   : SupportingJournal
  expected  : ArtifactSet
  artifacts : ArtifactSet

namespace SupportingCapture

open FileProgram CaptureProgram

def names : CaptureNames where
  lockFile      := ".rt0-supporting-capture.lock"
  commitMarker  := ".rt0-supporting-capture.commit"
  stagePrefix   := ".rt0-supporting-capture.stage."
  journalPrefix := "..rt0-supporting-capture.commit."

variable (codec : JournalCodec SupportingJournal)

def readLockJournal : ExceptT String CaptureProgram PreviousJournal := do
  let bytes ← orFail "CAPTURE_LOCK_FAILED" (read .lock)
  if bytes = [] then
    return .empty
  else
    match codec.decode bytes with
    | some journal => return .valid journal
    | none         => return .invalid

def writeLockJournal (c : SupportingCapture) : ExceptT String CaptureProgram Unit := do
  orFail "CAPTURE_LOCK_FAILED" (edit (.truncate .lock))
  orFail "CAPTURE_LOCK_FAILED" (edit (.writeAll .lock (codec.encode c.journal ++ [newline])))
  orFail "CAPTURE_LOCK_FAILED" (edit (.syncAll .lock))

def readJournal (path : CaptureFile) :
    ExceptT String CaptureProgram SupportingJournal := do
  let bytes ← orFail "STALE_CAPTURE_JOURNAL_INVALID" (read path)
  match codec.decode bytes with
  | some journal => return journal
  | none         => throw "STALE_CAPTURE_JOURNAL_INVALID"

def restoreSynced (path : CaptureFile) (bytes : List UInt8) : ExceptT IoErrorKind CaptureProgram Unit := do
  match ← attempt (isFile path) with
  | .ok false => throw .other
  | _         =>
    edit (.createTruncate path)
    edit (.writeAll path bytes)
    edit (.syncAll path)

-- Goes on where a file cannot be restored.
def restoreScaffold : ArtifactSet → CaptureProgram Bool
  | []                      => return true
  | (name, content) :: rest => do
    let result ← (restoreSynced (.target name) content).run
    let restored ← restoreScaffold rest
    return result.isOk && restored

-- Without a marker the targets have to be all of one kind.
def recoverUnmarked (c : SupportingCapture) (previous : PreviousJournal) :
    ExceptT String CaptureProgram Unit := do
  if ← artifactsMatch c.artifacts then
    cleanupStaged names
  else if ← artifactsMatch c.expected then
    cleanupStaged names
  else
    match previous with
    | .valid previous => throw (if previous ≠ c.journal then "STALE_CAPTURE_MISMATCH" else "STALE_CAPTURE_AMBIGUOUS")
    | _               => throw "STALE_CAPTURE_AMBIGUOUS"

def recoverUnderLock (c : SupportingCapture) (previous : PreviousJournal) :
    ExceptT String CaptureProgram Unit := do
  if ← markerExists then
    let markerJournal ← readJournal codec .marker
    if markerJournal ≠ c.journal then
      throw "STALE_CAPTURE_MISMATCH"
    else if ← restoreScaffold c.expected then
      cleanupStaged names
      orFail "STALE_CAPTURE_RECOVERY_FAILED" (edit (.removeFile .marker))
    else
      throw "STALE_CAPTURE_RECOVERY_FAILED"
  else
    c.recoverUnmarked previous

-- `CaptureLock::acquire`. The lock goes when the process ends, however it ends.
def acquire (c : SupportingCapture) : ExceptT String CaptureProgram LockOutcome := do
  orFail "CAPTURE_LOCK_FAILED" (edit (.create .lock))
  match ← attempt (edit (.tryLock .lock)) with
  | .error .wouldBlock => throw "CAPTURE_IN_PROGRESS"
  | .error _           => throw "CAPTURE_LOCK_FAILED"
  | .ok _              =>
    let previous ← readLockJournal codec
    c.recoverUnderLock codec previous
    c.writeLockJournal codec
    if ← artifactsMatch c.artifacts then
      return .alreadyCommitted
    else
      return .acquired

-- A file that it could not open is not its own to remove.
def writeNewSynced (path : CaptureFile) (bytes : List UInt8) : ExceptT String CaptureProgram Unit := do
  orFail "OUTPUT_STAGE_FAILED" (edit (.createNew path))
  match ← attempt (do edit (.writeAll path bytes); edit (.syncAll path)) with
  | .ok _    => return
  | .error _ =>
    ignore (edit (.removeFile path))
    throw "OUTPUT_STAGE_FAILED"

def stageArtifacts (p : CaptureProcess) (artifacts : ArtifactSet) :
    ExceptT String CaptureProgram (List CaptureFile) :=
  CaptureProgram.stageArtifacts (· ∈ rt0ManualSupportingFiles) writeNewSynced p [] artifacts

-- Where a file cannot be replaced. `code` is for a rollback that succeeds.
def rollBack (replaced : ArtifactSet) (staged : List CaptureFile) (code : String) :
    ExceptT String CaptureProgram Unit := do
  let rollbackOk ← restoreScaffold replaced
  cleanup staged
  if rollbackOk then
    ignore (edit (.removeFile .marker))
    throw code
  else
    throw "OUTPUT_ROLLBACK_FAILED"

def replaceArtifacts (c : SupportingCapture) (staged : List CaptureFile) (replaced : Nat) :
    List ((String × List UInt8) × CaptureFile) → ExceptT String CaptureProgram Unit
  | []                            => return
  | ((name, _), stagedPath) :: rest => do
    match ← attempt (read stagedPath) with
    | .error _  => rollBack (c.expected.take replaced) staged "OUTPUT_STAGE_FAILED"
    | .ok bytes =>
      match ← attempt (overwriteSynced (.target name) bytes) with
      | .error _ => rollBack (c.expected.take (replaced + 1)) staged "OUTPUT_WRITE_FAILED"
      | .ok _    => replaceArtifacts c staged (replaced + 1) rest

def writeArtifactsTransactional (c : SupportingCapture) (p : CaptureProcess) :
    ExceptT String CaptureProgram Unit := do
  let staged ← stageArtifacts p c.artifacts
  match ← createJournal codec p c.journal with
  | .error kind =>
    cleanup staged
    throw (if kind = .alreadyExists then "CAPTURE_IN_PROGRESS" else "OUTPUT_STAGE_FAILED")
  | .ok _ =>
    c.replaceArtifacts staged 0 (c.artifacts.zip staged)
    cleanup staged
    orFail "OUTPUT_COMMIT_FINALIZE_FAILED" (edit (.removeFile .marker))

def validateExactPlaceholders : ArtifactSet → ExceptT String CaptureProgram Unit
  | []                      => return
  | (name, content) :: rest => do
    if ← orFail "INPUT_INVALID" (isFile (.target name)) then
      let existing ← orFail "INPUT_INVALID" (read (.target name))
      if existing ≠ content then
        throw "REVIEWED_ARTIFACT_EXISTS"
      validateExactPlaceholders rest
    else
      throw "REVIEWED_ARTIFACT_EXISTS"

-- The part of `run` that works in the directory.
def run (c : SupportingCapture) (p : CaptureProcess) : ExceptT String CaptureProgram Unit := do
  match ← c.acquire codec with
  | .alreadyCommitted => return
  | .acquired         =>
    if c.expected.length ≠ rt0ManualSupportingFiles.length then
      throw "INTERNAL_ERROR"
    validateExactPlaceholders c.expected
    c.writeArtifactsTransactional codec p

-- What `rt0_supporting_scaffold` leaves.
structure Scaffolded (c : SupportingCapture) (dir : Directory CaptureFile) : Prop where
  expected : c.expected.In dir
  marker   : dir.lookup .marker = none
  lock     : dir.lookup .lock ≠ some .other

-- Captures of one directory, one after the other. Each is cut off where its list of faults ends.
def captures (c : SupportingCapture) (run : CaptureProcess → ExceptT String CaptureProgram Unit) :
    Machine (Directory CaptureFile) (CaptureProcess × List (Option IoFault)) (Option (Except String Unit)) where
  init dir      := c.Scaffolded dir
  step dir call :=
    let e := (run call.1).run.exec call.2 dir
    some (e.state, [e.result])

end SupportingCapture
