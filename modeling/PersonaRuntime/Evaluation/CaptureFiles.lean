import PersonaRuntime.Machine.Files

-- The files of the directory that a capture works in. Those that its process makes up carry its id and
-- a timestamp.
inductive CaptureFile
  | target (name : String)
  | lock
  | marker
  | stage (pid nonce index : Nat)
  | journal (pid nonce : Nat)
deriving DecidableEq

abbrev CaptureProgram := FileProgram CaptureFile

-- The files that a capture replaces, with their contents.
abbrev ArtifactSet := List (String × List UInt8)

-- What the files of a set hold.
def ArtifactSet.In (files : ArtifactSet) (dir : Directory CaptureFile) : Prop :=
  ∀ f ∈ files, dir.lookup (.target f.1) = some (.file f.2)

instance {files : ArtifactSet} {dir : Directory CaptureFile} : Decidable (files.In dir) :=
  inferInstanceAs (Decidable (∀ f ∈ files, _))

-- A process takes a timestamp for its staged files and one for its journal.
structure CaptureProcess where
  pid          : Nat
  stageNonce   : Nat
  journalNonce : Nat

-- The names that a process makes up are not taken.
structure CaptureProcess.Fresh (p : CaptureProcess) (dir : Directory CaptureFile) : Prop where
  stage   : ∀ i, dir.lookup (.stage p.pid p.stageNonce i) = none
  journal : dir.lookup (.journal p.pid p.journalNonce) = none

-- The texts of the names that the two captures have of their own.
structure CaptureNames where
  lockFile      : String
  commitMarker  : String
  stagePrefix   : String
  journalPrefix : String

-- `serde_json` on a journal.
structure JournalCodec (ι : Type) where
  encode : ι → List UInt8
  decode : List UInt8 → Option ι

def CaptureNames.fileName (n : CaptureNames) : CaptureFile → String
  | .target name           => name
  | .lock                  => n.lockFile
  | .marker                => n.commitMarker
  | .stage pid nonce index => s!"{n.stagePrefix}{pid}.{nonce}.{index}.tmp"
  | .journal pid nonce     => s!"{n.journalPrefix}{pid}.{nonce}.tmp"

def CaptureNames.isStaged (n : CaptureNames) (file : CaptureFile) : Bool :=
  (n.fileName file).startsWith n.stagePrefix && (n.fileName file).endsWith ".tmp"

namespace CaptureProgram

open FileProgram

variable {ε ε' α : Type}

-- A result that is not handed on with `?`.
def attempt (program : ExceptT ε CaptureProgram α) : ExceptT ε' CaptureProgram (Except ε α) :=
  .lift program.run

-- `program.map_err(|_| fail(code))?`
def orFail (code : String) (program : ExceptT IoErrorKind CaptureProgram α) :
    ExceptT String CaptureProgram α := do
  match ← attempt program with
  | .ok a    => return a
  | .error _ => throw code

-- `let _ = program;`
def ignore (program : ExceptT IoErrorKind CaptureProgram Unit) : CaptureProgram Unit := do
  let _ ← program.run

def markerExists : CaptureProgram Bool :=
  pathExists .marker

-- `fs::read(path).is_ok_and(|actual| actual == bytes)`
def holds (path : CaptureFile) (bytes : List UInt8) : CaptureProgram Bool := do
  match ← (read path).run with
  | .ok actual => return actual = bytes
  | .error _   => return false

def artifactsMatch : ArtifactSet → CaptureProgram Bool
  | []                    => return true
  | (name, bytes) :: rest => do
    if ← holds (.target name) bytes then
      artifactsMatch rest
    else
      return false

def overwriteSynced (path : CaptureFile) (bytes : List UInt8) : ExceptT IoErrorKind CaptureProgram Unit := do
  if ← isFile path then
    edit (.truncate path)
    edit (.writeAll path bytes)
    edit (.syncAll path)
  else
    throw .other

def cleanup : List CaptureFile → CaptureProgram Unit
  | []            => return
  | path :: paths => do
    ignore (edit (.removeFile path))
    cleanup paths

def cleanupStaged (n : CaptureNames) : CaptureProgram Unit := do
  let entries ← readDir
  cleanup (entries.filter n.isStaged)

def writeNewSyncedIo (path : CaptureFile) (bytes : List UInt8) : ExceptT IoErrorKind CaptureProgram Unit := do
  edit (.createNew path)
  edit (.writeAll path bytes)
  edit (.syncAll path)

def newline : UInt8 :=
  10

-- The marker appears under its name with all of its content.
def createJournal {ι : Type} (codec : JournalCodec ι) (p : CaptureProcess) (journal : ι) :
    CaptureProgram (Except IoErrorKind Unit) := do
  let temp := .journal p.pid p.journalNonce
  let result ← (do
    writeNewSyncedIo temp (codec.encode journal ++ [newline])
    edit (.hardLink temp .marker) : ExceptT IoErrorKind CaptureProgram Unit).run
  ignore (edit (.removeFile temp))
  return result

-- Both captures stage their files alike. They differ in the names that they take, and in what
-- `write_new_synced` leaves behind where it fails.
def stageArtifacts (accepts : String → Bool)
    (writeNewSynced : CaptureFile → List UInt8 → ExceptT String CaptureProgram Unit) (p : CaptureProcess)
    (staged : List CaptureFile) : ArtifactSet → ExceptT String CaptureProgram (List CaptureFile)
  | []                    => return staged
  | (name, bytes) :: rest => do
    if accepts name then
      let path := .stage p.pid p.stageNonce staged.length
      match ← attempt (writeNewSynced path bytes) with
      | .ok _       => stageArtifacts accepts writeNewSynced p (staged ++ [path]) rest
      | .error code =>
        cleanup staged
        throw code
    else
      cleanup staged
      throw "INTERNAL_ERROR"

end CaptureProgram
