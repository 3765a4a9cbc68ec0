import PersonaRuntime.OwnerLab.OwnerContext
import PersonaRuntime.OwnerLab.Requests

-- An attempt to stage a file under a random name.
inductive StagingAttempt
  | opened
  | alreadyExists
  | noName
  | failed
deriving DecidableEq, Repr

-- What the primitives of the file system answer during a `commit_raw`. The directory is only synced
-- on Unix, and elsewhere that is an answer that does not fail.
structure CommitAnswers where
  createDirAll  : Bool
  attempt       : Nat → StagingAttempt
  writeAll      : Bool
  syncAll       : Bool
  rename        : Bool
  syncDirectory : Bool

namespace CommitAnswers

def stagingAttempts : Nat :=
  16

-- The loop over the attempts that are left.
def stage (attempt : Nat → StagingAttempt) : Nat → Except CommitFailure Unit
  | 0     => .error .stagingExhausted
  | n + 1 =>
    match attempt (stagingAttempts - (n + 1)) with
    | .opened        => .ok ()
    | .alreadyExists => stage attempt n
    | .noName        => .error .temporaryName
    | .failed        => .error .staging

-- A staged file that is not renamed is removed, or left behind if that fails too. Nothing reads it.
def commitRaw (a : CommitAnswers) : CommitOutcome :=
  if !a.createDirAll then
    .notReplaced .directoryCreation
  else
    match stage a.attempt stagingAttempts with
    | .error failure => .notReplaced failure
    | .ok _ =>
      if !a.writeAll then .notReplaced .write
      else if !a.syncAll then .notReplaced .sync
      else if !a.rename then .notReplaced .rename
      else if !a.syncDirectory then .notFlushed
      else .committed

end CommitAnswers

-- A call that meets no other call. `readable` says whether `read_raw` succeeds.
def OwnerProcess.correctOwnerClaimPersisted (s : OwnerProcess) (c : ClaimCorrection) (readable : Bool)
    (answers : CommitAnswers) : OwnerProcess × List OwnerCallResult :=
  let (started, results) := s.startCorrection c readable
  match started.correction with
  | none            => (started, results)
  | some correction => started.commitCorrection correction answers.commitRaw
