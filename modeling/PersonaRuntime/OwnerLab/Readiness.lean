import PersonaRuntime.Domain.Readiness
import PersonaRuntime.Machine.Basic
import PersonaRuntime.Machine.Mutation
import PersonaRuntime.OwnerLab.Requests

inductive LabModalityState
  | notReady
  | preparing
  | ready
  | failed
deriving DecidableEq, Repr

structure LabModalityReadiness where
  text  : LabModalityState
  voice : LabModalityState
  video : LabModalityState
deriving DecidableEq, Repr

def mapState : ModalityReadiness → LabModalityState
  | .notReady  => .notReady
  | .preparing => .preparing
  | .ready     => .ready
  | .failed    => .failed

structure LabReadinessState where
  readiness  : Option PersonaReadiness
  voiceJob   : Option PreparationJob
  videoJob   : Option PreparationJob
  jobCounter : Nat
deriving DecidableEq

namespace LabReadinessState

def default : LabReadinessState where
  readiness  := none
  voiceJob   := none
  videoJob   := none
  jobCounter := 0

def snapshot (s : LabReadinessState) : LabModalityReadiness :=
  match s.readiness with
  | none           => ⟨.notReady, .notReady, .notReady⟩
  | some readiness => ⟨mapState readiness.text, mapState readiness.voice, mapState readiness.video⟩

def job (s : LabReadinessState) : Modality → Option PreparationJob
  | .text  => none
  | .voice => s.voiceJob
  | .video => s.videoJob

def setJob (s : LabReadinessState) (job : Option PreparationJob) : Modality → LabReadinessState
  | .text  => s
  | .voice => { s with voiceJob := job }
  | .video => { s with videoJob := job }

abbrev Update := EStateM LabError LabReadinessState

-- `self.readiness.as_mut().ok_or(InvalidState)?.method().map_err(|_| Internal)?`
def onReadiness {α : Type} (x : PersonaReadiness.Update α) : Update α :=
  fun s =>
    match s.readiness with
    | none           => .error .invalidState s
    | some readiness =>
      match x.run readiness with
      | .ok a readiness    => .ok a { s with readiness := some readiness }
      | .error _ readiness => .error .internal { s with readiness := some readiness }

-- `job.method().map_err(|_| Internal)?` on a job that has been taken out of its slot.
def onJob (job : PreparationJob) (x : PreparationJob.Update Unit) : Update PreparationJob :=
  fun s =>
    match x.run job with
    | .ok _ job  => .ok job s
    | .error _ _ => .error .internal s

def takeJob (m : Modality) : Update (Option PreparationJob) := do
  let job := (← get).job m
  modify (·.setJob none m)
  return job

-- Never called for text.
def putJob (m : Modality) (job : PreparationJob) : Update Unit :=
  modify (·.setJob (some job) m)

def resetForProfile (profile : PersonaProfile) : Update Unit := do
  let readiness ← .check (fun _ => .internal) (PersonaReadiness.fromReviewedProfile profile)
  modify fun s => { s with readiness := some readiness }
  modify fun s => { s with voiceJob := none }
  modify fun s => { s with videoJob := none }

def label : Modality → Option String
  | .voice => some "voice"
  | .video => some "video"
  | .text  => none

def jobId (label : String) (counter : Nat) : Except IdError PreparationJobId :=
  CanonicalId.new s!"owner-lab-{label}-{counter}"

-- The rest of `begin_one` once there is a readiness that allows for another attempt.
def attempt (m : Modality) : Update Unit := do
  let counter ← .check (fun _ => .internal) ((checkedAdd (← get).jobCounter 1).elim (.error ()) .ok)
  modify fun s => { s with jobCounter := counter }
  let label ← .check (fun _ => .invalidInput) ((label m).elim (.error ()) .ok)
  let id ← .check (fun _ => .internal) (jobId label counter)
  let job ← onReadiness (PersonaReadiness.startPreparation id m)
  let job ← onJob job PreparationJob.begin
  onReadiness (PersonaReadiness.applyJob job)
  putJob m job

def beginOne (m : Modality) : Update Unit := do
  match (← get).readiness with
  | none           => return
  | some readiness =>
    if readiness.modality m = .ready ∨ readiness.modality m = .preparing then
      return
    attempt m

def beginMediaPreparation : Update Unit := do
  if (← get).readiness.isNone then
    return
  beginOne .voice
  beginOne .video

def beginValidationOne (m : Modality) : Update Unit := do
  match ← takeJob m with
  | none     => return
  | some job =>
    if job.state ≠ .validating then
      let job ← onJob job PreparationJob.beginValidation
      onReadiness (PersonaReadiness.applyJob job)
      putJob m job
    else
      putJob m job

def beginMediaValidation : Update Unit := do
  if (← get).readiness.isNone then
    return
  beginValidationOne .voice
  beginValidationOne .video

-- `if job.method().is_ok() && let Some(readiness) = .. { let _ = readiness.apply_job(&job); }`
def settle (job : PreparationJob) (x : PreparationJob.Update Unit) : Update Unit :=
  modify fun s =>
    match x.run job with
    | .error _ _ => s
    | .ok _ job  => { s with readiness := s.readiness.map fun r => ((PersonaReadiness.applyJob job).run r).state }

def finishPending (m : Modality) : Update Unit := do
  match ← takeJob m with
  | none     => return
  | some job =>
    if job.state = .ready ∨ job.state = .failed ∨ job.state = .cancelled then
      return
    settle job PreparationJob.fail

def failPending : Update Unit := do
  finishPending .voice
  finishPending .video

def cancelOne (m : Modality) : Update Unit := do
  match ← takeJob m with
  | none     => return
  | some job => settle job PreparationJob.cancel

def cancelPending : Update Unit := do
  cancelOne .voice
  cancelOne .video

def markReady (m : Modality) : Update Unit := do
  if m = .text then
    throw .invalidInput
  match (← get).readiness with
  | none           => return
  | some readiness =>
    if readiness.modality m = .ready then
      return
    match ← takeJob m with
    | none     => throw .invalidState
    | some job =>
      if job.state ≠ .validating then
        putJob m job
        throw .invalidState
      let job ← onJob job PreparationJob.markReady
      onReadiness (PersonaReadiness.applyJob job)

end LabReadinessState

inductive ReadinessCall
  | resetForProfile (profile : { p : PersonaProfile // p.captureState = .reviewed })
  | beginMediaPreparation
  | beginMediaValidation
  | markReady (modality : Modality)
  | failPending
  | cancelPending

def ReadinessCall.call : ReadinessCall → LabReadinessState.Update Unit
  | resetForProfile profile => LabReadinessState.resetForProfile profile.val
  | beginMediaPreparation   => LabReadinessState.beginMediaPreparation
  | beginMediaValidation    => LabReadinessState.beginMediaValidation
  | markReady m             => LabReadinessState.markReady m
  | failPending             => LabReadinessState.failPending
  | cancelPending           => LabReadinessState.cancelPending

structure ReadinessStep where
  before : LabReadinessState
  call   : ReadinessCall
  result : Except LabError Unit
  after  : LabReadinessState

def LabReadinessState.machine : Machine LabReadinessState ReadinessCall ReadinessStep where
  init s := s = .default
  step s c :=
    let r := c.call.run s
    some (r.state, [⟨s, c, r.toExcept, r.state⟩])
