import PersonaRuntime.Domain.Profile

abbrev PreparationJobId := CanonicalId

inductive Modality
  | text
  | voice
  | video
deriving DecidableEq, Repr

inductive ModalityReadiness
  | notReady
  | preparing
  | ready
  | failed
deriving DecidableEq, Repr

inductive PreparationJobState
  | queued
  | preparing
  | validating
  | ready
  | failed
  | cancelled
deriving DecidableEq, Repr

structure PreparationJob where
  id             : PreparationJobId
  personaId      : PersonaId
  personaVersion : PersonaVersion
  modality       : Modality
  state          : PreparationJobState
deriving DecidableEq

structure PreparationTransitionError where
  «from» : PreparationJobState
  «to»   : PreparationJobState
deriving DecidableEq, Repr

namespace PreparationJob

abbrev Update := EStateM PreparationTransitionError PreparationJob

def valid : PreparationJobState → PreparationJobState → Bool
  | .queued, .preparing | .queued, .cancelled                                   => true
  | .preparing, .validating | .preparing, .failed | .preparing, .cancelled      => true
  | .validating, .ready | .validating, .failed | .validating, .cancelled        => true
  | _, _                                                                        => false

def transition (next : PreparationJobState) : Update Unit := do
  let job ← get
  if valid job.state next then
    set { job with state := next }
  else
    throw ⟨job.state, next⟩

def begin : Update Unit :=
  transition .preparing

def beginValidation : Update Unit :=
  transition .validating

def markReady : Update Unit :=
  transition .ready

def fail : Update Unit :=
  transition .failed

def cancel : Update Unit :=
  transition .cancelled

end PreparationJob

inductive ReadinessError
  | profileNotReviewed
  | foreignPersona
  | stalePersonaVersion
  | textPreparationNotRequired
  | modalityAlreadyReady
  | preparationAlreadyActive
  | stalePreparationJob
deriving DecidableEq, Repr

structure PersonaReadiness where
  personaId      : PersonaId
  personaVersion : PersonaVersion
  text           : ModalityReadiness
  voice          : ModalityReadiness
  video          : ModalityReadiness
  activeVoiceJob : Option PreparationJobId
  activeVideoJob : Option PreparationJobId
deriving DecidableEq

namespace PersonaReadiness

def fromReviewedProfile (profile : PersonaProfile) : Except ReadinessError PersonaReadiness :=
  if profile.captureState ≠ .reviewed then
    .error .profileNotReviewed
  else
    .ok {
      personaId      := profile.identity.id
      personaVersion := profile.identity.version
      text           := .ready
      voice          := .notReady
      video          := .notReady
      activeVoiceJob := none
      activeVideoJob := none }

def modality (r : PersonaReadiness) : Modality → ModalityReadiness
  | .text  => r.text
  | .voice => r.voice
  | .video => r.video

def activeJob (r : PersonaReadiness) : Modality → Option PreparationJobId
  | .text  => none
  | .voice => r.activeVoiceJob
  | .video => r.activeVideoJob

def setActiveJob (r : PersonaReadiness) (id : Option PreparationJobId) : Modality → PersonaReadiness
  | .text  => r
  | .voice => { r with activeVoiceJob := id }
  | .video => { r with activeVideoJob := id }

def setModality (r : PersonaReadiness) (readiness : ModalityReadiness) : Modality → PersonaReadiness
  | .text  => { r with text := readiness }
  | .voice => { r with voice := readiness }
  | .video => { r with video := readiness }

-- `PreparationJob::bound`
def bound (r : PersonaReadiness) (id : PreparationJobId) (m : Modality) : PreparationJob where
  id             := id
  personaId      := r.personaId
  personaVersion := r.personaVersion
  modality       := m
  state          := .queued

abbrev Update := EStateM ReadinessError PersonaReadiness

def startPreparation (id : PreparationJobId) (m : Modality) : Update PreparationJob := do
  if m = .text then
    throw .textPreparationNotRequired
  if (← get).modality m = .ready then
    throw .modalityAlreadyReady
  if ((← get).activeJob m).isSome then
    throw .preparationAlreadyActive
  modify (·.setActiveJob (some id) m)
  modify (·.setModality .preparing m)
  return (← get).bound id m

-- What a job in this state is evidence of, and whether it is the last of the job.
def evidence : PreparationJobState → ModalityReadiness × Bool
  | .queued | .preparing | .validating => (.preparing, false)
  | .ready                             => (.ready, true)
  | .failed                            => (.failed, true)
  | .cancelled                         => (.notReady, true)

def applyJob (job : PreparationJob) : Update Unit := do
  if (← get).personaId ≠ job.personaId then
    throw .foreignPersona
  if (← get).personaVersion ≠ job.personaVersion then
    throw .stalePersonaVersion
  if job.modality = .text then
    throw .textPreparationNotRequired
  if (← get).activeJob job.modality ≠ some job.id then
    throw .stalePreparationJob
  let (next, terminal) := evidence job.state
  modify (·.setModality next job.modality)
  if terminal then
    modify (·.setActiveJob none job.modality)

end PersonaReadiness
