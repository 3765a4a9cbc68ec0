import PersonaRuntime.Capture.Interview

structure Rt0OwnerCapture where
  interview : GuidedOwnerInterview

inductive OwnerCaptureError
  | plan (e : PlanError)
  | capture (e : CaptureError)
  | invalidStaticPlan
  | versionUnavailable
deriving DecidableEq, Repr

structure OwnerCaptureQuestion where
  claimId : String
  prompt  : String
  kind    : String
deriving DecidableEq, Repr

structure OwnerCaptureClaim where
  claimId       : String
  statement     : String
  kind          : String
  verification  : String
  revision      : Nat
  ownerReviewed : Bool
deriving DecidableEq, Repr

structure OwnerCaptureSnapshot where
  personaId       : String
  personaVersion  : Nat
  captureState    : String
  answeredCount   : Nat
  questionCount   : Nat
  currentQuestion : Option OwnerCaptureQuestion
  claims          : List OwnerCaptureClaim
deriving DecidableEq, Repr

def staticClaimId (value : String) : Except OwnerCaptureError ClaimId :=
  (CanonicalId.new value).mapError fun _ => .invalidStaticPlan

def rt0InterviewQuestion (claimId : String) (prompt : String) (kind : ClaimKind) :
    Except OwnerCaptureError InterviewQuestion := do
  (InterviewQuestion.new (← staticClaimId claimId) prompt kind).mapError .plan

def rt0InterviewPlan : Except OwnerCaptureError InterviewPlan := do
  let questions := [
    ← rt0InterviewQuestion "identity-self-description"
      "Как вы обычно представляете себя в двух-трёх предложениях?" .factual,
    ← rt0InterviewQuestion "preference-communication-style"
      "Как вам лучше отвечать людям: кратко или подробно, формально или неформально?" .preference,
    ← rt0InterviewQuestion "opinion-core-principle"
      "Какой принцип или взгляд особенно важно корректно передавать от вашего имени?" .opinion]
  (InterviewPlan.new questions).mapError .plan

def claimKindName : ClaimKind → String
  | .factual       => "factual"
  | .opinion       => "opinion"
  | .preference    => "preference"
  | .prediction    => "prediction"
  | .valueJudgment => "value_judgment"

def verificationName : VerificationState → String
  | .unverified     => "unverified"
  | .corroborated   => "corroborated"
  | .ownerVerified  => "owner_verified"
  | .sourceVerified => "source_verified"
  | .disputed       => "disputed"

def captureStateName : PersonaCaptureState → String
  | .draft    => "draft"
  | .captured => "captured"
  | .reviewed => "reviewed"

namespace Rt0OwnerCapture

def new (personaId : PersonaId) : Except OwnerCaptureError Rt0OwnerCapture :=
  match PersonaVersion.new 1 with
  | none         => .error .versionUnavailable
  | some version => do
    let profile := PersonaProfile.new ⟨personaId, version, .digitalTwin⟩
    let interview ← (GuidedOwnerInterview.new profile (← rt0InterviewPlan)).mapError .capture
    return { interview }

def snapshot (c : Rt0OwnerCapture) : OwnerCaptureSnapshot where
  personaId       := c.interview.profile.identity.id.asStr
  personaVersion  := c.interview.profile.identity.version.get
  captureState    := captureStateName c.interview.profile.captureState
  answeredCount   := c.interview.nextQuestion
  questionCount   := c.interview.plan.questionCount
  currentQuestion := c.interview.currentQuestion.map fun question => {
    claimId := question.claimId.asStr
    prompt  := question.prompt
    kind    := claimKindName question.kind }
  claims          := c.interview.profile.claims.map fun record => {
    claimId       := record.id.asStr
    statement     := record.current.claim.statement
    kind          := claimKindName record.current.claim.kind
    verification  := verificationName record.current.claim.verification
    revision      := record.current.revision.get
    ownerReviewed := record.isOwnerReviewed }

-- Every method of the capture is the method of the interview under `?`.
def call (c : InterviewCall) : EStateM OwnerCaptureError Rt0OwnerCapture Unit :=
  .zoom interview (fun _ interview => { interview }) .capture c.call

-- One capture from its start, with every call on it and what it returned.
def calls : Machine Rt0OwnerCapture InterviewCall (InterviewCall × Except OwnerCaptureError Unit) where
  init c := ∃ personaId, new personaId = .ok c
  step s c := let result := (call c).run s; some (result.state, [(c, result.toExcept)])

end Rt0OwnerCapture
