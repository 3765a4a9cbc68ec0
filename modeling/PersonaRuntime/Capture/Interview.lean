import PersonaRuntime.Domain.ProfileCalls

inductive PlanError
  | emptyPlan
  | blankPrompt
  | duplicateClaimId
deriving DecidableEq, Repr

structure InterviewQuestion where
  claimId : ClaimId
  prompt  : String
  kind    : ClaimKind
  visible : isBlank prompt = false

namespace InterviewQuestion

def new (claimId : ClaimId) (prompt : String) (kind : ClaimKind) : Except PlanError InterviewQuestion :=
  if h : isBlank prompt = false then .ok ⟨claimId, prompt, kind, h⟩ else .error .blankPrompt

-- The claim that `submit_answer` captures for a question.
def answered (q : InterviewQuestion) (answer : String) : OwnerClaim where
  statement    := answer
  kind         := q.kind
  source       := .owner
  verification := .unverified
  derivation   := .direct

end InterviewQuestion

structure InterviewPlan where
  questions : List InterviewQuestion
  nonempty  : questions ≠ []
  ids       : (questions.map (·.claimId)).Nodup

namespace InterviewPlan

def new (questions : List InterviewQuestion) : Except PlanError InterviewPlan :=
  if hn : questions = [] then .error .emptyPlan
  else if hd : (questions.map (·.claimId)).Nodup then .ok ⟨questions, hn, hd⟩
  else .error .duplicateClaimId

def questionCount (plan : InterviewPlan) : Nat :=
  plan.questions.length

end InterviewPlan

inductive CaptureError
  | unsupportedPersonaMode
  | profileNotCleanDraft
  | blankAnswer
  | interviewAlreadyComplete
  | interviewIncomplete
  | profile (e : ProfileError)
deriving DecidableEq, Repr

structure GuidedOwnerInterview where
  profile      : PersonaProfile
  plan         : InterviewPlan
  nextQuestion : Nat

namespace GuidedOwnerInterview

def new (profile : PersonaProfile) (plan : InterviewPlan) : Except CaptureError GuidedOwnerInterview :=
  if !profile.identity.isRt0Supported then
    .error .unsupportedPersonaMode
  else if profile.captureState ≠ .draft ∨ !profile.claims.isEmpty then
    .error .profileNotCleanDraft
  else
    .ok { profile, plan, nextQuestion := 0 }

def currentQuestion (i : GuidedOwnerInterview) : Option InterviewQuestion :=
  i.plan.questions[i.nextQuestion]?

abbrev Update := EStateM CaptureError GuidedOwnerInterview

namespace Update

-- `self.profile.method()?`
def onProfile (x : PersonaProfile.Update Unit) : Update Unit :=
  .zoom profile (fun i profile => { i with profile }) .profile x

def submitAnswer (answer : String) : Update Unit := do
  if isBlank answer then
    throw .blankAnswer
  match (← get).currentQuestion with
  | none          => throw .interviewAlreadyComplete
  | some question =>
    let record ← .check .profile (OwnerClaimRecord.capture question.claimId (question.answered answer))
    onProfile (.addCapturedClaim record)
    modify fun i => { i with nextQuestion := i.nextQuestion + 1 }

def finishCapture : Update Unit := do
  if (← get).nextQuestion ≠ (← get).plan.questionCount then
    throw .interviewIncomplete
  onProfile .markCaptureComplete

def approveClaim (id : ClaimId) : Update Unit :=
  onProfile (.approveClaim id)

def correctClaim (id : ClaimId) (statement : String) (kind : ClaimKind) : Update Unit :=
  onProfile (.correctClaim id statement kind)

def completeInitialReview : Update Unit :=
  onProfile .approveInitialReview

end Update

end GuidedOwnerInterview

inductive InterviewCall
  | submitAnswer (answer : String)
  | finishCapture
  | approveClaim (id : ClaimId)
  | correctClaim (id : ClaimId) (statement : String) (kind : ClaimKind)
  | completeInitialReview

open GuidedOwnerInterview in
def InterviewCall.call : InterviewCall → Update Unit
  | submitAnswer answer            => Update.submitAnswer answer
  | finishCapture                  => Update.finishCapture
  | approveClaim id                => Update.approveClaim id
  | correctClaim id statement kind => Update.correctClaim id statement kind
  | completeInitialReview          => Update.completeInitialReview

-- One interview from its start, with every call on it and what it returned.
def GuidedOwnerInterview.calls : Machine GuidedOwnerInterview InterviewCall
    (InterviewCall × Except CaptureError Unit) where
  init i := ∃ profile plan, new profile plan = .ok i
  step i c := let result := c.call.run i; some (result.state, [(c, result.toExcept)])

-- The answers that were taken, in their order.
def GuidedOwnerInterview.answers (t : List (InterviewCall × Except CaptureError Unit)) : List String :=
  t.filterMap fun
    | (.submitAnswer answer, .ok _) => some answer
    | _                             => none
