import PersonaRuntime.Capture.Interview
import PersonaRuntime.Domain.Theorems.Profile

theorem List.zipWith_snoc {α β γ : Type} {f : α → β → γ} {as : List α} {bs : List β} {a : α} {b : β}
    (h : as[bs.length]? = some a) : zipWith f as (bs ++ [b]) = zipWith f as bs ++ [f a b] := by
  induction bs generalizing as
  case nil =>
    cases as
    case nil       => simp at h
    case cons x as => obtain rfl : x = a := by simpa using h
                      simp
  case cons b' bs hi =>
    cases as
    case nil       => simp at h
    case cons x as => simpa using hi (by simpa using h)

namespace OwnerClaimRecord

variable {r r' : OwnerClaimRecord}

theorem Revised.head?_retainedRevisions (h : r.Revised r') :
    r'.retainedRevisions.head? = r.retainedRevisions.head? := by
  have ⟨l, hl⟩ := h.prefix_retainedRevisions
  rw [← hl]
  exact List.head?_append_of_ne_nil _ (by simp [retainedRevisions])

-- A record is reviewed from its first revision on, and not before.
def ReviewedSinceRevised (r : OwnerClaimRecord) : Prop :=
  r.isOwnerReviewed = true ↔ r.previousRevisions ≠ []

theorem Revised.reviewedSinceRevised (h : r.Revised r') (hr : r.ReviewedSinceRevised) :
    r'.ReviewedSinceRevised := by
  refine ⟨fun _ => ?_, fun _ => h.reviewed⟩
  obtain rfl | ⟨_, _, _, rfl⟩ := h.history
  case inl => exact hr.mp h.reviewed
  case inr => simp [push, retainedRevisions]

end OwnerClaimRecord

theorem PersonaProfile.Edited.map_eq {p p' : PersonaProfile} {id : ClaimId} {α : Type}
    {f : OwnerClaimRecord → α} (hf : ∀ {r r'}, r.Revised r' → f r' = f r) (h : p.Edited id p') :
    p'.claims.map f = p.claims.map f := by
  obtain ⟨before, r, r', after, hp, _, _, hv, hp'⟩ := h.claims
  simp [hp, hp', hf hv]

namespace GuidedOwnerInterview

variable {i i' : GuidedOwnerInterview} {c : InterviewCall} {q : InterviewQuestion} {text : String}
variable {t : List (InterviewCall × Except CaptureError Unit)}

-- The record that an answer to a question becomes.
def captured (q : InterviewQuestion) (answer : String) : OwnerClaimRecord where
  id                := q.claimId
  previousRevisions := []
  current           := ⟨.initial, q.answered answer⟩

-- The interview after the current question was answered.
def answer (i : GuidedOwnerInterview) (q : InterviewQuestion) (answer : String) : GuidedOwnerInterview :=
  { i with
    profile      := { i.profile with claims := i.profile.claims ++ [captured q answer] }
    nextQuestion := i.nextQuestion + 1 }

theorem onProfile_run (f : PersonaProfile → Except ProfileError PersonaProfile)
    (i : GuidedOwnerInterview) :
    (Update.onProfile (.atomic f)).run i =
      match f i.profile with
      | .ok profile => .ok () { i with profile }
      | .error e    => .error (.profile e) i := by
  rw [Update.onProfile, EStateM.zoom_run, EStateM.atomic_run]
  cases f i.profile <;> rfl

theorem capture_answered (hb : isBlank text = false) :
    OwnerClaimRecord.capture q.claimId (q.answered text) =
      if text.length > maxOwnerClaimChars then .error .claimStatementTooLong
      else .ok (captured q text) := by
  by_cases hl : text.length > maxOwnerClaimChars
  all_goals simp [OwnerClaimRecord.capture, validateCapturedClaim, InterviewQuestion.answered, hb, hl,
    captured, Except.error_bind, Except.ok_bind, pure, Except.pure]

-- What `submit_answer` comes to, error by error.
theorem submitAnswer_run (text : String) (i : GuidedOwnerInterview) :
    (Update.submitAnswer text).run i =
      if isBlank text then .error .blankAnswer i
      else match i.currentQuestion with
      | none   => .error .interviewAlreadyComplete i
      | some q =>
        if text.length > maxOwnerClaimChars then .error (.profile .claimStatementTooLong) i
        else match i.profile.addCapturedClaim (captured q text) with
        | .error e    => .error (.profile e) i
        | .ok profile => .ok () { i with profile, nextQuestion := i.nextQuestion + 1 } := by
  cases hb : isBlank text
  case true => simp [Update.submitAnswer, hb]
  case false =>
    cases hq : i.currentQuestion <;> simp only [Update.submitAnswer, hb, EStateM.run_bind,
      EStateM.run_get, Bool.false_eq_true, if_false, hq]
    case none => rfl
    case some q =>
      rw [capture_answered hb]
      by_cases hl : text.length > maxOwnerClaimChars
      case pos => simp [hl]
      case neg =>
        simp only [if_neg hl, EStateM.check_ok_run, PersonaProfile.Update.addCapturedClaim_eq,
          onProfile_run]
        cases i.profile.addCapturedClaim (captured q text) <;> rfl

theorem finishCapture_run (i : GuidedOwnerInterview) :
    Update.finishCapture.run i =
      if i.nextQuestion ≠ i.plan.questionCount then .error .interviewIncomplete i
      else match i.profile.markCaptureComplete with
      | .error e    => .error (.profile e) i
      | .ok profile => .ok () { i with profile } := by
  by_cases hn : i.nextQuestion = i.plan.questionCount
  case neg => simp [Update.finishCapture, hn]
  case pos =>
    simp only [Update.finishCapture, EStateM.run_bind, EStateM.run_get, hn, ne_eq, not_true_eq_false,
      if_false, PersonaProfile.Update.markCaptureComplete_eq, onProfile_run]
    cases i.profile.markCaptureComplete <;> rfl

-- Everything that a call can do to an interview.
inductive Move (i : GuidedOwnerInterview) : InterviewCall → GuidedOwnerInterview → Prop
  | answer {q : InterviewQuestion} {text : String} : (i.currentQuestion = some q) → (isBlank text = false) →
    (text.length ≤ maxOwnerClaimChars) → (i.profile.captureState = .draft) →
    (q.claimId ∉ i.profile.claims.map (·.id)) → Move i (.submitAnswer text) (i.answer q text)
  | finish : (i.nextQuestion = i.plan.questionCount) → (i.profile.captureState = .draft) →
    (i.profile.claims ≠ []) →
    Move i .finishCapture { i with profile := { i.profile with captureState := .captured } }
  | approve {id profile} : (i.profile.Edited id profile) → Move i (.approveClaim id) { i with profile }
  | correct {id statement kind profile} : (i.profile.Edited id profile) →
    Move i (.correctClaim id statement kind) { i with profile }
  | complete {version} : (i.profile.captureState = .captured) →
    (∀ r ∈ i.profile.claims, r.isOwnerReviewed = true) →
    (i.profile.identity.version.next = .ok version) →
    Move i .completeInitialReview { i with profile := { i.profile with
      identity     := { i.profile.identity with version }
      captureState := .reviewed } }

theorem submitAnswer_move (h : (Update.submitAnswer text).run i = .ok () i') :
    i.Move (.submitAnswer text) i' := by
  rw [submitAnswer_run] at h
  cases hb : isBlank text <;> simp only [hb, if_true, Bool.false_eq_true, if_false] at h
  case true => cases h
  case false =>
    cases hq : i.currentQuestion <;> simp only [hq] at h
    case none => cases h
    case some q =>
      split at h
      case isTrue => cases h
      case isFalse hl =>
        cases ha : i.profile.addCapturedClaim (captured q text) <;> simp only [ha] at h <;> cases h
        simp only [PersonaProfile.addCapturedClaim, Except.ite_error_eq_ok_iff, Except.ok.injEq] at ha
        obtain ⟨hs, hd, rfl⟩ := ha
        have hd : (captured q text).id ∉ i.profile.claims.map (·.id) := by simpa using hd
        exact .answer hq hb (Nat.le_of_not_gt hl) (not_not.mp hs) hd

theorem finishCapture_move (h : Update.finishCapture.run i = .ok () i') : i.Move .finishCapture i' := by
  rw [finishCapture_run] at h
  split at h
  case isTrue => cases h
  case isFalse hn =>
    cases hm : i.profile.markCaptureComplete <;> simp only [hm] at h <;> cases h
    simp only [PersonaProfile.markCaptureComplete, Except.ite_error_eq_ok_iff, Except.ok.injEq] at hm
    obtain ⟨hs, hc, rfl⟩ := hm
    exact .finish (not_not.mp hn) (not_not.mp hs) (by simpa using hc)

theorem call_move (h : c.call.run i = .ok () i') : i.Move c i' := by
  cases c <;> simp only [InterviewCall.call, Update.approveClaim, Update.correctClaim,
    Update.completeInitialReview, PersonaProfile.Update.approveClaim_eq,
    PersonaProfile.Update.correctClaim_eq, PersonaProfile.Update.approveInitialReview_eq,
    onProfile_run] at h
  case submitAnswer text => exact submitAnswer_move h
  case finishCapture     => exact finishCapture_move h
  case approveClaim id =>
    cases ha : i.profile.approveClaim id <;> simp only [ha] at h <;> cases h
    exact .approve (PersonaProfile.approveClaim_edited ha)
  case correctClaim id statement kind =>
    cases hc : i.profile.correctClaim id statement kind <;> simp only [hc] at h <;> cases h
    exact .correct (PersonaProfile.correctClaim_edited hc)
  case completeInitialReview =>
    cases hr : i.profile.approveInitialReview <;> simp only [hr] at h <;> cases h
    simp only [PersonaProfile.approveInitialReview, Except.ite_error_eq_ok_iff] at hr
    obtain ⟨hs, ha, hr⟩ := hr
    cases hv : i.profile.identity.version.next <;> simp only [hv] at hr <;> cases hr
    exact .complete (not_not.mp hs) (by simpa using ha) hv

theorem call_error {e : CaptureError} (h : c.call.run i = .error e i') : i' = i := by
  cases c <;> simp only [InterviewCall.call, Update.approveClaim, Update.correctClaim,
    Update.completeInitialReview, PersonaProfile.Update.approveClaim_eq,
    PersonaProfile.Update.correctClaim_eq, PersonaProfile.Update.approveInitialReview_eq,
    onProfile_run, submitAnswer_run, finishCapture_run] at h
  all_goals repeat' split at h
  all_goals cases h
  all_goals rfl

-- A call does what `Move` says, or it fails and changes nothing.
theorem step_move {o : List (InterviewCall × Except CaptureError Unit)}
    (h : calls.step i c = some (i', o)) :
    (o = [(c, .ok ())] ∧ i.Move c i') ∨ (∃ e, o = [(c, .error e)]) ∧ i' = i := by
  obtain ⟨rfl, rfl⟩ := by simpa [calls] using h
  cases hc : c.call.run i
  case ok    => exact .inl ⟨rfl, call_move hc⟩
  case error => exact .inr ⟨⟨_, rfl⟩, call_error hc⟩

@[simp]
theorem answers_submitAnswer (u : Unit) :
    answers (t ++ [(.submitAnswer text, .ok u)]) = answers t ++ [text] := by
  simp [answers]

theorem answers_snoc {r : Except CaptureError Unit} (h : ∀ text, c ≠ .submitAnswer text) :
    answers (t ++ [(c, r)]) = answers t := by
  cases c
  case submitAnswer text => exact absurd rfl (h text)
  all_goals simp [answers]

@[simp]
theorem answers_error {e : CaptureError} : answers (t ++ [(c, .error e)]) = answers t := by
  cases c <;> simp [answers]

-- What holds of an interview and of the answers that it took.
structure Guided (answers : List String) (i : GuidedOwnerInterview) : Prop where
  mode     : i.profile.identity.mode = .digitalTwin
  count    : i.nextQuestion = answers.length
  bounded  : answers.length ≤ i.plan.questionCount
  accepted : ∀ text ∈ answers, isBlank text = false ∧ text.length ≤ maxOwnerClaimChars
  records  : i.profile.claims.map (fun r => (r.id, r.retainedRevisions.head?)) =
    i.plan.questions.zipWith (fun q text => (q.claimId, some ⟨.initial, q.answered text⟩)) answers
  draft    : i.profile.captureState = .draft → ∀ r ∈ i.profile.claims, r.previousRevisions = []
  complete : i.profile.captureState ≠ .draft → i.nextQuestion = i.plan.questionCount
  revised  : ∀ r ∈ i.profile.claims, r.ReviewedSinceRevised
  reviewed : i.profile.captureState = .reviewed → ∀ r ∈ i.profile.claims, r.isOwnerReviewed = true

theorem new_guided {profile : PersonaProfile} {plan : InterviewPlan} (h : new profile plan = .ok i) :
    Guided [] i := by
  simp only [new, Except.ite_error_eq_ok_iff, Except.ok.injEq] at h
  obtain ⟨hm, hc, rfl⟩ := h
  obtain ⟨hs, hc⟩ : profile.captureState = .draft ∧ profile.claims = [] := by simpa using hc
  have hm : profile.identity.mode = .digitalTwin := by simpa [PersonaIdentity.isRt0Supported] using hm
  exact ⟨hm, rfl, Nat.zero_le _, by simp, by simp [hc], by simp [hc], by simp [hs], by simp [hc], by simp [hc]⟩

variable {as : List String}

theorem Guided.answer (g : Guided as i) (hq : i.currentQuestion = some q) (hb : isBlank text = false)
    (hl : text.length ≤ maxOwnerClaimChars) (hs : i.profile.captureState = .draft) :
    Guided (as ++ [text]) (i.answer q text) := by
  have hq : i.plan.questions[as.length]? = some q := g.count ▸ hq
  refine ⟨g.mode, by simp [GuidedOwnerInterview.answer, g.count], ?bounded, ?accepted, ?records, ?draft,
    by simp [GuidedOwnerInterview.answer, hs], ?revised, by simp [GuidedOwnerInterview.answer, hs]⟩
  case bounded =>
    have hn := (List.getElem?_eq_some_iff.mp hq).1
    rw [List.length_append]
    exact hn
  case accepted =>
    intro a ha
    obtain ha | rfl : a ∈ as ∨ a = text := by simpa using ha
    · exact g.accepted a ha
    · exact ⟨hb, hl⟩
  case records =>
    simp only [GuidedOwnerInterview.answer, List.map_append, List.map_cons, List.map_nil, g.records]
    exact (List.zipWith_snoc hq).symm
  case draft =>
    intro _ r hr
    obtain hr | rfl : r ∈ i.profile.claims ∨ r = captured q text := by
      simpa [GuidedOwnerInterview.answer] using hr
    · exact g.draft hs r hr
    · rfl
  case revised =>
    intro r hr
    obtain hr | rfl : r ∈ i.profile.claims ∨ r = captured q text := by
      simpa [GuidedOwnerInterview.answer] using hr
    · exact g.revised r hr
    · simp [captured, OwnerClaimRecord.ReviewedSinceRevised, OwnerClaimRecord.isOwnerReviewed,
        InterviewQuestion.answered]

theorem Guided.edit {id : ClaimId} {profile : PersonaProfile} (g : Guided as i)
    (h : i.profile.Edited id profile) : Guided as { i with profile } := by
  have hs : i.profile.captureState ≠ .draft := by
    obtain ⟨hs, _⟩ | ⟨hs, _⟩ := h.version <;> simp [hs]
  refine ⟨h.identity.right.trans g.mode, g.count, g.bounded, g.accepted, ?records, ?draft,
    fun _ => g.complete hs, ?revised, ?reviewed⟩
  case records =>
    refine (h.map_eq fun hv => ?_).trans g.records
    rw [hv.id, hv.head?_retainedRevisions]
  case draft => exact fun hd => absurd (h.captureState ▸ hd) hs
  case revised =>
    intro x hx
    obtain hx | ⟨r, hr, hv⟩ := h.mem_claims hx
    · exact g.revised x hx
    · exact hv.reviewedSinceRevised (g.revised r hr)
  case reviewed =>
    intro hr x hx
    obtain hx | ⟨_, _, hv⟩ := h.mem_claims hx
    · exact g.reviewed (h.captureState ▸ hr) x hx
    · exact hv.reviewed

theorem Move.guided (m : i.Move c i') (g : Guided (answers t) i) :
    Guided (answers (t ++ [(c, .ok ())])) i' := by
  cases m
  case answer q text hq hb hl hs hd => exact answers_submitAnswer () ▸ g.answer hq hb hl hs
  all_goals rw [answers_snoc (by simp)]
  case finish hn hs hc =>
    exact ⟨g.mode, g.count, g.bounded, g.accepted, g.records, by simp, fun _ => hn, g.revised, by simp⟩
  case approve h => exact g.edit h
  case correct h => exact g.edit h
  case complete hs ha hv =>
    exact ⟨g.mode, g.count, g.bounded, g.accepted, g.records, by simp,
      fun _ => g.complete (by simp [hs]), g.revised, fun _ => ha⟩

theorem Run.guided : (calls.Run t i) → Guided (answers t) i := by
  refine Machine.Run.invariant (P := fun t => Guided (answers t)) ?init ?step
  case init =>
    intro i h
    obtain ⟨profile, plan, h⟩ := h
    exact new_guided h
  case step =>
    intro t i c i' o g h
    obtain ⟨rfl, m⟩ | ⟨⟨e, rfl⟩, rfl⟩ := step_move h
    · exact m.guided g
    · rwa [answers_error]

-- An interview takes the answers to its questions in their order and keeps each as the first revision
-- of its claim, which is reviewed only by a revision after it.
theorem run_guided (r : calls.Run t i) : Guided (answers t) i :=
  Run.guided r

def exampleFirst : ClaimId :=
  ⟨"identity", by decide, by decide⟩

def exampleSecond : ClaimId :=
  ⟨"style", by decide, by decide⟩

def examplePlan : InterviewPlan where
  questions := [⟨exampleFirst, "Who are you?", .factual, by decide⟩,
    ⟨exampleSecond, "How do you answer?", .preference, by decide⟩]
  nonempty  := by decide
  ids       := by decide

def exampleStart : GuidedOwnerInterview :=
  ⟨.new ⟨exampleFirst, ⟨1, Nat.one_pos⟩, .digitalTwin⟩, examplePlan, 0⟩

theorem exampleStart_init : calls.init exampleStart :=
  ⟨.new ⟨exampleFirst, ⟨1, Nat.one_pos⟩, .digitalTwin⟩, examplePlan, rfl⟩

-- The owner answers the first question only at the second attempt, and corrects the answer to the second.
theorem exists_run_reviewed : ∃ t i, calls.Run t i ∧ answers t = ["engineer", "briefly"] ∧
    i.profile.captureState = .reviewed := by
  let reached (i : GuidedOwnerInterview) (t : List (InterviewCall × Except CaptureError Unit)) : Bool :=
    answers t = ["engineer", "briefly"] ∧ i.profile.captureState = .reviewed
  have h : (calls.replay exampleStart
      [.submitAnswer " ", .submitAnswer "engineer", .finishCapture, .submitAnswer "briefly",
        .submitAnswer "more", .finishCapture, .approveClaim exampleFirst, .completeInitialReview,
        .correctClaim exampleSecond "at length" .preference, .completeInitialReview]).any
      (fun r => reached r.1 r.2) = true := by
    decide +kernel
  obtain ⟨t, i, e, h⟩ := Machine.Steps.exists_of_replay_any (p := reached) _ h
  have h := of_decide_eq_true h
  exact ⟨t, i, ⟨exampleStart_init, e⟩, h.1, h.2⟩

theorem run_guided_reviewed : ∃ t i, calls.Run t i ∧ i.profile.captureState = .reviewed ∧
    Guided ["engineer", "briefly"] i := by
  obtain ⟨t, i, r, ha, hs⟩ := exists_run_reviewed
  exact ⟨t, i, r, hs, ha ▸ run_guided r⟩

-- The claims are those of the questions that were answered.
theorem Guided.ids (g : Guided as i) :
    i.profile.claims.map (·.id) = (i.plan.questions.take i.nextQuestion).map (·.claimId) := by
  have h := congrArg (List.map Prod.fst) g.records
  rw [List.map_map] at h
  refine h.trans ?_
  rw [List.map_zipWith, g.count]
  have hn := g.bounded
  simp only [InterviewPlan.questionCount] at hn
  clear h g
  generalize i.plan.questions = qs at hn
  induction as generalizing qs
  case nil => simp
  case cons a as hi =>
    cases qs
    case nil       => simp at hn
    case cons q qs => simpa using hi qs (by simpa using hn)

theorem Guided.nodup (g : Guided as i) : (i.profile.claims.map (·.id)).Nodup := by
  rw [g.ids, List.map_take]
  exact i.plan.ids.sublist (List.take_sublist _ _)

theorem Guided.mem_ids (g : Guided as i) (hs : i.profile.captureState ≠ .draft) (id : ClaimId) :
    id ∈ i.profile.claims.map (·.id) ↔ id ∈ i.plan.questions.map (·.claimId) := by
  rw [g.ids, g.complete hs, InterviewPlan.questionCount, List.take_length]

theorem Guided.not_mem_ids (g : Guided as i) (hq : i.currentQuestion = some q) :
    q.claimId ∉ i.profile.claims.map (·.id) := by
  intro h
  rw [g.ids, List.map_take] at h
  have ⟨hn, he⟩ := List.getElem?_eq_some_iff.mp hq
  have ⟨k, hk, he'⟩ := List.mem_take_iff_getElem.mp h
  have hk : k < i.nextQuestion := by omega
  have hd := List.pairwise_iff_getElem.mp i.plan.ids k i.nextQuestion (by simp; omega) (by simpa using hn) hk
  simp only [List.getElem_map] at hd he'
  exact hd (he'.trans (congrArg _ he.symm))

-- While questions are left the profile is a draft.
theorem Guided.draft_of_lt (g : Guided as i) (hn : i.nextQuestion < i.plan.questionCount) :
    i.profile.captureState = .draft := by
  by_contra hs
  exact absurd (g.complete hs) (Nat.ne_of_lt hn)

theorem Guided.claims_ne_nil (g : Guided as i) (hn : i.nextQuestion = i.plan.questionCount) :
    i.profile.claims ≠ [] := by
  intro hc
  have h := g.ids
  rw [hc, hn, InterviewPlan.questionCount, List.take_length] at h
  exact i.plan.nonempty (List.map_eq_nil_iff.mp h.symm)

-- A claim that was not revised is the answer as it was taken.
theorem Guided.current (g : Guided as i) {r : OwnerClaimRecord} (hr : r ∈ i.profile.claims)
    (hp : r.previousRevisions = []) : ∃ (q : InterviewQuestion) (text : String), r.current = ⟨.initial, q.answered text⟩ := by
  have hm : (r.id, some r.current) ∈ i.profile.claims.map fun r => (r.id, r.retainedRevisions.head?) := by
    refine List.mem_map.mpr ⟨r, hr, ?_⟩
    simp [OwnerClaimRecord.retainedRevisions, hp]
  rw [g.records, ← List.map_uncurry_zip_eq_zipWith] at hm
  obtain ⟨⟨q, text⟩, _, he⟩ := List.mem_map.mp hm
  exact ⟨q, text, (Option.some.inj (Prod.mk.inj he).2).symm⟩

-- No approval exhausts the revisions of a claim.
theorem Guided.approve (g : Guided as i) {r : OwnerClaimRecord} (hr : r ∈ i.profile.claims) :
    ∃ r', r.approve = .ok r' := by
  cases hv : r.isOwnerReviewed
  case true =>
    obtain ⟨⟨hs, hv⟩, hd⟩ := by simpa [OwnerClaimRecord.isOwnerReviewed] using hv
    exact ⟨r, by simp [OwnerClaimRecord.approve, hs, hv, hd]⟩
  case false =>
    have hp : r.previousRevisions = [] := by
      by_contra hp
      simp [(g.revised r hr).mpr hp] at hv
    obtain ⟨q, text, hc⟩ := g.current hr hp
    refine ⟨r.push ⟨⟨2, by decide⟩, ⟨text, q.kind, .owner, .ownerVerified, .direct⟩⟩, ?_⟩
    simp [OwnerClaimRecord.approve, OwnerClaimRecord.replaceCurrent, hc, InterviewQuestion.answered,
      ClaimRevision.next, ClaimRevision.initial, u64Max, Except.ok_bind, pure, Except.pure]

theorem onClaim_isOk {f : OwnerClaimRecord → Except ProfileError OwnerClaimRecord} {id : ClaimId}
    {rs : List OwnerClaimRecord} (hf : ∀ r ∈ rs, ∃ r', f r = .ok r') (hi : id ∈ rs.map (·.id)) :
    ∃ rs', PersonaProfile.onClaim id f rs = .ok rs' := by
  induction rs <;> simp only [PersonaProfile.onClaim]
  case nil => simp at hi
  case cons r rs ih =>
    split
    case isTrue =>
      obtain ⟨r', hr⟩ := hf r (by simp)
      exact ⟨r' :: rs, by rw [hr]; rfl⟩
    case isFalse hr =>
      have hi : id ∈ rs.map (·.id) := by simpa [Ne.symm hr] using hi
      obtain ⟨rs', hrs⟩ := ih (fun x hx => hf x (by simp [hx])) hi
      exact ⟨r :: rs', by rw [hrs]; rfl⟩

theorem onClaim_notFound {f : OwnerClaimRecord → Except ProfileError OwnerClaimRecord} {id : ClaimId}
    {rs : List OwnerClaimRecord} (hi : id ∉ rs.map (·.id)) :
    PersonaProfile.onClaim id f rs = .error .claimNotFound := by
  induction rs <;> simp only [PersonaProfile.onClaim]
  case cons r rs ih =>
    obtain ⟨hr, hi⟩ : ¬id = r.id ∧ id ∉ rs.map (·.id) := by simpa [not_or] using hi
    rw [if_neg (Ne.symm hr), ih hi]
    rfl

-- What the calls on an interview return. Neither a claim that exists nor a profile that left its
-- draft stops an answer, and no approval of a claim of the plan fails.
structure Results (i : GuidedOwnerInterview) : Prop where
  submitAnswer  : ∀ text, (Update.submitAnswer text).run i =
    if isBlank text then .error .blankAnswer i
    else match i.currentQuestion with
    | none   => .error .interviewAlreadyComplete i
    | some q =>
      if text.length > maxOwnerClaimChars then .error (.profile .claimStatementTooLong) i
      else .ok () (i.answer q text)
  finishCapture : Update.finishCapture.run i =
    if i.nextQuestion ≠ i.plan.questionCount then .error .interviewIncomplete i
    else if i.profile.captureState ≠ .draft then .error (.profile .invalidCaptureState) i
    else .ok () { i with profile := { i.profile with captureState := .captured } }
  approveClaim  : ∀ id, (Update.approveClaim id).run i =
    if i.profile.captureState ≠ .captured then .error (.profile .invalidCaptureState) i
    else if id ∉ i.plan.questions.map (·.claimId) then .error (.profile .claimNotFound) i
    else .ok () ((Update.approveClaim id).run i).state

theorem Guided.results (g : Guided as i) : i.Results where
  submitAnswer text := by
    rw [submitAnswer_run]
    cases hq : i.currentQuestion
    case none => rfl
    case some q =>
      have hs := g.draft_of_lt (List.getElem?_eq_some_iff.mp hq).1
      have hd : i.profile.claims.any (·.id = (captured q text).id) = false := by
        have hd : (captured q text).id ∉ i.profile.claims.map (·.id) := g.not_mem_ids hq
        simpa using hd
      have ha : i.profile.addCapturedClaim (captured q text) =
          .ok { i.profile with claims := i.profile.claims ++ [captured q text] } := by
        rw [PersonaProfile.addCapturedClaim, if_neg (not_not.mpr hs), if_neg (by simp [hd])]
      simp only [ha]
      rfl
  finishCapture := by
    rw [finishCapture_run]
    split
    case isTrue => rfl
    case isFalse hn =>
      have hc := g.claims_ne_nil (not_not.mp hn)
      rw [PersonaProfile.markCaptureComplete]
      by_cases hs : i.profile.captureState = .draft <;> simp [hs, hc]
  approveClaim id := by
    rw [Update.approveClaim, PersonaProfile.Update.approveClaim_eq, onProfile_run, PersonaProfile.approveClaim]
    by_cases hs : i.profile.captureState = .captured
    case neg => simp [hs]
    case pos =>
      rw [if_neg (not_not.mpr hs), if_neg (not_not.mpr hs)]
      have hm := g.mem_ids (by simp [hs]) id
      by_cases hi : id ∉ i.plan.questions.map (·.claimId)
      case pos =>
        rw [if_pos hi, onClaim_notFound (hm.not.mpr hi)]
        rfl
      case neg =>
        rw [if_neg hi]
        obtain ⟨rs, hrs⟩ := onClaim_isOk (fun r hr => g.approve hr) (hm.mpr (not_not.mp hi))
        rw [hrs]
        rfl

theorem run_results (r : calls.Run t i) : i.Results :=
  (Run.guided r).results

theorem run_results_reviewed : ∃ t i, calls.Run t i ∧ i.profile.captureState = .reviewed ∧ i.Results := by
  obtain ⟨t, i, r, _, hs⟩ := exists_run_reviewed
  exact ⟨t, i, r, hs, run_results r⟩

-- A call that succeeds is one call on the profile.
theorem call_profile {ε : Type} (h : c.call.run i = .ok () i') :
    ∃ pc : ProfileCall ε, pc.call.run i.profile = .ok () i'.profile := by
  have hf {f : PersonaProfile → Except ProfileError PersonaProfile}
      (h : (Update.onProfile (.atomic f)).run i = .ok () i') : f i.profile = .ok i'.profile := by
    rw [onProfile_run] at h
    cases hp : f i.profile <;> simp only [hp] at h <;> cases h
    rfl
  cases c <;> simp only [InterviewCall.call, Update.approveClaim, Update.correctClaim,
    Update.completeInitialReview, PersonaProfile.Update.approveClaim_eq,
    PersonaProfile.Update.correctClaim_eq, PersonaProfile.Update.approveInitialReview_eq] at h
  case submitAnswer text =>
    cases submitAnswer_move h
    case answer q hq hs hd hb hl =>
      refine ⟨.addCapturedClaim ⟨captured q text, OwnerClaimRecord.built_capture _ _ _ hb hl⟩, ?_⟩
      have hd : (captured q text).id ∉ i.profile.claims.map (·.id) := hd
      have hd : i.profile.claims.any (·.id = (captured q text).id) = false := by simpa using hd
      rw [ProfileCall.call_eq, EStateM.atomic_run, ProfileCall.outcome, PersonaProfile.addCapturedClaim,
        if_neg (not_not.mpr hs), if_neg (by simp [hd])]
      rfl
  case finishCapture =>
    cases finishCapture_move h
    case finish hn hs hc =>
      refine ⟨.markCaptureComplete, ?_⟩
      rw [ProfileCall.call_eq, EStateM.atomic_run, ProfileCall.outcome, PersonaProfile.markCaptureComplete,
        if_neg (not_not.mpr hs), if_neg (by simp [hc])]
      rfl
  case approveClaim id =>
    refine ⟨.approveClaim id, ?_⟩
    rw [ProfileCall.call_eq, EStateM.atomic_run, ProfileCall.outcome, hf h]
    rfl
  case correctClaim id statement kind =>
    refine ⟨.correctClaim id statement kind, ?_⟩
    rw [ProfileCall.call_eq, EStateM.atomic_run, ProfileCall.outcome, hf h]
    rfl
  case completeInitialReview =>
    refine ⟨.approveInitialReview, ?_⟩
    rw [ProfileCall.call_eq, EStateM.atomic_run, ProfileCall.outcome, hf h]
    rfl

-- How many of the calls succeeded.
def succeeded (t : List (InterviewCall × Except CaptureError Unit)) : Nat :=
  t.countP (·.2.isOk)

theorem succeeded_ok : succeeded (t ++ [(c, .ok ())]) = succeeded t + 1 := by
  simp [succeeded, Except.isOk, Except.toBool]

theorem succeeded_error {e : CaptureError} : succeeded (t ++ [(c, .error e)]) = succeeded t := by
  simp [succeeded, Except.isOk, Except.toBool]

theorem Run.refines (ε : Type) :
    (calls.Run t i) → ∃ identity,
      (PersonaProfile.calls ε).Steps (.new identity) (List.replicate (succeeded t) (.ok ())) i.profile := by
  refine Machine.Run.invariant
    (P := fun t i => ∃ identity,
      (PersonaProfile.calls ε).Steps (.new identity) (List.replicate (succeeded t) (.ok ())) (profile i))
    ?init ?step
  case init =>
    intro i h
    obtain ⟨profile, plan, h⟩ := h
    simp only [new, Except.ite_error_eq_ok_iff, Except.ok.injEq] at h
    obtain ⟨_, hc, rfl⟩ := h
    obtain ⟨hs, hc⟩ : profile.captureState = .draft ∧ profile.claims = [] := by simpa using hc
    have hp : profile = .new profile.identity := by
      cases profile
      simp_all [PersonaProfile.new]
    refine ⟨profile.identity, ?_⟩
    rw [← hp]
    exact .refl
  case step =>
    rintro t i c i' o ⟨identity, e⟩ h
    refine ⟨identity, ?_⟩
    obtain ⟨rfl, rfl⟩ := by simpa [calls] using h
    cases hc : c.call.run i
    case error error i' =>
      obtain rfl := call_error hc
      have hn : succeeded (t ++ [(c, .error error)]) = succeeded t := succeeded_error
      exact hn ▸ e
    case ok _ i' =>
      obtain ⟨pc, hp⟩ : ∃ pc : ProfileCall ε, _ := call_profile hc
      have hs : (PersonaProfile.calls ε).Steps i.profile ([.ok ()] ++ []) i'.profile := by
        refine .trans (e := pc) ?_ .refl
        simp only [PersonaProfile.calls, hp]
        rfl
      have hn : succeeded (t ++ [(c, .ok ())]) = succeeded t + 1 := succeeded_ok
      refine hn ▸ ?_
      rw [List.replicate_succ']
      exact e.append hs

-- An interview does nothing to its profile, which is new at first, that the operations of the profile do
-- not do.
theorem run_refines (ε : Type) (r : calls.Run t i) : ∃ identity,
    (PersonaProfile.calls ε).Steps (.new identity) (List.replicate (succeeded t) (.ok ())) i.profile :=
  Run.refines ε r

theorem run_refines_reviewed : ∃ t i, calls.Run t i ∧ i.profile.captureState = .reviewed ∧ ∃ identity,
    (PersonaProfile.calls String).Steps (.new identity) (List.replicate (succeeded t) (.ok ())) i.profile := by
  obtain ⟨t, i, r, _, hs⟩ := exists_run_reviewed
  exact ⟨t, i, r, hs, run_refines String r⟩

theorem Steps.of_call (h : c.call.run i = .ok () i') : calls.Steps i [(c, .ok ())] i' := by
  have hs : calls.step i c = some (i', [(c, .ok ())]) := by
    simp only [calls, h]
    rfl
  exact .trans hs .refl

theorem Run.steps {t' : List (InterviewCall × Except CaptureError Unit)} :
    (calls.Run t i) → (calls.Steps i t' i') → calls.Run (t ++ t') i'
  | ⟨hi, e⟩, e' => ⟨hi, e.append e'⟩

-- An interview that has `n` questions left takes `n` answers.
theorem answer_all {n : Nat} (r : calls.Run t i) (hn : i.nextQuestion + n = i.plan.questionCount)
    (hs : i.profile.captureState = .draft) :
    ∃ t' i', calls.Steps i t' i' ∧ i'.nextQuestion = i'.plan.questionCount ∧
      i'.profile.captureState = .draft ∧ i'.profile.identity = i.profile.identity := by
  induction n generalizing t i
  case zero => exact ⟨[], i, .refl, hn, hs, rfl⟩
  case succ n hi =>
    have hq : i.nextQuestion < i.plan.questions.length := by
      simp only [InterviewPlan.questionCount] at hn
      omega
    have hq : i.currentQuestion = some i.plan.questions[i.nextQuestion] := List.getElem?_eq_getElem hq
    have hc : (InterviewCall.submitAnswer "answer").call.run i =
        .ok () (i.answer i.plan.questions[i.nextQuestion] "answer") := by
      have hb : isBlank "answer" = false := by decide
      have hl : ¬"answer".length > maxOwnerClaimChars := by decide
      simp only [InterviewCall.call, (Run.guided r).results.submitAnswer, hq, hb, hl, Bool.false_eq_true, if_false]
    have e := Steps.of_call hc
    obtain ⟨t', i', e', hn, hs, hv⟩ := hi (Run.steps r e)
      (by simp only [GuidedOwnerInterview.answer]; omega) hs
    exact ⟨_, i', e.append e', hn, hs, hv⟩

theorem edited_reviewed {p p' : PersonaProfile} {id : ClaimId} (h : p.Edited id p')
    (hn : (p.claims.map (·.id)).Nodup) {x : OwnerClaimRecord} (hx : x ∈ p'.claims) (hi : x.id = id) :
    x.isOwnerReviewed = true := by
  obtain ⟨before, r, r', after, hp, hb, hr, hv, hp'⟩ := h.claims
  rw [hp', List.mem_append, List.mem_cons] at hx
  obtain hx | rfl | hx := hx
  · exact absurd hi (hb x hx)
  · exact hv.reviewed
  · simp only [hp, List.map_append, List.map_cons, List.nodup_append, List.nodup_cons] at hn
    exact absurd (List.mem_map.mpr ⟨x, hx, hi.trans hr.symm⟩) hn.2.1.1

-- The owner approves the claims one after the other.
theorem approve_all {ids : List ClaimId} (r : calls.Run t i) (hs : i.profile.captureState = .captured)
    (hm : ∀ id ∈ ids, id ∈ i.plan.questions.map (·.claimId)) :
    ∃ t' i', calls.Steps i t' i' ∧ i'.profile.captureState = .captured ∧ i'.plan = i.plan ∧
      i'.profile.identity = i.profile.identity ∧
      ∀ x ∈ i'.profile.claims, x.id ∈ ids → x.isOwnerReviewed = true := by
  induction ids
  case nil => exact ⟨[], i, .refl, hs, rfl, rfl, by simp⟩
  case cons id ids hi =>
    obtain ⟨t', i', e, hs', hp, hv, ha⟩ := hi fun x hx => hm x (by simp [hx])
    have r' := Run.steps r e
    have hc := (Run.guided r').results.approveClaim id
    rw [if_neg (not_not.mpr hs'), if_neg (not_not.mpr (hp ▸ hm id (by simp)))] at hc
    generalize ((Update.approveClaim id).run i').state = i'' at hc
    cases call_move (c := .approveClaim id) hc
    case approve profile h =>
      have hw : profile.identity = i'.profile.identity := by
        obtain ⟨_, hw⟩ | ⟨hr, _⟩ := h.version
        · have hid := h.identity
          cases hi : profile.identity
          cases hi' : i'.profile.identity
          simp_all
        · simp [hs'] at hr
      refine ⟨_, _, e.append (Steps.of_call (c := .approveClaim id) hc), h.captureState.trans hs', hp, hw.trans hv, ?_⟩
      intro x hx hxi
      by_cases hxd : x.id = id
      · exact edited_reviewed h (Run.guided r').nodup hx hxd
      · have hxi : x.id ∈ ids := by simpa [hxd] using hxi
        obtain hx | ⟨_, _, hv⟩ := h.mem_claims hx
        · exact ha x hx hxi
        · exact hv.reviewed

theorem review (r : calls.Run t i) (hs : i.profile.captureState = .captured)
    (hv : i.profile.identity.version.get < u64Max) :
    ∃ t' i', calls.Steps i t' i' ∧ i'.profile.captureState = .reviewed := by
  have hm : ∀ id ∈ i.plan.questions.map (·.claimId), id ∈ i.plan.questions.map (·.claimId) := fun _ h => h
  obtain ⟨t', i', e, hs', hp, hid, ha⟩ := approve_all r hs hm
  have g := Run.guided (Run.steps r e)
  have ha : i'.profile.claims.all (·.isOwnerReviewed) = true := by
    refine List.all_eq_true.mpr fun x hx => ha x hx ?_
    rw [← hp]
    exact (g.mem_ids (by simp [hs']) x.id).mp (List.mem_map_of_mem hx)
  have hv : i'.profile.identity.version.next = .ok ⟨i'.profile.identity.version.get + 1, Nat.succ_pos _⟩ := by
    rw [hid, PersonaVersion.next, if_pos (Nat.succ_le_of_lt hv)]
  have hc : ∃ i'', InterviewCall.completeInitialReview.call.run i' = .ok () i'' ∧
      i''.profile.captureState = .reviewed := by
    simp only [InterviewCall.call, Update.completeInitialReview,
      PersonaProfile.Update.approveInitialReview_eq, onProfile_run, PersonaProfile.approveInitialReview, hs',
      ha, hv]
    exact ⟨_, rfl, rfl⟩
  obtain ⟨i'', hc, hr⟩ := hc
  exact ⟨_, i'', e.append (Steps.of_call hc), hr⟩

theorem capture_all (r : calls.Run t i) (hs : i.profile.captureState = .draft) :
    ∃ t' i', calls.Steps i t' i' ∧ i'.profile.captureState = .captured ∧
      i'.profile.identity = i.profile.identity := by
  have g := Run.guided r
  have hn : i.nextQuestion ≤ i.plan.questionCount := g.count ▸ g.bounded
  obtain ⟨t', i', e, hn, hs', hid⟩ := answer_all r (Nat.add_sub_of_le hn) hs
  have hc := (Run.guided (Run.steps r e)).results.finishCapture
  rw [if_neg (not_not.mpr hn), if_neg (not_not.mpr hs')] at hc
  exact ⟨_, _, e.append (Steps.of_call (c := .finishCapture) hc), rfl, hid⟩

-- A profile whose version is exhausted is never reviewed.
theorem exhausted (e : calls.Steps i t i')
    (h : i.profile.captureState ≠ .reviewed ∧ ¬i.profile.identity.version.get < u64Max) :
    i'.profile.captureState ≠ .reviewed ∧ ¬i'.profile.identity.version.get < u64Max := by
  refine e.stable (P := fun i => i.profile.captureState ≠ .reviewed ∧
    ¬i.profile.identity.version.get < u64Max) ?_ h
  intro i c i' o h hs
  obtain ⟨-, m⟩ | ⟨-, rfl⟩ := step_move hs
  case inr => exact h
  case inl =>
    have edited {id : ClaimId} {profile : PersonaProfile} (he : i.profile.Edited id profile) :
        profile.captureState ≠ .reviewed ∧ ¬profile.identity.version.get < u64Max := by
      obtain ⟨_, hv⟩ | ⟨hr, _⟩ := he.version
      · exact ⟨he.captureState ▸ h.1, hv ▸ h.2⟩
      · exact absurd hr h.1
    cases m
    case answer => exact h
    case finish => exact ⟨by simp, h.2⟩
    case approve he => exact edited he
    case correct he => exact edited he
    case complete hv =>
      simp only [PersonaVersion.next] at hv
      split at hv
      case isTrue hl => exact absurd hl h.2
      case isFalse   => cases hv

-- Whatever was called so far, the interview can still be brought to its review, unless no version
-- is left for it.
theorem reviewable_iff (r : calls.Run t i) :
    (∃ t' i', calls.Steps i t' i' ∧ i'.profile.captureState = .reviewed) ↔
      i.profile.captureState = .reviewed ∨ i.profile.identity.version.get < u64Max := by
  constructor
  case mp =>
    rintro ⟨t', i', e, hr⟩
    by_contra h
    exact (exhausted e (not_or.mp h)).1 hr
  case mpr =>
    intro h
    cases hs : i.profile.captureState
    case reviewed => exact ⟨[], i, .refl, hs⟩
    case captured => exact review r hs (by simpa [hs] using h)
    case draft =>
      obtain ⟨t', i', e, hs', hid⟩ := capture_all r hs
      obtain ⟨t'', i'', e', hr⟩ := review (Run.steps r e) hs' (hid ▸ by simpa [hs] using h)
      exact ⟨_, i'', e.append e', hr⟩

-- From the middle of an interview: one answer was refused, and it could not be finished yet.
theorem reviewable_iff_answered : ∃ t i t' i', calls.Run t i ∧ succeeded t = 1 ∧ t.length = 3 ∧
    i.profile.captureState = .draft ∧ i.nextQuestion < i.plan.questionCount ∧
    calls.Steps i t' i' ∧ i'.profile.captureState = .reviewed := by
  let reached (i : GuidedOwnerInterview) (t : List (InterviewCall × Except CaptureError Unit)) : Bool :=
    (succeeded t = 1 ∧ t.length = 3) ∧ i.profile.captureState = .draft ∧
      i.nextQuestion < i.plan.questionCount ∧ i.profile.identity.version.get < u64Max
  have h : (calls.replay exampleStart [.submitAnswer " ", .submitAnswer "engineer", .finishCapture]).any
      (fun r => reached r.1 r.2) = true := by
    decide +kernel
  obtain ⟨t, i, e, h⟩ := Machine.Steps.exists_of_replay_any (p := reached) _ h
  obtain ⟨⟨ht, hl⟩, hs, hq, hv⟩ := of_decide_eq_true h
  have r : calls.Run t i := ⟨exampleStart_init, e⟩
  obtain ⟨t', i', e', hr⟩ := (reviewable_iff r).mpr <| .inr hv
  exact ⟨t, i, t', i', r, ht, hl, hs, hq, e', hr⟩

end GuidedOwnerInterview
