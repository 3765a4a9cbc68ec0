import PersonaRuntime.OwnerLab.OwnerCapture
import PersonaRuntime.Capture.Theorems.Interview

namespace OwnerClaimRecord

variable {r : OwnerClaimRecord}

theorem Contiguous.two_le (hc : r.Contiguous) (hp : r.previousRevisions ≠ []) :
    2 ≤ r.current.revision.get := by
  obtain ⟨previous, last, hl⟩ := List.eq_nil_or_concat r.previousRevisions |>.resolve_left hp
  have hn : ∀ x ∈ r.previousRevisions.getLast?, r.current.revision.get = x.revision.get + 1 := by
    intro x hx
    exact (List.isChain_append.mp hc).2.2 x hx r.current rfl
  have h := hn last (by simp [hl])
  have := last.revision.pos
  omega

end OwnerClaimRecord

namespace Rt0OwnerCapture

variable {c c' : Rt0OwnerCapture} {t : List (InterviewCall × Except OwnerCaptureError Unit)}

theorem rt0InterviewQuestion_eq {claimId prompt : String} {kind : ClaimKind}
    (hi : isBlank claimId = false ∧ claimId.length ≤ maxCanonicalIdChars) (hp : isBlank prompt = false) :
    rt0InterviewQuestion claimId prompt kind = .ok ⟨⟨claimId, hi.1, hi.2⟩, prompt, kind, hp⟩ := by
  simp [rt0InterviewQuestion, staticClaimId, CanonicalId.new, InterviewQuestion.new, hi, hp,
    Except.mapError_ok, Except.ok_bind]

-- A prompt that starts with a letter is not blank, whatever follows.
theorem isBlank_of_head {c : Char} {cs : List Char} (h : isWhiteSpace c = false) :
    isBlank (String.ofList (c :: cs)) = false := by
  rw [isBlank, String.toList_ofList, List.all_cons, h, Bool.false_and]

set_option maxRecDepth 1500 in
theorem rt0InterviewPlan_questionCount : ∃ plan, rt0InterviewPlan = .ok plan ∧ plan.questionCount = 3 := by
  simp only [rt0InterviewPlan]
  rw [rt0InterviewQuestion_eq (by decide +kernel) (isBlank_of_head rfl), Except.ok_bind,
    rt0InterviewQuestion_eq (by decide +kernel) (isBlank_of_head rfl), Except.ok_bind,
    rt0InterviewQuestion_eq (by decide +kernel) (isBlank_of_head rfl), Except.ok_bind,
    InterviewPlan.new, dif_neg (by simp), dif_pos (by decide +kernel)]
  exact ⟨_, rfl, rfl⟩

theorem new_eq_ok {personaId : PersonaId} (h : new personaId = .ok c) :
    ∃ plan, rt0InterviewPlan = .ok plan ∧ c = ⟨⟨.new ⟨personaId, ⟨1, by decide⟩, .digitalTwin⟩, plan, 0⟩⟩ := by
  obtain ⟨plan, hp, h⟩ := Except.bind_eq_ok h
  obtain ⟨interview, hi, h⟩ := Except.bind_eq_ok h
  cases h
  cases Except.mapError_eq_ok.mp hi
  exact ⟨plan, hp, rfl⟩

theorem new_isOk (personaId : PersonaId) : ∃ c, new personaId = .ok c := by
  obtain ⟨plan, hp, _⟩ := rt0InterviewPlan_questionCount
  refine ⟨⟨⟨.new ⟨personaId, ⟨1, by decide⟩, .digitalTwin⟩, plan, 0⟩⟩, ?_⟩
  simp only [new, hp]
  rfl

-- The capture seen as the interview that it wraps.
structure Wraps (t : List (InterviewCall × Except OwnerCaptureError Unit)) (c : Rt0OwnerCapture) : Prop where
  interview : ∃ t', GuidedOwnerInterview.calls.Run t' c.interview ∧
    t = t'.map fun o => (o.1, o.2.mapError .capture)
  questions : c.interview.plan.questionCount = 3
  version   : c.interview.profile.captureState ≠ .reviewed → c.interview.profile.identity.version.get = 1

theorem new_wraps {personaId : PersonaId} (h : new personaId = .ok c) : Wraps [] c := by
  obtain ⟨plan, hp, rfl⟩ := new_eq_ok h
  refine ⟨⟨[], ⟨⟨.new ⟨personaId, ⟨1, by decide⟩, .digitalTwin⟩, plan, rfl⟩, .refl⟩, rfl⟩, ?_, fun _ => rfl⟩
  obtain ⟨plan', hp', hq⟩ := rt0InterviewPlan_questionCount
  obtain rfl : plan = plan' := Except.ok.inj (hp.symm.trans hp')
  exact hq

theorem step_wraps {call : InterviewCall} {o : List (InterviewCall × Except OwnerCaptureError Unit)}
    (w : Wraps t c) (h : calls.step c call = some (c', o)) : Wraps (t ++ o) c' := by
  obtain ⟨rfl, rfl⟩ := by simpa [calls] using h
  obtain ⟨t', r, rfl⟩ := w.interview
  rw [Rt0OwnerCapture.call, EStateM.zoom_run]
  cases hc : call.call.run c.interview
  case error e i' =>
    obtain rfl := GuidedOwnerInterview.call_error hc
    have hs : GuidedOwnerInterview.calls.step c.interview call = some (c.interview, [(call, .error e)]) := by
      simp only [GuidedOwnerInterview.calls, hc]
      rfl
    exact ⟨⟨_, GuidedOwnerInterview.Run.steps r (.trans hs .refl), by simp; rfl⟩, w.questions, w.version⟩
  case ok i' =>
    have e := GuidedOwnerInterview.Steps.of_call hc
    have m := GuidedOwnerInterview.call_move hc
    refine ⟨⟨_, GuidedOwnerInterview.Run.steps r e, by simp; rfl⟩, ?questions, ?version⟩
    case questions => cases m <;> exact w.questions
    case version =>
      have edited {id : ClaimId} {profile : PersonaProfile}
          (he : c.interview.profile.Edited id profile) (hs : profile.captureState ≠ .reviewed) :
          profile.identity.version.get = 1 := by
        have hs : c.interview.profile.captureState ≠ .reviewed := he.captureState ▸ hs
        obtain ⟨_, hv⟩ | ⟨hr, _⟩ := he.version
        · exact hv ▸ w.version hs
        · exact absurd hr hs
      cases m
      case answer hs _ _ _ _ => exact w.version
      case finish hs _       => exact fun _ => w.version (by simp [hs])
      case approve he        => exact edited he
      case correct he        => exact edited he
      case complete          => exact fun hs => absurd rfl hs

theorem run_wraps : (calls.Run t c) → Wraps t c := by
  refine Machine.Run.invariant (P := Wraps) ?init ?step
  case init => exact fun ⟨_, h⟩ => new_wraps h
  case step => exact fun w h => step_wraps w h

-- What a reader of a snapshot may rely on.
structure Honest (s : OwnerCaptureSnapshot) : Prop where
  questionCount   : s.questionCount = 3
  answeredCount   : s.answeredCount = s.claims.length
  bounded         : s.answeredCount ≤ s.questionCount
  currentQuestion : s.currentQuestion = none ↔ s.answeredCount = s.questionCount
  finished        : s.captureState ≠ "draft" → s.answeredCount = s.questionCount
  unverified      : s.captureState = "draft" → ∀ x ∈ s.claims, x.ownerReviewed = false
  claims          : ∀ x ∈ s.claims, if x.ownerReviewed then x.verification = "owner_verified" ∧ 2 ≤ x.revision
    else x.verification = "unverified" ∧ x.revision = 1
  reviewed        : s.captureState = "reviewed" → ∀ x ∈ s.claims, x.ownerReviewed = true
  personaVersion  : if s.captureState = "reviewed" then 2 ≤ s.personaVersion else s.personaVersion = 1

theorem captureStateName_eq_iff {x y : PersonaCaptureState} :
    captureStateName x = captureStateName y ↔ x = y := by
  cases x <;> cases y <;> decide

theorem run_snapshot (r : calls.Run t c) : Honest c.snapshot := by
  have w := run_wraps r
  obtain ⟨t', r, _⟩ := w.interview
  have g := GuidedOwnerInterview.Run.guided r
  have ⟨identity, e⟩ := GuidedOwnerInterview.Run.refines Empty r
  have o := PersonaProfile.run_orderly ⟨.inl ⟨identity, rfl⟩, e⟩
  have hn : c.interview.nextQuestion ≤ c.interview.plan.questionCount := g.count ▸ g.bounded
  have state {x : PersonaCaptureState} :
      c.snapshot.captureState = captureStateName x ↔ c.interview.profile.captureState = x :=
    captureStateName_eq_iff
  refine ⟨w.questions, ?answeredCount, hn, ?currentQuestion, ?finished, ?unverified, ?claims, ?reviewed,
    ?personaVersion⟩
  case answeredCount =>
    have h := congrArg List.length g.ids
    simp only [List.length_map, List.length_take] at h
    simp only [snapshot, List.length_map, h]
    exact (Nat.min_eq_left hn).symm
  case currentQuestion =>
    simp only [snapshot, Option.map_eq_none_iff, GuidedOwnerInterview.currentQuestion,
      List.getElem?_eq_none_iff]
    exact ⟨Nat.le_antisymm hn, Nat.le_of_eq ∘ Eq.symm⟩
  case finished => exact fun h => g.complete fun hs => h ((state (x := .draft)).mpr hs)
  case unverified =>
    intro hs x hx
    obtain ⟨record, hr, rfl⟩ := List.mem_map.mp hx
    have hp := g.draft ((state (x := .draft)).mp hs) record hr
    exact Bool.eq_false_iff.mpr fun hv => (g.revised record hr).mp hv hp
  case claims =>
    intro x hx
    obtain ⟨record, hr, rfl⟩ := List.mem_map.mp hx
    cases hv : record.isOwnerReviewed
    case true =>
      have ht := (o.contiguous record hr).two_le ((g.revised record hr).mp hv)
      obtain ⟨⟨_, hv⟩, _⟩ := by simpa [OwnerClaimRecord.isOwnerReviewed] using hv
      simp [hv, verificationName, ht]
    case false =>
      have hp : record.previousRevisions = [] := by
        by_contra hp
        simp [(g.revised record hr).mpr hp] at hv
      obtain ⟨q, text, hc⟩ := g.current hr hp
      simp [hc, InterviewQuestion.answered, verificationName, ClaimRevision.initial]
  case reviewed =>
    intro hs x hx
    obtain ⟨record, hr, rfl⟩ := List.mem_map.mp hx
    exact g.reviewed ((state (x := .reviewed)).mp hs) record hr
  case personaVersion =>
    split
    case isTrue hs  => exact (o.reviewed ((state (x := .reviewed)).mp hs)).2
    case isFalse hs => exact w.version fun h => hs ((state (x := .reviewed)).mpr h)

theorem run_snapshot_answered : ∃ t c, calls.Run t c ∧ c.snapshot.answeredCount = 1 ∧ Honest c.snapshot := by
  obtain ⟨c, hc⟩ := new_isOk ⟨"owner", by decide, by decide⟩
  have w := new_wraps hc
  obtain ⟨t', r', _⟩ := w.interview
  have hn : c.interview.nextQuestion = 0 := by
    obtain ⟨_, _, rfl⟩ := new_eq_ok hc
    rfl
  have ⟨q, hq⟩ : ∃ q, c.interview.currentQuestion = some q := by
    have hl : 0 < c.interview.plan.questions.length := by
      have := w.questions
      simp only [InterviewPlan.questionCount] at this
      omega
    rw [GuidedOwnerInterview.currentQuestion, hn]
    exact ⟨_, List.getElem?_eq_getElem hl⟩
  have hs : (GuidedOwnerInterview.Update.submitAnswer "engineer").run c.interview =
      .ok () (c.interview.answer q "engineer") := by
    rw [(GuidedOwnerInterview.Run.guided r').results.submitAnswer, hq]
    rfl
  have hs : calls.step c (.submitAnswer "engineer") =
      some (⟨c.interview.answer q "engineer"⟩, [(.submitAnswer "engineer", .ok ())]) := by
    simp only [calls, call, EStateM.zoom_run, InterviewCall.call, hs]
    rfl
  have r : calls.Run _ _ := ⟨⟨_, hc⟩, .trans hs .refl⟩
  exact ⟨_, _, r, congrArg (· + 1) hn, run_snapshot r⟩

end Rt0OwnerCapture
