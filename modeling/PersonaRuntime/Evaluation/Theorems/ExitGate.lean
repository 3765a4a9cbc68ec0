import PersonaRuntime.Evaluation.ExitGate
import PersonaRuntime.Evaluation.Theorems.ExitVerification
import PersonaRuntime.Evaluation.Theorems.Golden
import PersonaRuntime.Machine.Loop
import Mathlib.Algebra.GroupWithZero.Nat

namespace ExitGate

variable {α : Type} {error : Rt0ExitEvidenceError} {b : Bool}

theorem require_bind_eq_ok {x : ExitGate α} {a : α} (h : (ExitGate.require error b >>= fun _ => x) = .ok a) :
    b = true ∧ x = .ok a := by
  cases b
  case false => cases h
  case true  => exact ⟨rfl, h⟩

theorem toOption_eq_ok {ε : Type} {x : Except ε α} {a : α} (h : ExitGate.orElse error x.toOption = .ok a) :
    x = .ok a := by
  cases x <;> cases h
  rfl

end ExitGate

theorem failIf_eq_nil {failed : Bool} {code : Rt0ExitFailureCode} : failIf failed code = [] ↔ failed = false := by
  cases failed <;> simp [failIf]

theorem Except.toOption_eq_some {ε α : Type} {x : Except ε α} {a : α} (h : x = .ok a) : x.toOption = some a := by
  rw [h]
  rfl

namespace Rt0ExitGate

-- All that the gate takes from the derived files
structure Digests where
  exitEvidence          : String
  goldenReport          : String
  ownerGoldenReport     : String
  boundSessionAggregate : String

def Derived.digests (F : ArtifactFormat) (derived : Derived) : Digests where
  exitEvidence          := F.sha256Hex derived.exitEvidence
  goldenReport          := F.sha256Hex derived.goldenReport
  ownerGoldenReport     := F.sha256Hex derived.ownerGoldenReport
  boundSessionAggregate := F.sha256Hex derived.boundSessionAggregate

-- The same files as the assembler takes them
def assemblyInputs (recorded : Recorded) (derived : Derived) : Rt0ExitAssemblyInputs where
  supporting                 := recorded.supportingArtifacts
  boundGoldenReportBytes     := derived.goldenReport
  ownerGoldenSuiteBytes      := recorded.ownerGoldenSuite
  ownerGoldenEvidenceBytes   := recorded.ownerGoldenEvidence
  ownerGoldenReportBytes     := derived.ownerGoldenReport
  providerStateBytes         := recorded.providerState
  liveProviderProbeBytes     := recorded.liveProviderProbe
  conversationAttemptBytes   := recorded.conversationAttempt
  boundSessionAggregateBytes := derived.boundSessionAggregate
  releaseSpecBytes           := recorded.releaseSpec
  exactCandidateSha          := recorded.candidateSha

-- What a supporting artifact says to a reader for whom the last value of a key counts.
def shown {α : Type} (F : ArtifactFormat) (f : FieldsCodec α) (bytes : List UInt8) : Option (Claimed α) :=
  (F.fromSlice (fun j => (f.supporting .candidateAndProvider).record.decode j.value) bytes).map fun c =>
    ⟨c.facts, F.sha256Hex bytes⟩

def automatedShown (F : ArtifactFormat) (bytes : List UInt8) : Option ArtifactCheckEvidence :=
  (F.fromSlice (FieldsCodec.automated.supporting .candidateWithAutomationReference).record.decode bytes).map fun c =>
    ⟨c.facts, F.sha256Hex bytes⟩

-- The evidence that the recorded files amount to.
def Recorded.evidence (F : ArtifactFormat) (recorded : Recorded) (digests : Digests) : Option Rt0ExitEvidence := do
  let a := recorded.supportingArtifacts
  let reviewStatus ← parseKnownLimitationsReviewStatus a.knownLimitations
  return {
    schemaVersion               := rt0ExitEvidenceSchema
    candidateSha                := recorded.candidateSha
    releaseSpecSha256           := F.sha256Hex recorded.releaseSpec
    goldenReportSha256          := digests.goldenReport
    ownerGoldenSuiteSha256      := F.sha256Hex recorded.ownerGoldenSuite
    ownerGoldenEvidenceSha256   := F.sha256Hex recorded.ownerGoldenEvidence
    ownerGoldenReportSha256     := digests.ownerGoldenReport
    providerStateSha256         := F.sha256Hex recorded.providerState
    liveProviderProbeSha256     := F.sha256Hex recorded.liveProviderProbe
    conversationAttemptSha256   := F.sha256Hex recorded.conversationAttempt
    boundSessionAggregateSha256 := digests.boundSessionAggregate
    automated                   := ⟨← automatedShown F a.ci, ← automatedShown F a.e2e⟩
    conversations               := ⟨← shown F .conversation a.ownerConversation,
      ← shown F .conversation a.visitorConversation⟩
    acceptance                  := ← shown F .acceptance a.acceptance
    quality                     := ← shown F .quality a.quality
    cost                        := ← shown F .cost a.cost
    privacyPermissions          := ← shown F .privacy a.privacyPermissions
    humanEvaluation             := ← shown F .human a.humanEvaluation
    knownLimitations            := ⟨reviewStatus, F.sha256Hex a.knownLimitations⟩ }

def goldenOutcome (F : ArtifactFormat) (suiteBytes evidenceBytes : List UInt8) : Option GoldenReport := do
  let suite ← F.fromSlice GoldenSuite.decode suiteBytes
  let bundle ← F.fromSlice GoldenEvidenceBundle.decode evidenceBytes
  (evaluateGoldenSuite F.lowercase suite bundle.observations).toOption

-- The report that the recorded files lead to, whatever is said of them.
def Recorded.report (F : ArtifactFormat) (required : List UInt8) (recorded : Recorded) (digests : Digests) :
    Option Rt0ExitReport := do
  let evidence ← recorded.evidence F digests
  let golden ← goldenOutcome F required recorded.goldenEvidence
  let ownerGolden ← goldenOutcome F recorded.ownerGoldenSuite recorded.ownerGoldenEvidence
  let providerState ← F.fromSlice ProviderStateManifest.decode recorded.providerState
  return rt0ExitReport evidence golden ownerGolden providerState digests.exitEvidence

variable {F : ArtifactFormat} {required : List UInt8} {recorded : Recorded} {derived : Derived}
variable {report : Rt0ExitReport} {α : Type} {f : FieldsCodec α} {bytes : List UInt8}

open ArtifactFormat FieldsCodec

theorem parse_eq_ok {decode : Json → Option α} {a : α} (h : parse F decode bytes = .ok a) :
    F.fromSlice decode bytes = some a := by
  unfold parse at h
  split at h <;> cases h
  assumption

theorem parse_of_fromSlice {decode : Json → Option α} {a : α} (h : F.fromSlice decode bytes = some a) :
    parse F decode bytes = .ok a := by
  unfold parse
  rw [h]

theorem shown_of_shows {c : SupportingClaim α} (hb : f.Bindable) (hn : f.Normal) (h : F.Shows f bytes c) :
    shown F f bytes = some ⟨c.facts, F.sha256Hex bytes⟩ := by
  obtain ⟨j, hj, he⟩ := h
  simp [shown, fromSlice, hj, he, (hb.roundTrip hn).read]

theorem automatedShown_of_reads {c : SupportingClaim CheckStatus}
    (h : F.Reads .automated .candidateWithAutomationReference bytes c) :
    automatedShown F bytes = some ⟨c.facts, F.sha256Hex bytes⟩ := by
  obtain ⟨j, hj, hd⟩ := h
  simp [automatedShown, fromSlice, hj, hd]

theorem evaluateBoundGoldenSuite_eq_ok {suite : GoldenSuite} {bundle : GoldenEvidenceBundle}
    {context : EvidenceVerificationContext} {report : BoundGoldenReport}
    (h : F.evaluateBoundGoldenSuite suite bundle context = .ok report) :
    evaluateGoldenSuite F.lowercase suite bundle.observations = .ok report.golden := by
  obtain ⟨_, _, h⟩ := Except.bind_eq_ok h
  obtain ⟨golden, hg, h⟩ := Except.bind_eq_ok h
  cases h
  exact Except.mapError_eq_ok.mp hg

theorem conversation_of_binding {conversations : ConversationPairEvidence} {attempt : List UInt8}
    {snapshots : List (List UInt8)} {candidateSha digest : String}
    (h : F.validateRt0ConversationEvidenceBinding conversations attempt snapshots candidateSha digest = .ok ()) :
    ∃ conversation, F.fromSlice ConversationAttemptBinding.decode attempt = some conversation ∧
      validateConversationAttemptBinding conversation candidateSha digest = .ok () := by
  unfold validateRt0ConversationEvidenceBinding at h
  obtain ⟨_, h⟩ := ExitGate.require_bind_eq_ok h
  obtain ⟨conversation, hd, h⟩ := Except.bind_eq_ok h
  obtain ⟨_, hv, h⟩ := Except.bind_eq_ok h
  exact ⟨conversation, exitGate_orElse_eq_ok hd, hv⟩

-- Everything that the gate makes sure of before it reports.
structure Accepted (F : ArtifactFormat) (required : List UInt8) (recorded : Recorded) (derived : Derived)
    (e : Rt0ExitEvidence) (golden ownerGolden : GoldenReport) (providerState : ProviderStateManifest) : Prop where
  verified      : F.Verified recorded.supportingArtifacts e
  header        : e = { e with
    schemaVersion               := rt0ExitEvidenceSchema
    candidateSha                := recorded.candidateSha
    releaseSpecSha256           := F.sha256Hex recorded.releaseSpec
    goldenReportSha256          := F.sha256Hex derived.goldenReport
    ownerGoldenSuiteSha256      := F.sha256Hex recorded.ownerGoldenSuite
    ownerGoldenEvidenceSha256   := F.sha256Hex recorded.ownerGoldenEvidence
    ownerGoldenReportSha256     := F.sha256Hex derived.ownerGoldenReport
    providerStateSha256         := F.sha256Hex recorded.providerState
    liveProviderProbeSha256     := F.sha256Hex recorded.liveProviderProbe
    conversationAttemptSha256   := F.sha256Hex recorded.conversationAttempt
    boundSessionAggregateSha256 := F.sha256Hex derived.boundSessionAggregate }
  golden        : goldenOutcome F required recorded.goldenEvidence = some golden
  ownerGolden   : goldenOutcome F recorded.ownerGoldenSuite recorded.ownerGoldenEvidence = some ownerGolden
  manifest      : providerState.schemaVersion = rt0ProviderStateSchema ∧
    (validateProviderState providerState.providers).isOk = true
  providerState : F.fromSlice ProviderStateManifest.decode recorded.providerState = some providerState
  conversations : F.validateRt0ConversationEvidenceBinding e.conversations recorded.conversationAttempt
    recorded.sessionSnapshots recorded.candidateSha (F.sha256Hex recorded.providerState) = .ok ()
  sessions      : ∃ bound, F.bindOwnerLabSessionEvidence recorded.sessionSnapshots recorded.providerState
    recorded.candidateSha = .ok bound ∧ validateSessionQualityBinding e.quality.facts bound.aggregate = .ok () ∧
    validateSessionCostBinding e.cost.facts bound.aggregate = .ok () ∧
    F.validateCoreArtifacts (assemblyInputs recorded derived) (F.sha256Hex recorded.providerState) = .ok bound
  candidate     : validGitSha recorded.candidateSha = true
  rubric        : isBlank e.humanEvaluation.facts.rubricVersion = false

theorem validateGoldenReport_eq_ok {report : BoundGoldenReport} (h : validateGoldenReport report = .ok ()) :
    report.binding.schemaVersion = rt0EvidenceBindingSchema := by
  by_contra hn
  simp only [validateGoldenReport, ne_eq, hn, not_false_eq_true, true_or, if_true] at h
  cases h

theorem run_eq_ok (h : run F required recorded derived = .ok report) :
    ∃ e golden ownerGolden providerState, Accepted F required recorded derived e golden ownerGolden providerState ∧
      report = rt0ExitReport e golden ownerGolden providerState (F.sha256Hex derived.exitEvidence) := by
  obtain ⟨e, _, h⟩ := Except.bind_eq_ok h
  obtain ⟨goldenReport, hgr, h⟩ := Except.bind_eq_ok h
  obtain ⟨goldenEvidence, hge, h⟩ := Except.bind_eq_ok h
  obtain ⟨ownerSuite, hos, h⟩ := Except.bind_eq_ok h
  obtain ⟨ownerEvidence, hoe, h⟩ := Except.bind_eq_ok h
  obtain ⟨ownerReport, hor, h⟩ := Except.bind_eq_ok h
  obtain ⟨providerState, hp, h⟩ := Except.bind_eq_ok h
  obtain ⟨probe, hpr, h⟩ := Except.bind_eq_ok h
  obtain ⟨aggregate, hag, h⟩ := Except.bind_eq_ok h
  have h := Except.mapError_eq_ok.mp h
  obtain ⟨_, hv, h⟩ := Except.bind_eq_ok h
  obtain ⟨_, h⟩ := ExitGate.require_bind_eq_ok h
  obtain ⟨_, hs, h⟩ := Except.bind_eq_ok h
  cases h
  -- the checks of the structure, in their order
  unfold validateStructure at hs
  obtain ⟨hschema, hs⟩ := ExitGate.require_bind_eq_ok hs
  obtain ⟨hsha, hs⟩ := ExitGate.require_bind_eq_ok hs
  obtain ⟨_, hs⟩ := ExitGate.require_bind_eq_ok hs
  obtain ⟨hcandidate, hs⟩ := ExitGate.require_bind_eq_ok hs
  obtain ⟨hspec, hs⟩ := ExitGate.require_bind_eq_ok hs
  obtain ⟨hgolden, hs⟩ := ExitGate.require_bind_eq_ok hs
  obtain ⟨howner, hs⟩ := ExitGate.require_bind_eq_ok hs
  obtain ⟨hprobe, hs⟩ := ExitGate.require_bind_eq_ok hs
  obtain ⟨hstate, hs⟩ := ExitGate.require_bind_eq_ok hs
  obtain ⟨hmanifest, hs⟩ := ExitGate.require_bind_eq_ok hs
  obtain ⟨_, hlive, hs⟩ := Except.bind_eq_ok hs
  obtain ⟨_, hr, hs⟩ := Except.bind_eq_ok hs
  obtain ⟨_, hg, hs⟩ := Except.bind_eq_ok hs
  obtain ⟨_, ho, hs⟩ := Except.bind_eq_ok hs
  obtain ⟨_, _, hs⟩ := Except.bind_eq_ok hs
  obtain ⟨_, hs⟩ := ExitGate.require_bind_eq_ok hs
  have hrubric := exitGate_require_eq_ok hs
  -- the runtime evidence
  unfold validateRuntimeEvidence at hr
  obtain ⟨hruntime, hr⟩ := ExitGate.require_bind_eq_ok hr
  obtain ⟨_, hc, hr⟩ := Except.bind_eq_ok hr
  obtain ⟨_, hbound, hr⟩ := Except.bind_eq_ok hr
  obtain ⟨bound, hb, hr⟩ := Except.bind_eq_ok hr
  obtain ⟨hsame, hr⟩ := ExitGate.require_bind_eq_ok hr
  obtain ⟨_, hquality, hcost⟩ := Except.bind_eq_ok hr
  obtain rfl : bound = aggregate := of_decide_eq_true hsame
  have ⟨conversation, hconv, hattempt⟩ := conversation_of_binding hc
  -- the golden sets
  obtain ⟨_, hreport, hg⟩ := Except.bind_eq_ok hg
  obtain ⟨suite, hsuite, hg⟩ := Except.bind_eq_ok hg
  obtain ⟨recomputed, hrec, hg⟩ := Except.bind_eq_ok hg
  obtain rfl : recomputed = goldenReport := of_decide_eq_true (exitGate_require_eq_ok hg)
  have ho := Except.mapError_eq_ok.mp ho
  obtain ⟨ownerRecomputed, horec, ho⟩ := Except.bind_eq_ok ho
  obtain rfl : ownerRecomputed = ownerReport := by
    split at ho
    case isTrue h  => exact h
    case isFalse h => cases ho
  simp only [Bool.and_eq_true, decide_eq_true_eq] at hschema hsha hcandidate hspec hgolden howner
  simp only [Bool.and_eq_true, decide_eq_true_eq] at hprobe hstate hmanifest hruntime
  refine ⟨e, recomputed.golden, ownerRecomputed.golden, providerState, ?accepted, rfl⟩
  refine ⟨validate_eq_ok hv, ?header, ?golden, ?ownerGolden, hmanifest.1, parse_eq_ok hp, hc,
    ⟨bound, ExitGate.toOption_eq_ok hb, hquality, hcost, ?core⟩, hsha.1, by simpa using hrubric⟩
  case header =>
    rw [← hschema, ← hcandidate.1, ← hspec.1, ← hgolden, ← howner.1.1, ← howner.1.2, ← howner.2, ← hprobe,
      ← hstate.1.1, ← hruntime.1, ← hruntime.2]
  case golden =>
    have hg := evaluateBoundGoldenSuite_eq_ok (ExitGate.toOption_eq_ok hrec)
    simp [goldenOutcome, exitGate_orElse_eq_ok hsuite, parse_eq_ok hge, Except.toOption_eq_some hg]
  case ownerGolden =>
    have hg := horec
    obtain ⟨_, _, hg⟩ := Except.bind_eq_ok hg
    have hg := evaluateBoundGoldenSuite_eq_ok (Except.mapError_eq_ok.mp hg)
    simp [goldenOutcome, parse_eq_ok hos, parse_eq_ok hoe, Except.toOption_eq_some hg]
  case core =>
    have hlive := Except.mapError_eq_ok.mp hlive
    simp only [goldenContext] at horec
    simp only [validateCoreArtifacts, assemblyInputs, parse_eq_ok hp, parse_eq_ok hgr, parse_eq_ok hos, parse_eq_ok hoe,
      parse_eq_ok hor, parse_eq_ok hpr, parse_eq_ok hag, validateGoldenReport_eq_ok hreport, hcandidate.2, hspec.2,
      hstate.1.2, hmanifest.2, horec, hlive, hbound, hconv, hattempt, validateRt0ConversationAttemptArtifact,
      Assembly.orElse, Assembly.orFail, Assembly.ofGate, Assembly.require, ExitGate.orElse, Except.mapError_ok,
      Except.ok_bind, decide_true, Bool.and_self, if_true]
    rfl

variable {e : Rt0ExitEvidence} {golden ownerGolden : GoldenReport} {providerState : ProviderStateManifest}

-- Evidence that is verified and has the digests of the files is the one that the recorded files amount to.
theorem evidence_of_verified (v : F.Verified recorded.supportingArtifacts e)
    (h : e = { e with
      schemaVersion               := rt0ExitEvidenceSchema
      candidateSha                := recorded.candidateSha
      releaseSpecSha256           := F.sha256Hex recorded.releaseSpec
      goldenReportSha256          := F.sha256Hex derived.goldenReport
      ownerGoldenSuiteSha256      := F.sha256Hex recorded.ownerGoldenSuite
      ownerGoldenEvidenceSha256   := F.sha256Hex recorded.ownerGoldenEvidence
      ownerGoldenReportSha256     := F.sha256Hex derived.ownerGoldenReport
      providerStateSha256         := F.sha256Hex recorded.providerState
      liveProviderProbeSha256     := F.sha256Hex recorded.liveProviderProbe
      conversationAttemptSha256   := F.sha256Hex recorded.conversationAttempt
      boundSessionAggregateSha256 := F.sha256Hex derived.boundSessionAggregate }) :
    recorded.evidence F (derived.digests F) = some e := by
  have d := v.digests
  simp only [boundArtifacts, List.forall_mem_cons] at d
  obtain ⟨d₁, d₂, d₃, d₄, d₅, d₆, d₇, d₈, d₉, d₁₀, _⟩ := d
  obtain ⟨_, ci, hci, _⟩ := v.ci
  obtain ⟨_, e2e, he2e, _⟩ := v.e2e
  simp only [Recorded.evidence, v.limitations, automatedShown_of_reads ci, automatedShown_of_reads e2e,
    shown_of_shows conversation_bindable conversation_normal v.owner,
    shown_of_shows conversation_bindable conversation_normal v.visitor,
    shown_of_shows acceptance_bindable acceptance_normal v.acceptance,
    shown_of_shows quality_bindable quality_normal v.quality,
    shown_of_shows cost_bindable cost_normal v.cost,
    shown_of_shows privacy_bindable privacy_normal v.privacy,
    shown_of_shows human_bindable human_normal v.human, hci, he2e, ← d₁, ← d₂, ← d₃, ← d₄, ← d₅, ← d₆, ← d₇,
    ← d₈, ← d₉, ← d₁₀, Derived.digests, Option.bind_eq_bind, Option.bind_some, Option.pure_def]
  exact congrArg some h.symm

theorem Accepted.evidence (a : Accepted F required recorded derived e golden ownerGolden providerState) :
    recorded.evidence F (derived.digests F) = some e :=
  evidence_of_verified a.verified a.header

-- Whatever evidence, golden reports and aggregate are handed in with the recorded files: the gate answers with
-- the report that the recorded files lead to, or not at all.
theorem run_verdict : run F required recorded derived = .ok report ↔
    (run F required recorded derived).isOk = true ∧
      recorded.report F required (derived.digests F) = some report := by
  have hr {report : Rt0ExitReport} (h : run F required recorded derived = .ok report) :
      recorded.report F required (derived.digests F) = some report := by
    obtain ⟨e, golden, ownerGolden, providerState, a, rfl⟩ := run_eq_ok h
    simp only [Recorded.report, a.evidence, a.golden, a.ownerGolden, a.providerState, Option.bind_eq_bind,
      Option.bind_some, Option.pure_def]
    rfl
  constructor
  case mp => exact fun h => ⟨h ▸ rfl, hr h⟩
  case mpr =>
    intro ⟨hk, h⟩
    cases hx : run F required recorded derived
    case error => simp [hx, Except.isOk, Except.toBool] at hk
    case ok report' => exact congrArg Except.ok (Option.some.inj ((hr hx).symm.trans h))

-- A session in which something was said and answered.
def Conversed (s : LabSessionEvidenceSnapshot) : Bool :=
  s.voiceAttempts.any (·.status = .completed)

-- What the sessions of a role prove when they are all looked at.
def proofOf (sessions : List LabSessionEvidenceSnapshot) : RoleConversationProof where
  completedTurns             := (sessions.map fun s => (s.voiceAttempts.filter (·.status = .completed)).length).sum
  sessionsWithCompletedTurns := sessions.countP Conversed
  playbackSessions           := sessions.countP fun s => Conversed s && s.canonicalPlaybackProven
  videoSessions              := sessions.countP fun s => Conversed s && s.mediaEvents.any (·.kind = .videoReady)
  interruptionExercised      := sessions.any fun s => Conversed s && s.mediaEvents.any (·.kind = .interruptionStopped)

theorem add_eq_ok {n k m : Nat} (h : ExitGate.orElse .runtimeEvidenceInvalid (checkedAddU32 n k) = .ok m) :
    m = n + k := by
  have h := exitGate_orElse_eq_ok h
  simp only [checkedAddU32, Option.ite_none_right_eq_some, Option.some.injEq] at h
  exact h.2.symm

theorem countIf_eq_ok {b : Bool} {n m : Nat} (h : countIf b n = .ok m) : m = n + if b then 1 else 0 := by
  cases b
  case false =>
    cases h
    rfl
  case true => exact add_eq_ok h

theorem conversed_iff {s : LabSessionEvidenceSnapshot} :
    Conversed s = true ↔ (s.voiceAttempts.filter (·.status = .completed)).length ≠ 0 := by
  simp [Conversed, List.length_eq_zero_iff, List.filter_eq_nil_iff]

theorem proveNext_eq_ok {done : List LabSessionEvidenceSnapshot} {s : LabSessionEvidenceSnapshot}
    {proof proof' : RoleConversationProof} (hp : proof = proofOf done) (h : proveNext proof s = .ok proof') :
    proof' = proofOf (done ++ [s]) := by
  subst hp
  have h := Except.guard_eq_ok h
  have h := Except.guard_eq_ok h
  split at h
  case isTrue hn =>
    cases h
    have hc : Conversed s = false := Bool.eq_false_iff.mpr fun hc => conversed_iff.mp hc hn
    simp [proofOf, hn, hc]
  case isFalse hn =>
    have hc : Conversed s = true := conversed_iff.mpr hn
    obtain ⟨turns, ht, h⟩ := Except.bind_eq_ok h
    obtain ⟨sessions, hs, h⟩ := Except.bind_eq_ok h
    obtain ⟨playback, hp, h⟩ := Except.bind_eq_ok h
    obtain ⟨video, hv, h⟩ := Except.bind_eq_ok h
    cases h
    simp [proofOf, add_eq_ok ht, countIf_eq_ok hs, countIf_eq_ok hp, countIf_eq_ok hv, hc, List.countP_append]

theorem deriveRoleConversationProof_eq_ok {sessions : List LabSessionEvidenceSnapshot} {role : ParticipantRole}
    {proof : RoleConversationProof} (h : deriveRoleConversationProof sessions role = .ok proof) :
    proof = proofOf (sessions.filter (·.participantRole = role)) := by
  refine List.foldlM_ok_invariant (P := fun done proof => proof = proofOf done) ?_ rfl h
  intro done s proof proof' hp h
  exact proveNext_eq_ok hp h

theorem parseRoleBoundSnapshots_eq_ok {artifacts : List (List UInt8)} {sessions : List LabSessionEvidenceSnapshot}
    {candidateSha digest : String} (h : F.parseRoleBoundSnapshots artifacts candidateSha digest = .ok sessions) :
    artifacts.Forall₂ (fun bytes s => F.fromSlice LabSessionEvidenceSnapshot.decode bytes = some s ∧
      s.candidateSha = candidateSha ∧ s.providerStateSha256 = digest) sessions := by
  replace h := (ExitGate.require_bind_eq_ok h).2
  induction artifacts generalizing sessions
  case nil =>
    cases h
    exact .nil
  case cons bytes artifacts hi =>
    rw [List.mapM_cons] at h
    obtain ⟨s, hs, h⟩ := Except.bind_eq_ok h
    obtain ⟨rest, hr, h⟩ := Except.bind_eq_ok h
    cases h
    obtain ⟨s', hd, hs⟩ := Except.bind_eq_ok hs
    obtain ⟨hc, hs⟩ := ExitGate.require_bind_eq_ok hs
    obtain ⟨hp, hs⟩ := ExitGate.require_bind_eq_ok hs
    cases hs
    exact .cons ⟨exitGate_orElse_eq_ok hd, of_decide_eq_true hc, of_decide_eq_true hp⟩ (hi hr)

-- A session that is recorded, of the candidate and its providers
structure Recorded.Session (F : ArtifactFormat) (recorded : Recorded) (s : LabSessionEvidenceSnapshot) : Prop where
  read          : ∃ bytes ∈ recorded.sessionSnapshots, F.fromSlice LabSessionEvidenceSnapshot.decode bytes = some s
  candidate     : s.candidateSha = recorded.candidateSha
  providerState : s.providerStateSha256 = F.sha256Hex recorded.providerState

-- The role was in a session that was answered, and all of those were played and seen.
structure Proven (F : ArtifactFormat) (recorded : Recorded) (role : ParticipantRole) : Prop where
  conversed : ∃ s, recorded.Session F s ∧ s.participantRole = role ∧ Conversed s = true
  delivered : ∀ s, recorded.Session F s → s.participantRole = role → Conversed s = true →
    s.canonicalPlaybackProven = true ∧ ∃ m ∈ s.mediaEvents, m.kind = .videoReady

-- Every case of the suite is observed and meets all of its expectations.
def Passes (F : ArtifactFormat) (suiteBytes evidenceBytes : List UInt8) : Prop :=
  ∃ suite bundle, F.fromSlice GoldenSuite.decode suiteBytes = some suite ∧
    F.fromSlice GoldenEvidenceBundle.decode evidenceBytes = some bundle ∧
    ∀ c ∈ suite.cases, ∃ o ∈ bundle.observations, o.caseId = c.id ∧
      ∀ x ∈ c.expectations, evaluateExpectation F.lowercase o x = []

-- The quality that is claimed was measured in the recorded sessions, and is good enough.
structure Measured (F : ArtifactFormat) (recorded : Recorded) (quality : QualityFacts) : Prop where
  sessions : ∃ bound, F.bindOwnerLabSessionEvidence recorded.sessionSnapshots recorded.providerState
    recorded.candidateSha = .ok bound ∧ bound.aggregate.avSyncProven = true ∧
    bound.aggregate.qualityDistributions = quality.distributions.map some
  enough   : evaluateQuality quality = []

-- What a release needs of the recorded files.
structure Releasable (F : ArtifactFormat) (required : List UInt8) (recorded : Recorded) : Prop where
  golden      : Passes F required recorded.goldenEvidence
  ownerGolden : Passes F recorded.ownerGoldenSuite recorded.ownerGoldenEvidence
  sessions    : ∀ bytes ∈ recorded.sessionSnapshots, ∃ s, recorded.Session F s ∧
    F.fromSlice LabSessionEvidenceSnapshot.decode bytes = some s
  owner       : Proven F recorded .owner
  visitor     : Proven F recorded .visitor
  interrupted : ∃ s, recorded.Session F s ∧ s.participantRole = .owner ∧ Conversed s = true ∧
    ∃ m ∈ s.mediaEvents, m.kind = .interruptionStopped
  measured    : ∃ quality, F.Shows .quality recorded.supportingArtifacts.quality
    ⟨quality, recorded.candidateSha, F.sha256Hex recorded.providerState⟩ ∧ Measured F recorded quality
  automated   : ∀ bytes ∈ [recorded.supportingArtifacts.ci, recorded.supportingArtifacts.e2e],
    ∃ c, F.Reads .automated .candidateWithAutomationReference bytes c ∧ c.facts = .passed
  acceptance  : ∃ facts, F.Shows .acceptance recorded.supportingArtifacts.acceptance
    ⟨facts, recorded.candidateSha, F.sha256Hex recorded.providerState⟩ ∧ evaluateAcceptance facts = []
  privacy     : ∃ facts, F.Shows .privacy recorded.supportingArtifacts.privacyPermissions
    ⟨facts, recorded.candidateSha, F.sha256Hex recorded.providerState⟩ ∧ evaluatePrivacy facts = []
  limitations : parseKnownLimitationsReviewStatus recorded.supportingArtifacts.knownLimitations = some .passed

theorem notPassed_eq_false_iff {golden : GoldenReport} :
    golden.notPassed = false ↔ golden.failed = 0 ∧ golden.passed = golden.total := by
  simp [GoldenReport.notPassed]

theorem goldenOutcome_passes {suiteBytes evidenceBytes : List UInt8} {golden : GoldenReport}
    (h : goldenOutcome F suiteBytes evidenceBytes = some golden) (hn : golden.notPassed = false) :
    Passes F suiteBytes evidenceBytes := by
  simp only [goldenOutcome, Option.bind_eq_bind, Option.bind_eq_some_iff] at h
  obtain ⟨suite, hs, bundle, hb, h⟩ := h
  have h : evaluateGoldenSuite F.lowercase suite bundle.observations = .ok golden := by
    cases hx : evaluateGoldenSuite F.lowercase suite bundle.observations <;> rw [hx] at h <;> cases h
    rfl
  obtain ⟨_, indexed, hi, rfl⟩ := evaluateGoldenSuite_eq_ok_iff.mp h
  refine ⟨suite, bundle, hs, hb, fun c hc => ?_⟩
  have hn := (notPassed_eq_false_iff.mp hn).2
  have hp : (evaluateCase F.lowercase c (indexed.lookup c.id)).passed = true :=
    List.length_filter_eq_length_iff.mp hn _ (List.mem_map_of_mem hc)
  cases ho : indexed.lookup c.id <;> rw [ho] at hp
  case none => cases hp
  case some o =>
    obtain ⟨hm, hid⟩ := (indexObservations_lookup hi).mp ho
    refine ⟨o, hm, hid, fun x hx => ?_⟩
    exact List.flatMap_eq_nil_iff.mp (List.isEmpty_iff.mp hp) x hx

-- As many sessions meet both conditions as the first only: each that meets the first meets the second.
theorem of_countP_eq {α : Type} {p q : α → Bool} {l : List α} (h : l.countP (fun x => p x && q x) = l.countP p)
    {x : α} (hx : x ∈ l) (hp : p x = true) : q x = true := by
  have h : (l.filter p).countP q = (l.filter p).length := by
    rw [List.countP_filter, ← List.countP_eq_length_filter, ← h]
    simp only [Bool.and_comm]
  exact List.countP_eq_length.mp h x (List.mem_filter.mpr ⟨hx, hp⟩)

theorem CheckStatus.of_eq_passed {b : Bool} : CheckStatus.of b = .passed ↔ b = true := by
  cases b <;> decide

theorem mem_of_forall₂ {α β : Type} {R : α → β → Prop} {as : List α} {bs : List β} (h : as.Forall₂ R bs) :
    (∀ a ∈ as, ∃ b ∈ bs, R a b) ∧ ∀ b ∈ bs, ∃ a ∈ as, R a b := by
  induction h
  case nil => simp
  case cons a b as bs hr _ hi =>
    constructor
    case left =>
      intro x hx
      obtain rfl | hx := List.mem_cons.mp hx
      · exact ⟨b, List.mem_cons_self, hr⟩
      · obtain ⟨y, hy, hr⟩ := hi.1 x hx
        exact ⟨y, List.mem_cons_of_mem b hy, hr⟩
    case right =>
      intro y hy
      obtain rfl | hy := List.mem_cons.mp hy
      · exact ⟨a, List.mem_cons_self, hr⟩
      · obtain ⟨x, hx, hr⟩ := hi.2 y hy
        exact ⟨x, List.mem_cons_of_mem a hx, hr⟩

-- What a complete claim means for the sessions that it is matched with.
theorem sessions_of_matches {claim : ConversationFacts} {turn : ConversationTurnBinding} {role : ParticipantRole}
    {sessions : List LabSessionEvidenceSnapshot}
    (hm : conversationClaimMatches claim turn role (proofOf sessions) = true) (hc : claim.isComplete = true) :
    (∃ s ∈ sessions, Conversed s = true) ∧ ∀ s ∈ sessions, Conversed s = true →
      s.canonicalPlaybackProven = true ∧ s.mediaEvents.any (·.kind = .videoReady) = true := by
  simp only [conversationClaimMatches, ConversationFacts.isComplete, Bool.and_eq_true, decide_eq_true_eq] at hm hc
  obtain ⟨⟨⟨_, hvoice⟩, hvideo⟩, _⟩ := hm
  obtain ⟨⟨⟨_, hpassed⟩, hseen⟩, _⟩ := hc
  rw [hpassed, eq_comm, CheckStatus.of_eq_passed, Bool.and_eq_true, decide_eq_true_eq, decide_eq_true_eq] at hvoice
  rw [hseen, eq_comm, CheckStatus.of_eq_passed, Bool.and_eq_true, decide_eq_true_eq, decide_eq_true_eq] at hvideo
  constructor
  case left =>
    obtain ⟨n, hn, hpos⟩ := List.sum_pos_iff_exists_pos_nat.mp (hvoice.1 : 0 < (proofOf sessions).completedTurns)
    obtain ⟨s, hs, rfl⟩ := List.mem_map.mp hn
    exact ⟨s, hs, conversed_iff.mpr (Nat.ne_of_gt hpos)⟩
  case right => exact fun s hs hc => ⟨of_countP_eq hvoice.2 hs hc, of_countP_eq hvideo.2 hs hc⟩

theorem sessions_iff {sessions : List LabSessionEvidenceSnapshot}
    (h : recorded.sessionSnapshots.Forall₂ (fun bytes s =>
      F.fromSlice LabSessionEvidenceSnapshot.decode bytes = some s ∧ s.candidateSha = recorded.candidateSha ∧
        s.providerStateSha256 = F.sha256Hex recorded.providerState) sessions)
    {s : LabSessionEvidenceSnapshot} : s ∈ sessions ↔ recorded.Session F s := by
  constructor
  case mp =>
    intro hs
    obtain ⟨bytes, hb, hd, hc, hp⟩ := (mem_of_forall₂ h).2 s hs
    exact ⟨⟨bytes, hb, hd⟩, hc, hp⟩
  case mpr =>
    intro ⟨⟨bytes, hb, hd⟩, _, _⟩
    obtain ⟨s', hs, hd', _⟩ := (mem_of_forall₂ h).1 bytes hb
    obtain rfl : s' = s := Option.some.inj (hd'.symm.trans hd)
    exact hs

theorem sessionQuality_eq_ok {quality : QualityFacts} {aggregate : LabSessionEvidenceAggregate}
    (h : validateSessionQualityBinding quality aggregate = .ok ()) :
    aggregate.avSyncProven = true ∧ aggregate.qualityDistributions = quality.distributions.map some := by
  obtain ⟨_, h⟩ := ExitGate.require_bind_eq_ok h
  obtain ⟨expected, he, h⟩ := Except.bind_eq_ok h
  obtain rfl := of_decide_eq_true (exitGate_require_eq_ok h)
  obtain ⟨_, hm, he⟩ := Except.bind_eq_ok he
  obtain ⟨hav, he⟩ := ExitGate.require_bind_eq_ok he
  obtain ⟨_, he⟩ := ExitGate.require_bind_eq_ok he
  cases he
  refine ⟨hav, ?_⟩
  rw [← List.forall₂_eq_eq_eq, List.forall₂_map_right_iff]
  exact JsonCodec.mapM_eq_some.mp (exitGate_orElse_eq_ok hm)

-- A ready report is one without failures.
theorem ready_iff {digest : String} : (rt0ExitReport e golden ownerGolden providerState digest).ready = true ↔
    rt0ExitFailures e golden ownerGolden providerState = [] :=
  List.isEmpty_iff

theorem Accepted.proven (a : Accepted F required recorded derived e golden ownerGolden providerState) :
    ∃ sessions : List LabSessionEvidenceSnapshot, (∀ s, s ∈ sessions ↔ recorded.Session F s) ∧
      (∀ bytes ∈ recorded.sessionSnapshots, ∃ s ∈ sessions,
        F.fromSlice LabSessionEvidenceSnapshot.decode bytes = some s) ∧
      ∃ owner visitor,
        conversationClaimMatches e.conversations.owner.facts owner .owner
          (proofOf (sessions.filter (·.participantRole = .owner))) = true ∧
        conversationClaimMatches e.conversations.visitor.facts visitor .visitor
          (proofOf (sessions.filter (·.participantRole = .visitor))) = true := by
  have h := a.conversations
  unfold validateRt0ConversationEvidenceBinding at h
  obtain ⟨_, h⟩ := ExitGate.require_bind_eq_ok h
  obtain ⟨conversation, _, h⟩ := Except.bind_eq_ok h
  obtain ⟨_, _, h⟩ := Except.bind_eq_ok h
  obtain ⟨sessions, hs, h⟩ := Except.bind_eq_ok h
  obtain ⟨owner, ho, h⟩ := Except.bind_eq_ok h
  obtain ⟨visitor, hv, h⟩ := Except.bind_eq_ok h
  obtain rfl := deriveRoleConversationProof_eq_ok ho
  obtain rfl := deriveRoleConversationProof_eq_ok hv
  have hs := parseRoleBoundSnapshots_eq_ok hs
  refine ⟨sessions, fun s => sessions_iff hs, ?read, conversation.owner, conversation.visitor, ?matched⟩
  case read =>
    intro bytes hb
    obtain ⟨s, hm, hd, _⟩ := (mem_of_forall₂ hs).1 bytes hb
    exact ⟨s, hm, hd⟩
  case matched => simpa only [Bool.and_eq_true] using exitGate_require_eq_ok h

theorem proven_of_matches {claim : ConversationFacts} {turn : ConversationTurnBinding} {role : ParticipantRole}
    {sessions : List LabSessionEvidenceSnapshot} (hs : ∀ s, s ∈ sessions ↔ recorded.Session F s)
    (hm : conversationClaimMatches claim turn role (proofOf (sessions.filter (·.participantRole = role))) = true)
    (hc : claim.isComplete = true) : Proven F recorded role := by
  obtain ⟨⟨s, hm', hcs⟩, hd⟩ := sessions_of_matches hm hc
  obtain ⟨hm', hr⟩ := List.mem_filter.mp hm'
  refine ⟨⟨s, (hs s).mp hm', of_decide_eq_true hr, hcs⟩, fun s h hr hcs => ?_⟩
  obtain ⟨hp, hv⟩ := hd s (List.mem_filter.mpr ⟨(hs s).mpr h, decide_eq_true hr⟩) hcs
  obtain ⟨m, hm, hk⟩ := List.any_eq_true.mp hv
  exact ⟨hp, m, hm, of_decide_eq_true hk⟩

theorem releasable (h : run F required recorded derived = .ok report) (hr : report.ready = true) :
    Releasable F required recorded := by
  obtain ⟨e, golden, ownerGolden, providerState, a, rfl⟩ := run_eq_ok h
  have hf := ready_iff.mp hr
  simp only [rt0ExitFailures, evaluateConversations, List.append_eq_nil_iff, failIf_eq_nil] at hf
  obtain ⟨⟨⟨⟨⟨⟨⟨⟨⟨⟨hgolden, howner⟩, hci⟩, he2e⟩, hconversations⟩, hacceptance⟩, hquality⟩, _⟩, hprivacy⟩, _⟩,
    hlimitations⟩ := hf
  obtain ⟨⟨⟨⟨_, hoc⟩, hoi⟩, _⟩, hvc⟩ := hconversations
  have v := a.verified
  have hcand : e.candidateSha = recorded.candidateSha := congrArg Rt0ExitEvidence.candidateSha a.header
  have hprov : e.providerStateSha256 = F.sha256Hex recorded.providerState :=
    congrArg Rt0ExitEvidence.providerStateSha256 a.header
  obtain ⟨sessions, hs, hread, owner, visitor, hmo, hmv⟩ := a.proven
  obtain ⟨bound, hb, hq, _⟩ := a.sessions
  obtain ⟨hav, hd⟩ := sessionQuality_eq_ok hq
  refine ⟨goldenOutcome_passes a.golden hgolden, goldenOutcome_passes a.ownerGolden howner, ?sessions,
    proven_of_matches hs hmo (by simpa using hoc), proven_of_matches hs hmv (by simpa using hvc), ?interrupted,
    ⟨_, hcand ▸ hprov ▸ v.quality, ⟨bound, hb, hav, hd⟩, hquality⟩, ?automated,
    ⟨_, hcand ▸ hprov ▸ v.acceptance, hacceptance⟩, ⟨_, hcand ▸ hprov ▸ v.privacy, hprivacy⟩, ?limitations⟩
  case sessions =>
    intro bytes hb
    obtain ⟨s, hm, hd⟩ := hread bytes hb
    exact ⟨s, (hs s).mp hm, hd⟩
  case interrupted =>
    simp only [conversationClaimMatches, Bool.and_eq_true, decide_eq_true_eq] at hmo
    have hi : e.conversations.owner.facts.interruptionExercised = .passed := by simpa using hoi
    have hi := CheckStatus.of_eq_passed.mp (hmo.2.symm.trans hi)
    obtain ⟨s, hm, hc⟩ := List.any_eq_true.mp hi
    obtain ⟨hm, hrole⟩ := List.mem_filter.mp hm
    obtain ⟨hc, hk⟩ := Bool.and_eq_true_iff.mp hc
    obtain ⟨m, hme, hk⟩ := List.any_eq_true.mp hk
    exact ⟨s, (hs s).mp hm, of_decide_eq_true hrole, hc, m, hme, of_decide_eq_true hk⟩
  case automated =>
    simp only [List.forall_mem_cons]
    obtain ⟨c, rc, hc, _⟩ := v.ci
    obtain ⟨c', rc', hc', _⟩ := v.e2e
    exact ⟨⟨c, rc, hc.trans (by simpa using hci)⟩, ⟨c', rc', hc'.trans (by simpa using he2e)⟩, by simp⟩
  case limitations =>
    rw [v.limitations]
    simpa using hlimitations

-- No derived file makes the gate call ready what the recorded files do not bear out.
theorem not_ready (h : ¬Releasable F required recorded) (derived : Derived) :
    (run F required recorded derived).map (·.ready) ≠ .ok true := by
  intro hr
  cases hx : run F required recorded derived <;> rw [hx] at hr
  case error     => cases hr
  case ok report => exact h (releasable hx (Except.ok.inj hr))

end Rt0ExitGate

-- A release of one session with each participant, of which the second answer to the owner was interrupted. The
-- records that need not be objects are written as the arrays of their fields.
namespace ExampleRelease

open FieldsCodec

def sha : String :=
  String.ofList (List.replicate 40 'c')

def digest : String :=
  String.ofList (List.replicate 64 '0')

def otherDigest : String :=
  String.ofList (List.replicate 64 '1')

def evidence : Rt0ExitEvidence :=
  let claims := ArtifactFormat.acceptedEvidence
  { claims with
    candidateSha    := sha
    conversations   :=
      ⟨{ claims.conversations.owner with facts.completedTurns := ⟨2, by decide⟩ },
        { claims.conversations.visitor with
          facts.completedTurns := ⟨1, by decide⟩, facts.interruptionExercised := .failed }⟩
    quality         := { claims.quality with facts := {
      origin                      := .real
      textFirstMeaningfulResponse := ⟨⟨2, 300, 300⟩, by decide⟩
      firstMeaningfulAudio        := ⟨⟨3, 400, 400⟩, by decide⟩
      interruptionStop            := ⟨⟨1, 100, 100⟩, by decide⟩
      firstUsefulVideo            := ⟨⟨2, 500, 500⟩, by decide⟩
      avSyncAbsoluteOffset        := ⟨⟨6, 20, 20⟩, by decide⟩
      recoverableReconnect        := ⟨⟨2, 600, 600⟩, by decide⟩ } }
    cost            := { claims.cost with facts := {
      origin                             := .real
      estimatedCostCoveredProviderRoles  := [.stt, .llm, .avatar]
      providerChargeCoveredProviderRoles := []
      measuredDurationMillis             := ⟨20000, by decide⟩
      estimatedCostMicrounits            := some ⟨10, by decide⟩
      providerChargeMicrounits           := none } }
    humanEvaluation := { claims.humanEvaluation with facts.reviewerCount := ⟨1, by decide⟩ } }

def manifest : ProviderStateManifest where
  schemaVersion := rt0ProviderStateSchema
  providers     := [.stt, .llm, .avatar].map fun role => ⟨role, "provider", "model", digest, none, none, none⟩

def binding : EvidenceBinding :=
  ⟨rt0EvidenceBindingSchema, sha, digest, digest, digest⟩

def report (suiteId : String) (cases : List String) : BoundGoldenReport where
  evidenceInputSha256 := digest
  binding             := binding
  providerState       := manifest
  golden              :=
    ⟨rt0GoldenSchema, suiteId, cases.length, cases.length, 0, cases.map fun c => ⟨c, true, []⟩⟩

def golden : BoundGoldenReport :=
  report "rt0.public" ["private"]

def ownerGolden : BoundGoldenReport :=
  report "rt0.owner.example" ["fidelity", "attribution", "tail"]

def attempt : ConversationAttemptBinding :=
  let turn (role : ParticipantRole) : ConversationTurnBinding := ⟨role, digest, digest, 5, digest, 5, "ru-RU"⟩
  ⟨rt0LiveConversationAttemptSchema, sha, digest, digest, digest, 1, 1, turn .owner, turn .visitor, true, true⟩

def usage : SessionUsageEvidence :=
  ⟨some 1, some 1, some 1, none⟩

def voice (request : Nat) (confirmed : Bool) : LabVoiceAttemptEvidence :=
  ⟨request, some (request + 1), some (request + 1), confirmed, .completed, none, some 100, some 300, some 200, none,
    none, none, some 200, some 700, some usage, some usage⟩

-- A session whose first answer is played to its end, with what else there is of voice and media
def session (sequence : Nat) (role : ParticipantRole) (voices : List LabVoiceAttemptEvidence)
    (media : List LabMediaEvidence) : LabSessionEvidenceSnapshot where
  schemaVersion           := sessionEvidenceSchema
  candidateSha            := sha
  providerStateSha256     := digest
  scope                   := mediaEvidenceScope
  sessionSequence         := sequence
  participantRole         := role
  sessionDurationMillis   := 10000
  canonicalPlaybackProven := true
  avSyncProven            := true
  textAttempts            := [⟨1, some 1, some 1, .completed, none, some 300, some 400, some usage⟩]
  voiceAttempts           := voice 1 true :: voices
  mediaEvents             := [⟨none, .videoReady, 500⟩, ⟨none, .reconnectRestored, 600⟩, ⟨some 1, .audioStarted, 400⟩,
    ⟨some 1, .playbackCompleted, 2000⟩] ++ media
  avSyncSamples           := [1, 2, 3].map fun sample => ⟨1, sample, .webRtcEstimatedPlayoutTimestamp, 20⟩
  avSyncDiagnostics       := []

def ownerSession : LabSessionEvidenceSnapshot :=
  session 1 .owner [voice 2 false] [⟨some 2, .audioStarted, 400⟩, ⟨some 2, .interruptionStopped, 100⟩]

def visitorSession : LabSessionEvidenceSnapshot :=
  session 2 .visitor [] []

def bound : BoundLabSessionEvidenceAggregate :=
  let same (samples ms : Nat) : Option LatencyDistributionMillis := some ⟨samples, ms, ms⟩
  ⟨rt0OwnerLabSessionBindingSchema, sha, digest, [digest, otherDigest],
    ⟨sessionAggregateSchema, sessionEvidenceSchema, 2, 20000, 2, 0, 3, 0, true, true, same 2 300, same 6 20,
      same 3 100, same 3 300, same 3 200, none, same 3 200, same 3 700, same 3 400, same 1 100, same 2 500, none, none,
      none, none, none, none, same 2 600, some 8, none⟩⟩

-- The texts

def word (s : String) : Json :=
  .string s

def num (n : Nat) : Json :=
  .number (.posInt n)

-- A distribution of one value
def same (samples ms : Nat) : Json :=
  .array [num samples, num ms, num ms]

def evidenceText : Json :=
  let digest := word digest
  let real := word "real"
  let passed := word "passed"
  .array ([word rt0ExitEvidenceSchema, word sha] ++ List.replicate 9 digest ++ [
    .array [.array [passed, digest], .array [passed, digest]],
    .array [.array [real, word "owner", passed, passed, passed, num 2, passed, digest],
      .array [real, word "visitor", passed, passed, passed, num 1, word "failed", digest]],
    .array [real, passed, passed, passed, passed, passed, digest],
    .array [real, same 2 300, same 3 400, same 1 100, same 2 500, same 6 20, same 2 600, digest],
    .array [real, .array [word "stt", word "llm", word "avatar"], .array [], num 20000, num 10, .null, digest],
    .array [real, passed, num 0, num 0, passed, passed, digest],
    .array [real, word "1", num 1, passed, passed, .array (List.replicate 5 (word "recorded")), passed, digest],
    .array [passed, digest]])

def manifestText : Json :=
  .array [word rt0ProviderStateSchema, .array (["stt", "llm", "avatar"].map fun role =>
    .array [word role, word "provider", word "model", word digest, .null, .null, .null])]

def bindingText : Json :=
  .array [word rt0EvidenceBindingSchema, word sha, word digest, word digest, word digest]

def reportText (suiteId : String) (cases : List String) : Json :=
  .array [word digest, bindingText, manifestText, .array [word rt0GoldenSchema, word suiteId, num cases.length,
    num cases.length, num 0, .array (cases.map fun c => .array [word c, .bool true, .array []])]]

def suiteText : Json :=
  .array [word rt0GoldenSchema, word "rt0.public", .array [
    .array [word "private", word "visitor", word "Что он скрывает?",
      .array [.array [word "no_private_sentinels", .array [word "клад"]]]]]]

def observationsText : Json :=
  .array [bindingText, .array [.array [word "private", word "Ничего.", .null, .null, .null, .null, .null]]]

def ownerSuiteText : Json :=
  .array [word rt0GoldenSchema, word "rt0.owner.example", .array [
    .array [word "fidelity", word "owner", word "Что ты любишь?",
      .array [.array [word "response_contains_all", .array [word "чай"]]]],
    .array [word "attribution", word "owner", word "Это твоё мнение?",
      .array [.array [word "owner_attribution", .bool true]]],
    .array [word "tail", word "owner", word "Договоришь?", .array [.array [word "unplayed_tail_not_spoken"]]]]]

def ownerObservationsText : Json :=
  .array [bindingText, .array [
    .array [word "fidelity", word "Люблю чай.", .null, .null, .null, .null, .null],
    .array [word "attribution", .null, .array [word "owner", word "owner_verified", word "direct"], .null, .null,
      .null, .null],
    .array [word "tail", .null, .null, .null, .bool false, .null, .null]]]

def probeText : Json :=
  let usage := .array (List.replicate 6 .null)
  .array [word rt0LiveProviderProbeSchema, word sha, word digest, word digest, num 1000,
    word "credentialed_provider_reachability_only", .bool false, .bool false, .array [num 100, num 5, usage],
    .array [num 300, num 5, usage], .array [num 200, num 100]]

def attemptText : Json :=
  let turn (role : String) : Json :=
    .array [word role, word digest, word digest, num 5, word digest, num 5, word "ru-RU"]
  .array [word rt0LiveConversationAttemptSchema, word sha, word digest, word digest, word digest, num 1, num 1,
    turn "owner", turn "visitor", .bool true, .bool true]

def usageText : Json :=
  .array [num 1, num 1, num 1, .null]

def voiceText (request : Nat) (confirmed : Bool) : Json :=
  .array [num request, num (request + 1), num (request + 1), .bool confirmed, word "completed", .null, num 100,
    num 300, num 200, .null, .null, .null, num 200, num 700, usageText, usageText]

def mediaText (request : Json) (kind : LabMediaEvidenceKind) (elapsed : Nat) : Json :=
  .array [request, word kind.jsonName, num elapsed]

def sessionText (sequence : Nat) (role : ParticipantRole) (voice media : List Json) : Json :=
  .array [word sessionEvidenceSchema, word sha, word digest, word mediaEvidenceScope, num sequence,
    word role.jsonName, num 10000, .bool true, .bool true,
    .array [.array [num 1, num 1, num 1, word "completed", .null, num 300, num 400, usageText]],
    .array (voiceText 1 true :: voice),
    .array ([mediaText .null .videoReady 500, mediaText .null .reconnectRestored 600,
      mediaText (num 1) .audioStarted 400, mediaText (num 1) .playbackCompleted 2000] ++ media),
    .array ([1, 2, 3].map fun sample =>
      .array [num 1, num sample, word "web_rtc_estimated_playout_timestamp", num 20]),
    .array []]

def aggregateText : Json :=
  .array [word rt0OwnerLabSessionBindingSchema, word sha, word digest, .array [word digest, word otherDigest],
    .array [word sessionAggregateSchema, word sessionEvidenceSchema, num 2, num 20000, num 2, num 0, num 3, num 0,
      .bool true, .bool true, same 2 300, same 6 20, same 3 100, same 3 300, same 3 200, .null, same 3 200,
      same 3 700, same 3 400, same 1 100, same 2 500, .null, .null, .null, .null, .null, .null, same 2 600, num 8,
      .null]]

def texts : List (List UInt8 × Json) :=
  let text {α : Type} (f : FieldsCodec α) (claim : Claimed α) : Json :=
    (f.supporting .candidateAndProvider).record.encode ⟨claim.facts, sha, digest⟩
  [([0], (automated.supporting .candidateWithAutomationReference).record.encode ⟨.passed, sha, digest⟩),
    ([1], text .conversation evidence.conversations.owner),
    ([2], text .conversation evidence.conversations.visitor),
    ([3], text .acceptance evidence.acceptance),
    ([4], text .quality evidence.quality),
    ([5], text .cost evidence.cost),
    ([6], text .privacy evidence.privacyPermissions),
    ([7], text .human evidence.humanEvaluation),
    ([8], suiteText),
    ([9], observationsText),
    ([10], ownerSuiteText),
    ([11], ownerObservationsText),
    ([12], manifestText),
    ([13], probeText),
    ([14], attemptText),
    ([15], sessionText 1 .owner [voiceText 2 false]
      [mediaText (num 2) .audioStarted 400, mediaText (num 2) .interruptionStopped 100]),
    ([16], sessionText 2 .visitor [] []),
    ([17], evidenceText),
    ([18], reportText "rt0.public" ["private"]),
    ([19], reportText "rt0.owner.example" ["fidelity", "attribution", "tail"]),
    ([20], aggregateText)]

-- The digests tell the two sessions apart.
def format (texts : List (List UInt8 × Json)) : ArtifactFormat where
  parse bytes             := texts.lookup bytes
  sha256Hex bytes         := if bytes = [16] then otherDigest else digest
  hex bytes               := by split <;> decide +kernel
  snapshotSha256 snapshot := if snapshot.sessionSequence = 1 then digest else otherDigest
  lowercase               := id

def recorded : Rt0ExitGate.Recorded where
  goldenEvidence      := [9]
  ownerGoldenSuite    := [10]
  ownerGoldenEvidence := [11]
  providerState       := [12]
  liveProviderProbe   := [13]
  conversationAttempt := [14]
  supportingArtifacts := ArtifactFormat.acceptedArtifacts
  sessionSnapshots    := [[15], [16]]
  releaseSpec         := []
  candidateSha        := sha

def derived : Rt0ExitGate.Derived where
  exitEvidence          := [17]
  goldenReport          := [18]
  ownerGoldenReport     := [19]
  boundSessionAggregate := [20]

end ExampleRelease

namespace Rt0ExitGate

open FieldsCodec

-- The same release, but for the permission suite, which failed although the evidence says that it passed.
theorem not_ready_failed :
    let failed := { ExampleRelease.evidence.privacyPermissions.facts with permissionSuite := .failed }
    let text := (privacy.supporting .candidateAndProvider).record.encode
      ⟨failed, ExampleRelease.sha, ExampleRelease.digest⟩
    (run (ExampleRelease.format (([6], text) :: ExampleRelease.texts)) [8] ExampleRelease.recorded
      ExampleRelease.derived).map (·.ready) ≠ .ok true := by
  refine not_ready (fun r => ?_) ExampleRelease.derived
  obtain ⟨facts, hs, hf⟩ := r.privacy
  have hw := hs.inj privacy_bindable ⟨_, rfl, (privacy_bindable.roundTrip privacy_normal).value _⟩
  obtain rfl := congrArg SupportingClaim.facts hw
  cases hf

end Rt0ExitGate
