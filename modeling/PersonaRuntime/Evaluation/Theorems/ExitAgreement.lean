import Mathlib.Tactic.MkIffOfInductiveProp
import PersonaRuntime.Evaluation.Theorems.ExitGate

namespace ArtifactFormat

open FieldsCodec

variable {F : ArtifactFormat} {α : Type} {f : FieldsCodec α} {binding : ProjectionBinding} {bytes : List UInt8}
variable {candidateSha providerStateSha256 digest : String} {artifacts : Rt0SupportingArtifacts}

-- No object of the text has a key twice.
def WrittenOnce (F : ArtifactFormat) (bytes : List UInt8) : Prop :=
  ∀ j, F.parse bytes = some j → j.Unrepeated

def IsObject (F : ArtifactFormat) (bytes : List UInt8) : Prop :=
  ∃ members, F.parse bytes = some (.object members)

theorem Shows.reads_iff {c : SupportingClaim α} (hb : f.Bindable) (h : F.Shows f bytes c) :
    F.Reads f .candidateAndProvider bytes c ↔ F.WrittenOnce bytes := by
  obtain ⟨j, hj, he⟩ := h
  have hi := (record_lawful hb.supporting_lawful).decode_iff he
  constructor
  case mp =>
    intro ⟨j', hj', hd⟩ j'' hj''
    obtain rfl := Option.some.inj (hj.symm.trans hj')
    obtain rfl := Option.some.inj (hj.symm.trans hj'')
    exact hi.mp hd
  case mpr => exact fun h => ⟨j, hj, hi.mpr (h j hj)⟩

-- An artifact that is read at all says what it shows, and has every key once.
theorem Shows.of_reads {c c' : SupportingClaim α} (hb : f.Bindable) (hn : f.Normal) (h : F.Shows f bytes c)
    (hr : F.Reads f .candidateAndProvider bytes c') : c' = c ∧ F.WrittenOnce bytes := by
  obtain ⟨j, hj, he⟩ := id h
  obtain ⟨j', hj', hd⟩ := id hr
  obtain rfl := Option.some.inj (hj.symm.trans hj')
  have hv := (record_lawful hb.supporting_lawful).decode_value hd
  rw [he, (hb.roundTrip hn).read] at hv
  obtain rfl := Option.some.inj hv
  exact ⟨rfl, (h.reads_iff hb).mp hr⟩

theorem Shows.isObject {c : SupportingClaim α} (h : F.Shows f bytes c) : F.IsObject bytes := by
  obtain ⟨j, hj, he⟩ := h
  cases j
  case object members => exact ⟨members, hj⟩
  all_goals simp [Json.value, record] at he

-- The assembler projects the claim of an artifact exactly where the artifact is an object.
theorem projectedClaim_of_reads {c : SupportingClaim α} (hb : f.Bindable) (hr : F.Reads f binding bytes c)
    (ho : F.IsObject bytes) : F.projectedClaim f bytes digest binding = .ok ⟨c.facts, digest⟩ := by
  obtain ⟨members, hm⟩ := ho
  obtain ⟨j, hj, hd⟩ := hr
  obtain rfl := Option.some.inj (hm.symm.trans hj)
  have hv := (record_lawful hb.supporting_lawful).decode_value hd
  simp only [Json.value] at hv
  have hs : (Json.valueMembers [] members).Sorted := Json.sorted_valueMembers JsonMembers.sorted_nil
  have hp : (projectedMembers (Json.valueMembers [] members) digest binding).bind
      (fun ms => f.claimed.record.decode (.object ms)) = some ⟨c.facts, digest⟩ := hb.projected hs hv
  simp only [projectedClaim, hj, Option.bind_eq_bind, Option.bind_some, Json.value]
  rw [hp]
  rfl

theorem isObject_of_projectedClaim {claim : Claimed α} (h : F.projectedClaim f bytes digest binding = .ok claim) :
    F.IsObject bytes := by
  have h := assembly_orElse_eq_ok h
  obtain ⟨j, hj, h⟩ := Option.bind_eq_some_iff.mp h
  cases j
  case object members => exact ⟨members, hj⟩
  all_goals simp [Json.value] at h

theorem fromSlice_of_reads {c : SupportingClaim α} (h : F.Reads f binding bytes c) :
    F.fromSlice (f.supporting binding).record.decode bytes = some c := by
  obtain ⟨j, hj, hd⟩ := h
  rw [fromSlice, hj]
  exact hd

theorem validateCandidate_of_valid (hs : validGitSha candidateSha = true) :
    Rt0SupportingPreflight.validateCandidate candidateSha candidateSha = .ok () := by
  simp [Rt0SupportingPreflight.validateCandidate, hs]

theorem validateAutomated_of_reads {c : SupportingClaim CheckStatus} (hs : validGitSha candidateSha = true)
    (hr : F.Reads .automated .candidateWithAutomationReference bytes c) (hc : c.candidateSha = candidateSha)
    (hv : EvidenceBinding.validSha256 c.boundSha256 = true) : F.validateAutomated bytes candidateSha = .ok () := by
  subst hc
  simp [validateAutomated, fromSlice_of_reads hr, validateCandidate_of_valid hs, hv, Rt0SupportingPreflight.orElse,
    Rt0SupportingPreflight.require, Except.ok_bind]

theorem validateReal_of_reads {origin : α → EvidenceOrigin} {check : α → Preflight Unit} {facts : α}
    (hs : validGitSha candidateSha = true)
    (hr : F.Reads f .candidateAndProvider bytes ⟨facts, candidateSha, providerStateSha256⟩)
    (ho : origin facts = .real) (hc : check facts = .ok ()) :
    F.validateReal f origin check bytes candidateSha providerStateSha256 = .ok () := by
  simp only [validateReal, fromSlice_of_reads hr, Rt0SupportingPreflight.orElse, Except.ok_bind,
    Rt0SupportingPreflight.validateRealBinding, ho, validateCandidate_of_valid hs, ne_eq, not_true_eq_false, if_false,
    hc]
  rfl

theorem require_true {error : Rt0ExitEvidenceError} {b : Bool} (h : b = true) : ExitGate.require error b = .ok () := by
  rw [h]
  rfl

theorem validateReal_check {origin : α → EvidenceOrigin} {check : α → Preflight Unit}
    (h : F.validateReal f origin check bytes candidateSha providerStateSha256 = .ok ()) :
    ∃ c, F.Reads f .candidateAndProvider bytes c ∧ check c.facts = .ok () := by
  obtain ⟨c, hc, h⟩ := Except.bind_eq_ok h
  obtain ⟨_, _, h⟩ := Except.bind_eq_ok h
  exact ⟨c, fromSlice_eq_some (preflight_orElse_eq_ok hc), h⟩

end ArtifactFormat

namespace Rt0ExitGate

open ArtifactFormat FieldsCodec

variable {F : ArtifactFormat} {required : List UInt8} {recorded : Recorded} {derived : Derived}
variable {e : Rt0ExitEvidence} {golden ownerGolden : GoldenReport} {providerState : ProviderStateManifest}

-- What the assembler asks of the artifacts and the gate does not.
structure Assemblable (F : ArtifactFormat) (a : Rt0SupportingArtifacts) : Prop where
  objects : ∀ bytes ∈ [a.ci, a.e2e], F.IsObject bytes
  once    : ∀ bytes ∈ [a.ownerConversation, a.visitorConversation, a.acceptance, a.quality, a.cost,
    a.privacyPermissions, a.humanEvaluation], F.WrittenOnce bytes
  voices  : ∀ c, F.Shows .human a.humanEvaluation c → c.facts.dimensions.isComplete = true

theorem preflight_human {artifacts : Rt0SupportingArtifacts} {providerStateBytes : List UInt8} {candidateSha : String}
    {report : Rt0SupportingPreflightReport}
    (h : F.preflightRt0SupportingArtifacts artifacts providerStateBytes candidateSha = .ok report) :
    ∃ c, F.Reads .human .candidateAndProvider artifacts.humanEvaluation c ∧ c.facts.dimensions.isComplete = true := by
  obtain ⟨_, _, h⟩ := Except.bind_eq_ok h
  obtain ⟨_, _, h⟩ := Except.bind_eq_ok h
  obtain ⟨_, _, h⟩ := Except.bind_eq_ok h
  obtain ⟨_, _, h⟩ := Except.bind_eq_ok h
  obtain ⟨_, _, h⟩ := Except.bind_eq_ok h
  obtain ⟨_, _, h⟩ := Except.bind_eq_ok h
  obtain ⟨_, _, h⟩ := Except.bind_eq_ok h
  obtain ⟨_, _, h⟩ := Except.bind_eq_ok h
  obtain ⟨_, _, h⟩ := Except.bind_eq_ok h
  obtain ⟨_, _, h⟩ := Except.bind_eq_ok h
  obtain ⟨_, _, h⟩ := Except.bind_eq_ok h
  obtain ⟨_, human, h⟩ := Except.bind_eq_ok h
  obtain ⟨c, hr, hc⟩ := validateReal_check human
  exact ⟨c, hr, (Bool.and_eq_true_iff.mp (preflight_require_eq_ok hc)).2⟩

theorem assemblable_of_ok {inputs : Rt0ExitAssemblyInputs} {e' : Rt0ExitEvidence} (v : F.Verified inputs.supporting e)
    (h : F.assembleRt0ExitEvidence inputs = .ok e') : Assemblable F inputs.supporting := by
  have c := assemble_eq_ok h
  obtain ⟨_, hp, h⟩ := Except.bind_eq_ok h
  obtain ⟨_, _, h⟩ := Except.bind_eq_ok h
  obtain ⟨_, hci, h⟩ := Except.bind_eq_ok h
  obtain ⟨_, he2e, h⟩ := Except.bind_eq_ok h
  refine ⟨?objects, ?once, ?voices⟩
  case objects =>
    simp only [List.forall_mem_cons]
    exact ⟨isObject_of_projectedClaim hci, isObject_of_projectedClaim he2e, by simp⟩
  case once =>
    simp only [List.forall_mem_cons]
    exact ⟨(v.owner.of_reads conversation_bindable conversation_normal c.owner).2,
      (v.visitor.of_reads conversation_bindable conversation_normal c.visitor).2,
      (v.acceptance.of_reads acceptance_bindable acceptance_normal c.acceptance).2,
      (v.quality.of_reads quality_bindable quality_normal c.quality).2,
      (v.cost.of_reads cost_bindable cost_normal c.cost).2,
      (v.privacy.of_reads privacy_bindable privacy_normal c.privacy).2,
      (v.human.of_reads human_bindable human_normal c.human).2, by simp⟩
  case voices =>
    intro claim hs
    obtain ⟨claim', hr, hc⟩ := preflight_human (Except.mapError_eq_ok.mp hp)
    obtain ⟨rfl, _⟩ := hs.of_reads human_bindable human_normal hr
    exact hc

theorem roles_of_binding {conversations : ConversationPairEvidence} {attempt : List UInt8}
    {snapshots : List (List UInt8)} {candidateSha digest : String}
    (h : F.validateRt0ConversationEvidenceBinding conversations attempt snapshots candidateSha digest = .ok ()) :
    conversations.owner.facts.role = .owner ∧ conversations.visitor.facts.role = .visitor := by
  unfold validateRt0ConversationEvidenceBinding at h
  simpa using (ExitGate.require_bind_eq_ok h).1

-- The evidence of a release is real, and it and its limitations were reviewed by somebody.
structure Reviewed (e : Rt0ExitEvidence) : Prop where
  owner       : e.conversations.owner.facts.origin = .real
  visitor     : e.conversations.visitor.facts.origin = .real
  acceptance  : e.acceptance.facts.origin = .real
  quality     : e.quality.facts.origin = .real
  cost        : e.cost.facts.origin = .real
  privacy     : e.privacyPermissions.facts.origin = .real
  human       : e.humanEvaluation.facts.origin = .real
  reviewers   : e.humanEvaluation.facts.reviewerCount.val ≠ 0
  limitations : e.knownLimitations.reviewStatus = .passed

theorem reviewed_of_ready (h : rt0ExitFailures e golden ownerGolden providerState = []) : Reviewed e := by
  simp only [rt0ExitFailures, evaluateConversations, evaluateAcceptance, evaluateQuality, evaluateCost,
    evaluatePrivacy, evaluateHuman, List.append_eq_nil_iff, failIf_eq_nil, decide_eq_false_iff_not, ne_eq, not_not,
    Bool.or_eq_false_iff, and_assoc] at h
  obtain ⟨_, _, _, _, howner, _, _, hvisitor, _, hacceptance, _, _, _, _, _, hquality, _, _, _, _, _, _, _, _, h⟩ := h
  obtain ⟨hcost, _, _, _, hprivacy, _, _, _, _, _, hhuman, _, _, hreviewers, _, _, _, _, _, _, hlimitations⟩ := h
  exact ⟨howner, hvisitor, hacceptance, hquality, hcost, hprivacy, hhuman, hreviewers, hlimitations⟩

-- The artifacts of a release pass the preflight when they are assemblable.
theorem preflight_of_assemblable (a : Accepted F required recorded derived e golden ownerGolden providerState)
    (hf : rt0ExitFailures e golden ownerGolden providerState = []) (h : Assemblable F recorded.supportingArtifacts) :
    F.preflightRt0SupportingArtifacts recorded.supportingArtifacts recorded.providerState recorded.candidateSha =
      .ok {
        schemaVersion                := rt0SupportingPreflightSchema
        candidateSha                 := recorded.candidateSha
        providerStateSha256          := F.sha256Hex recorded.providerState
        knownLimitationsReviewStatus := e.knownLimitations.reviewStatus
        preflightComplete            := true
        artifactDigests              := {
          ci                  := F.sha256Hex recorded.supportingArtifacts.ci
          e2e                 := F.sha256Hex recorded.supportingArtifacts.e2e
          ownerConversation   := F.sha256Hex recorded.supportingArtifacts.ownerConversation
          visitorConversation := F.sha256Hex recorded.supportingArtifacts.visitorConversation
          acceptance          := F.sha256Hex recorded.supportingArtifacts.acceptance
          quality             := F.sha256Hex recorded.supportingArtifacts.quality
          cost                := F.sha256Hex recorded.supportingArtifacts.cost
          privacyPermissions  := F.sha256Hex recorded.supportingArtifacts.privacyPermissions
          humanEvaluation     := F.sha256Hex recorded.supportingArtifacts.humanEvaluation
          knownLimitations    := F.sha256Hex recorded.supportingArtifacts.knownLimitations } } := by
  have v := a.verified
  have hcand : e.candidateSha = recorded.candidateSha := congrArg Rt0ExitEvidence.candidateSha a.header
  have hprov : e.providerStateSha256 = F.sha256Hex recorded.providerState :=
    congrArg Rt0ExitEvidence.providerStateSha256 a.header
  have r := reviewed_of_ready hf
  obtain ⟨ci, rci, _, hci, vci⟩ := v.ci
  obtain ⟨e2e, re2e, _, he2e, ve2e⟩ := v.e2e
  obtain ⟨hro, hrv⟩ := roles_of_binding a.conversations
  obtain ⟨bound, _, hq, _⟩ := a.sessions
  have hlatencies := (ExitGate.require_bind_eq_ok hq).1
  have hvoices := h.voices _ v.human
  have once := h.once
  simp only [List.forall_mem_cons] at once
  obtain ⟨o₁, o₂, o₃, o₄, o₅, o₆, o₇, _⟩ := once
  rw [hcand] at hci he2e
  have hp {x : Bool} {error : Rt0SupportingPreflightError} (hx : x = true) :
      Rt0SupportingPreflight.require error x = .ok () := by
    rw [hx]
    rfl
  have s := a.candidate
  have h₃ : F.validateConversation .owner _ _ _ = .ok () :=
    validateReal_of_reads s ((hcand ▸ hprov ▸ v.owner).reads_iff conversation_bindable |>.mpr o₁) r.owner
      (hp (decide_eq_true hro))
  have h₄ : F.validateConversation .visitor _ _ _ = .ok () :=
    validateReal_of_reads s ((hcand ▸ hprov ▸ v.visitor).reads_iff conversation_bindable |>.mpr o₂) r.visitor
      (hp (decide_eq_true hrv))
  have h₅ : F.validateAcceptance _ _ _ = .ok () :=
    validateReal_of_reads s ((hcand ▸ hprov ▸ v.acceptance).reads_iff acceptance_bindable |>.mpr o₃) r.acceptance rfl
  have h₆ : F.validateQuality _ _ _ = .ok () :=
    validateReal_of_reads s ((hcand ▸ hprov ▸ v.quality).reads_iff quality_bindable |>.mpr o₄) r.quality (hp hlatencies)
  have h₇ : F.validateCost _ _ _ = .ok () :=
    validateReal_of_reads s ((hcand ▸ hprov ▸ v.cost).reads_iff cost_bindable |>.mpr o₅) r.cost rfl
  have h₈ : F.validatePrivacy _ _ _ = .ok () :=
    validateReal_of_reads s ((hcand ▸ hprov ▸ v.privacy).reads_iff privacy_bindable |>.mpr o₆) r.privacy rfl
  have h₉ : F.validateHuman _ _ _ = .ok () :=
    validateReal_of_reads s ((hcand ▸ hprov ▸ v.human).reads_iff human_bindable |>.mpr o₇) r.human
      (hp (by simp [a.rubric, r.reviewers, hvoices]))
  simp only [preflightRt0SupportingArtifacts, hp s, a.providerState, a.manifest, Rt0SupportingPreflight.orElse,
    validateAutomated_of_reads s rci hci vci, validateAutomated_of_reads s re2e he2e ve2e, h₃, h₄, h₅, h₆, h₇, h₈, h₉,
    v.limitations, decide_true, Bool.and_self, hp rfl, Except.ok_bind]
  rfl

-- What the assembler makes of assemblable artifacts is the evidence that was accepted with them.
theorem assembled_of_assemblable (a : Accepted F required recorded derived e golden ownerGolden providerState)
    (hf : rt0ExitFailures e golden ownerGolden providerState = []) (h : Assemblable F recorded.supportingArtifacts) :
    F.assembleRt0ExitEvidence (assemblyInputs recorded derived) = .ok e := by
  have v := a.verified
  obtain ⟨ci, rci, _⟩ := v.ci
  obtain ⟨e2e, re2e, _⟩ := v.e2e
  obtain ⟨bound, _, hquality, hcost, hcore⟩ := a.sessions
  have objects := h.objects
  have once := h.once
  simp only [List.forall_mem_cons] at objects once
  obtain ⟨o₁, o₂, o₃, o₄, o₅, o₆, o₇, _⟩ := once
  have he := a.evidence
  simp only [Recorded.evidence, v.limitations, automatedShown_of_reads rci, automatedShown_of_reads re2e,
    shown_of_shows conversation_bindable conversation_normal v.owner,
    shown_of_shows conversation_bindable conversation_normal v.visitor,
    shown_of_shows acceptance_bindable acceptance_normal v.acceptance,
    shown_of_shows quality_bindable quality_normal v.quality,
    shown_of_shows cost_bindable cost_normal v.cost,
    shown_of_shows privacy_bindable privacy_normal v.privacy,
    shown_of_shows human_bindable human_normal v.human, Option.bind_eq_bind, Option.bind_some, Option.pure_def,
    Option.some.injEq] at he
  simp only [assembleRt0ExitEvidence, assemblyInputs, preflight_of_assemblable a hf h, Assembly.orFail,
    Except.mapError_ok, Except.ok_bind]
  rw [assemblyInputs] at hcore
  simp only [hcore, Except.ok_bind,
    projectedClaim_of_reads automated_bindable rci objects.1,
    projectedClaim_of_reads automated_bindable re2e objects.2.1,
    projectedClaim_of_reads conversation_bindable ((v.owner.reads_iff conversation_bindable).mpr o₁) v.owner.isObject,
    projectedClaim_of_reads conversation_bindable ((v.visitor.reads_iff conversation_bindable).mpr o₂)
      v.visitor.isObject,
    projectedClaim_of_reads acceptance_bindable ((v.acceptance.reads_iff acceptance_bindable).mpr o₃)
      v.acceptance.isObject,
    projectedClaim_of_reads quality_bindable ((v.quality.reads_iff quality_bindable).mpr o₄) v.quality.isObject,
    projectedClaim_of_reads cost_bindable ((v.cost.reads_iff cost_bindable).mpr o₅) v.cost.isObject,
    projectedClaim_of_reads privacy_bindable ((v.privacy.reads_iff privacy_bindable).mpr o₆) v.privacy.isObject,
    projectedClaim_of_reads human_bindable ((v.human.reads_iff human_bindable).mpr o₇) v.human.isObject,
    hquality, hcost, Except.mapError_ok]
  exact congrArg Except.ok he

-- A ready release can be assembled from the same files, as the very evidence it was called ready with, exactly
-- when its artifacts have every key once, those of the automation are objects and no voice review is deferred.
theorem ready_assembled (F : ArtifactFormat) (required : List UInt8) (recorded : Recorded) (derived : Derived) :
    (run F required recorded derived).toOption.map (fun report => report.ready = true ∧
        (F.assembleRt0ExitEvidence (assemblyInputs recorded derived)).toOption =
          recorded.evidence F (derived.digests F)) =
      (run F required recorded derived).toOption.map fun report =>
        report.ready = true ∧ Assemblable F recorded.supportingArtifacts := by
  cases hx : run F required recorded derived
  case error     => rfl
  case ok report =>
    obtain ⟨e, golden, ownerGolden, providerState, a, rfl⟩ := run_eq_ok hx
    refine congrArg some (propext (and_congr_right fun hr => ?_))
    rw [a.evidence]
    constructor
    case mp =>
      intro h
      cases ha : F.assembleRt0ExitEvidence (assemblyInputs recorded derived) <;> rw [ha] at h <;> cases h
      have hs : Assemblable F (assemblyInputs recorded derived).supporting := assemblable_of_ok a.verified ha
      exact hs
    case mpr => exact fun h => Except.toOption_eq_some (assembled_of_assemblable a (ready_iff.mp hr) h)

end Rt0ExitGate

namespace ExampleRelease

open ArtifactFormat FieldsCodec Rt0ExitGate

theorem shas_valid : EvidenceBinding.validSha256 digest = true ∧ EvidenceBinding.validSha256 otherDigest = true ∧
    validGitSha sha = true ∧ otherDigest ≠ digest := by
  decide +kernel

theorem not_blank : ∀ s ∈ ["provider", "model", "ru-RU", "private", "1"], isBlank s = false := by
  decide +kernel

theorem digest_valid : EvidenceBinding.validSha256 digest = true :=
  shas_valid.1

theorem sha_valid : validGitSha sha = true :=
  shas_valid.2.2.1

-- What the files are read as. Of the golden sets and the probe only what becomes of them is stated.
@[mk_iff]
structure Read : Prop where
  evidence       : (format texts).fromSlice Rt0ExitEvidence.decode [17] = some evidence
  golden         : (format texts).fromSlice BoundGoldenReport.decode [18] = some golden
  ownerGolden    : (format texts).fromSlice BoundGoldenReport.decode [19] = some ownerGolden
  manifest       : (format texts).fromSlice ProviderStateManifest.decode [12] = some manifest
  attempt        : (format texts).fromSlice ConversationAttemptBinding.decode [14] = some attempt
  ownerSession   : (format texts).fromSlice LabSessionEvidenceSnapshot.decode [15] = some ownerSession
  visitorSession : (format texts).fromSlice LabSessionEvidenceSnapshot.decode [16] = some visitorSession
  bound          : (format texts).fromSlice BoundLabSessionEvidenceAggregate.decode [20] = some bound
  publicSet      : (do
    let suite ← (format texts).fromSlice GoldenSuite.decode [8]
    let bundle ← (format texts).fromSlice GoldenEvidenceBundle.decode [9]
    return (bundle.binding, evaluateGoldenSuite id suite bundle.observations)) =
      some (binding, .ok ExampleRelease.golden.golden)
  ownerSet       : (do
    let suite ← (format texts).fromSlice GoldenSuite.decode [10]
    let bundle ← (format texts).fromSlice GoldenEvidenceBundle.decode [11]
    return (bundle.binding, validateOwnerSuite suite, evaluateGoldenSuite id suite bundle.observations)) =
      some (binding, .ok (), .ok ExampleRelease.ownerGolden.golden)
  probe          : ((format texts).fromSlice LiveProviderProbeReceipt.decode [13]).map
    (validateLiveProviderProbe · sha digest) = some (.ok ())

-- What the sessions and the claims come to.
@[mk_iff]
structure Computed : Prop where
  aggregate : aggregateOwnerLabSessionEvidence (format texts).snapshotSha256 [ownerSession, visitorSession] =
    .ok bound.aggregate
  owner     : deriveRoleConversationProof [ownerSession, visitorSession] .owner = .ok ⟨2, 1, 1, 1, true⟩
  visitor   : deriveRoleConversationProof [ownerSession, visitorSession] .visitor = .ok ⟨1, 1, 1, 1, false⟩
  claims    : conversationClaimMatches evidence.conversations.owner.facts attempt.owner .owner ⟨2, 1, 1, 1, true⟩ &&
    conversationClaimMatches evidence.conversations.visitor.facts attempt.visitor .visitor ⟨1, 1, 1, 1, false⟩
  quality   : validateSessionQualityBinding evidence.quality.facts bound.aggregate = .ok ()
  cost      : validateSessionCostBinding evidence.cost.facts bound.aggregate = .ok ()
  reviewed  : parseKnownLimitationsReviewStatus recorded.supportingArtifacts.knownLimitations = some .passed
  voice     : voiceMarkerMatches recorded.supportingArtifacts.knownLimitations none = true
  failures  : rt0ExitFailures evidence golden.golden ownerGolden.golden manifest = []

theorem manifest_valid : validateProviderState manifest.providers = .ok () := by
  have hp (role : ProviderRole) (roles : List ProviderRole) (hr : role ∉ roles) (ht : role ≠ .tts) :
      validateProvider roles ⟨role, "provider", "model", digest, none, none, none⟩ = .ok (role :: roles) := by
    simp [validateProvider, hr, not_blank, digest_valid, ProviderStateBinding.validVoice, ht]
  simp [manifest, validateProviderState, hp, Except.ok_bind]

theorem attempt_valid : validateConversationAttemptBinding attempt sha digest = .ok () := by
  have ht (role : ParticipantRole) :
      validConversationTurn ⟨role, digest, digest, 5, digest, 5, "ru-RU"⟩ role = true := by
    simp [validConversationTurn, digest_valid, not_blank]
  simp [validateConversationAttemptBinding, attempt, sha_valid, digest_valid, ht]

theorem bound_valid : validateBoundSessionAggregate bound sha digest = .ok () := by
  have hn : digest ≠ otherDigest := shas_valid.2.2.2.symm
  simp [validateBoundSessionAggregate, bound, sha_valid, digest_valid, shas_valid.2.1, hn]
  rfl

-- Both sessions are of the release.
theorem sessions_header : (ownerSession.candidateSha = sha ∧ ownerSession.providerStateSha256 = digest) ∧
    visitorSession.candidateSha = sha ∧ visitorSession.providerStateSha256 = digest :=
  ⟨⟨rfl, rfl⟩, rfl, rfl⟩

theorem sessions_bound (r : Read) (c : Computed) :
    (format texts).bindOwnerLabSessionEvidence recorded.sessionSnapshots recorded.providerState sha = .ok bound := by
  have h₁ : (format texts).sha256Hex [15] = digest := rfl
  have h₂ : (format texts).sha256Hex [16] = otherDigest := rfl
  have hs : recorded.sessionSnapshots.foldlM ((format texts).bindNext sha digest) ⟨[], []⟩ =
      .ok ⟨[digest, otherDigest], [ownerSession, visitorSession]⟩ := by
    simp [bindNext, recorded, r.ownerSession, r.visitorSession, sessions_header, h₁, h₂, shas_valid.2.2.2,
      Except.ok_bind]
  have hp : (format texts).fromSlice ProviderStateManifest.decode recorded.providerState = some manifest :=
    r.manifest
  have hd : (format texts).sha256Hex recorded.providerState = digest := rfl
  have hv : ¬(manifest.schemaVersion ≠ rt0ProviderStateSchema ∨
      (!(validateProviderState manifest.providers).isOk) = true) := by
    rw [manifest_valid]
    simp [manifest, Except.isOk, Except.toBool]
  have he : recorded.sessionSnapshots.isEmpty = false := rfl
  unfold bindOwnerLabSessionEvidence
  rw [he, sha_valid, hp]
  simp only [hv, if_false, hd, hs]
  rw [Except.ok_bind, c.aggregate]
  rfl

theorem conversations_valid (r : Read) (c : Computed) : (format texts).validateRt0ConversationEvidenceBinding evidence.conversations
    recorded.conversationAttempt recorded.sessionSnapshots sha digest = .ok () := by
  have hs : (format texts).parseRoleBoundSnapshots recorded.sessionSnapshots sha digest =
      .ok [ownerSession, visitorSession] := by
    simp [parseRoleBoundSnapshots, recorded, r.ownerSession, r.visitorSession, sessions_header, ExitGate.orElse,
      ExitGate.require, Except.ok_bind]
  unfold validateRt0ConversationEvidenceBinding
  refine Except.bind_of_ok (require_true rfl) ?_
  refine Except.bind_of_ok (congrArg (ExitGate.orElse .runtimeEvidenceInvalid) r.attempt) ?_
  refine Except.bind_of_ok attempt_valid ?_
  refine Except.bind_of_ok hs ?_
  refine Except.bind_of_ok c.owner ?_
  refine Except.bind_of_ok c.visitor ?_
  exact require_true c.claims

-- What the gate verifies the evidence with
def context (bundle ownerBundle : GoldenEvidenceBundle) (ownerSuite : GoldenSuite)
    (probe : LiveProviderProbeReceipt) : Rt0ExitVerificationContext where
  exitEvidenceBytes          := derived.exitEvidence
  goldenReportBytes          := derived.goldenReport
  goldenEvidenceBundle       := bundle
  goldenEvidenceBytes        := recorded.goldenEvidence
  ownerGolden                := {
    suite          := ownerSuite
    suiteBytes     := recorded.ownerGoldenSuite
    report         := ownerGolden
    reportBytes    := derived.ownerGoldenReport
    evidenceBundle := ownerBundle
    evidenceBytes  := recorded.ownerGoldenEvidence }
  providerState              := manifest
  providerStateBytes         := recorded.providerState
  liveProviderProbe          := probe
  liveProviderProbeBytes     := recorded.liveProviderProbe
  conversationAttemptBytes   := recorded.conversationAttempt
  boundSessionAggregate      := bound
  boundSessionAggregateBytes := derived.boundSessionAggregate
  sessionSnapshotArtifacts   := recorded.sessionSnapshots
  releaseSpecBytes           := recorded.releaseSpec
  exactCandidateSha          := recorded.candidateSha

section Valid

variable {suite ownerSuite : GoldenSuite} {bundle ownerBundle : GoldenEvidenceBundle}
variable {probe : LiveProviderProbeReceipt}

-- Each check is answered by its own lemma: unfolded together they would be run again.
theorem runtime_valid (r : Read) (c : Computed) : (format texts).validateRuntimeEvidence evidence (context bundle ownerBundle ownerSuite probe)
    digest = .ok () := by
  have hs : ExitGate.orElse .runtimeEvidenceInvalid ((format texts).bindOwnerLabSessionEvidence
      recorded.sessionSnapshots recorded.providerState sha).toOption = .ok bound := by
    rw [sessions_bound r c]
    rfl
  unfold validateRuntimeEvidence
  refine Except.bind_of_ok (require_true rfl) ?_
  refine Except.bind_of_ok (conversations_valid r c) ?_
  refine Except.bind_of_ok bound_valid ?_
  refine Except.bind_of_ok hs ?_
  refine Except.bind_of_ok (require_true (decide_eq_true rfl)) ?_
  exact Except.bind_of_ok c.quality c.cost

theorem golden_valid : validateGoldenReport golden = .ok () := by
  have hm : manifest.schemaVersion = rt0ProviderStateSchema := rfl
  have hp : (validateProviderState manifest.providers).isOk = true := by
    rw [manifest_valid]
    rfl
  have hc : checkedAdd 1 0 = some 1 := rfl
  simp [validateGoldenReport, golden, report, binding, digest_valid, hm, hp, hc, not_blank, ExitGate.require]

theorem binding_valid {suiteBytes evidenceBytes : List UInt8} (hs : suiteBytes ≠ [16]) :
    (format texts).validateBinding binding
      (goldenContext (context bundle ownerBundle ownerSuite probe) suiteBytes evidenceBytes) = .ok () := by
  have hm : manifest.schemaVersion = rt0ProviderStateSchema := rfl
  simp [validateBinding, binding, goldenContext, context, format, recorded, validateProviderStateManifest,
    validateCandidateSha, manifest_valid, sha_valid, digest_valid, hs, hm, Except.ok_bind]

theorem recomputed {suiteBytes evidenceBytes : List UInt8} {golden : GoldenReport} (hs : suiteBytes ≠ [16])
    (he : evidenceBytes ≠ [16]) {s : GoldenSuite} {b : GoldenEvidenceBundle} (hb : b.binding = binding)
    (hg : evaluateGoldenSuite id s b.observations = .ok golden) :
    (format texts).evaluateBoundGoldenSuite s b
      (goldenContext (context bundle ownerBundle ownerSuite probe) suiteBytes evidenceBytes) =
        .ok ⟨digest, binding, manifest, golden⟩ := by
  refine Except.bind_of_ok (hb ▸ binding_valid hs) ?_
  refine Except.bind_of_ok (Except.mapError_eq_ok.mpr hg) ?_
  have hd : (format texts).sha256Hex evidenceBytes = digest := if_neg he
  rw [goldenContext, hd, hb]
  rfl

theorem public_valid (hs : (format texts).fromSlice GoldenSuite.decode [8] = some suite) (hb : bundle.binding = binding)
    (hg : evaluateGoldenSuite id suite bundle.observations = .ok golden.golden) :
    (format texts).validatePublicGolden [8] golden (context bundle ownerBundle ownerSuite probe) = .ok () := by
  refine Except.bind_of_ok golden_valid ?_
  refine Except.bind_of_ok (congrArg (ExitGate.orElse .goldenEvidenceInvalid) hs) ?_
  have hr : (format texts).evaluateBoundGoldenSuite suite bundle
      (goldenContext (context bundle ownerBundle ownerSuite probe) [8] [9]) = .ok golden :=
    recomputed (by decide) (by decide) hb hg
  refine Except.bind_of_ok (congrArg (fun x => ExitGate.orElse .goldenEvidenceInvalid x.toOption) hr) ?_
  exact require_true (decide_eq_true rfl)

theorem owner_valid (hv : validateOwnerSuite ownerSuite = .ok ()) (hb : ownerBundle.binding = binding)
    (hg : evaluateGoldenSuite id ownerSuite ownerBundle.observations = .ok ownerGolden.golden) :
    (format texts).verifyPrivateOwnerGolden (context bundle ownerBundle ownerSuite probe) = .ok () := by
  have hr : (format texts).evaluateBoundGoldenSuite ownerSuite ownerBundle
      (goldenContext (context bundle ownerBundle ownerSuite probe) [10] [11]) = .ok ownerGolden :=
    recomputed (by decide) (by decide) hb hg
  refine Except.bind_of_ok (Except.bind_of_ok hv (Except.mapError_eq_ok.mpr hr)) ?_
  exact if_pos rfl

theorem claims (c : Computed) : (format texts).Claims recorded.supportingArtifacts evidence where
  ci          := ⟨_, reads_written automated_bindable automated_normal rfl, rfl, digest_valid, rfl⟩
  e2e         := ⟨_, reads_written automated_bindable automated_normal rfl, rfl, digest_valid, rfl⟩
  owner       := reads_written conversation_bindable conversation_normal rfl
  visitor     := reads_written conversation_bindable conversation_normal rfl
  acceptance  := reads_written acceptance_bindable acceptance_normal rfl
  quality     := reads_written quality_bindable quality_normal rfl
  cost        := reads_written cost_bindable cost_normal rfl
  privacy     := reads_written privacy_bindable privacy_normal rfl
  human       := reads_written human_bindable human_normal rfl
  limitations := c.reviewed
  digests     := by
    simp only [boundArtifacts, List.forall_mem_cons]
    exact ⟨rfl, rfl, rfl, rfl, rfl, rfl, rfl, rfl, rfl, rfl, by simp⟩

theorem artifacts_valid (c : Computed) :
    (format texts).validateRt0ExitSupportingArtifacts evidence recorded.supportingArtifacts = .ok () := by
  have hp : PlainArtifacts (format texts) recorded.supportingArtifacts :=
    ⟨plain_written conversation_bindable conversation_normal rfl,
      plain_written conversation_bindable conversation_normal rfl,
      plain_written acceptance_bindable acceptance_normal rfl, plain_written quality_bindable quality_normal rfl,
      plain_written cost_bindable cost_normal rfl, plain_written privacy_bindable privacy_normal rfl,
      plain_written human_bindable human_normal rfl⟩
  exact (claims c).validate_iff.mpr hp

theorem structure_valid (r : Read) (c : Computed)
    (hp : validateLiveProviderProbe probe sha digest = .ok ())
    (hg : (format texts).validatePublicGolden [8] golden (context bundle ownerBundle ownerSuite probe) = .ok ())
    (ho : (format texts).verifyPrivateOwnerGolden (context bundle ownerBundle ownerSuite probe) = .ok ()) :
    (format texts).validateStructure [8] evidence golden (context bundle ownerBundle ownerSuite probe) = .ok () := by
  have hs : (validGitSha sha && validGitSha evidence.candidateSha) = true :=
    Bool.and_eq_true_iff.mpr ⟨sha_valid, sha_valid⟩
  have hd : (List.replicate 9 digest).all EvidenceBinding.validSha256 = true := by simp [digest_valid]
  have ha : (List.replicate 10 digest).all EvidenceBinding.validSha256 = true := by simp [digest_valid]
  have hm : (decide (manifest.schemaVersion = rt0ProviderStateSchema) &&
      (validateProviderState manifest.providers).isOk && decide (golden.providerState = manifest)) = true := by
    rw [manifest_valid]
    rfl
  have hb : (!isBlank "1") = true := by simp [not_blank]
  unfold validateStructure
  refine Except.bind_of_ok (require_true (decide_eq_true rfl)) ?_
  refine Except.bind_of_ok (require_true hs) ?_
  refine Except.bind_of_ok (require_true hd) ?_
  refine Except.bind_of_ok (require_true rfl) ?_
  refine Except.bind_of_ok (require_true rfl) ?_
  refine Except.bind_of_ok (require_true rfl) ?_
  refine Except.bind_of_ok (require_true rfl) ?_
  refine Except.bind_of_ok (require_true rfl) ?_
  refine Except.bind_of_ok (require_true rfl) ?_
  refine Except.bind_of_ok (require_true hm) ?_
  refine Except.bind_of_ok (Except.mapError_eq_ok.mpr hp) ?_
  refine Except.bind_of_ok (runtime_valid r c) ?_
  refine Except.bind_of_ok hg ?_
  refine Except.bind_of_ok (Except.mapError_eq_ok.mpr ho) ?_
  refine Except.bind_of_ok (require_true ha) ?_
  refine Except.bind_of_ok (require_true rfl) ?_
  exact require_true hb

end Valid

theorem ready (r : Read) (c : Computed) : run (format texts) [8] recorded derived =
    .ok (rt0ExitReport evidence golden.golden ownerGolden.golden manifest digest) := by
  obtain ⟨suite, hs, h⟩ := Option.bind_eq_some_iff.mp r.publicSet
  obtain ⟨bundle, hb, h⟩ := Option.bind_eq_some_iff.mp h
  have hg := Prod.mk.inj (Option.some.inj h)
  obtain ⟨ownerSuite, hos, h⟩ := Option.bind_eq_some_iff.mp r.ownerSet
  obtain ⟨ownerBundle, hob, h⟩ := Option.bind_eq_some_iff.mp h
  have ho := Prod.mk.inj (Option.some.inj h)
  have hog := Prod.mk.inj ho.2
  obtain ⟨probe, hp, hv⟩ := Option.map_eq_some_iff.mp r.probe
  refine Except.bind_of_ok (parse_of_fromSlice r.evidence) ?_
  refine Except.bind_of_ok (parse_of_fromSlice r.golden) ?_
  refine Except.bind_of_ok (parse_of_fromSlice hb) ?_
  refine Except.bind_of_ok (parse_of_fromSlice hos) ?_
  refine Except.bind_of_ok (parse_of_fromSlice hob) ?_
  refine Except.bind_of_ok (parse_of_fromSlice r.ownerGolden) ?_
  refine Except.bind_of_ok (parse_of_fromSlice r.manifest) ?_
  refine Except.bind_of_ok (parse_of_fromSlice hp) ?_
  refine Except.bind_of_ok (parse_of_fromSlice r.bound) ?_
  refine Except.mapError_eq_ok.mpr ?_
  refine Except.bind_of_ok (artifacts_valid c) ?_
  refine Except.bind_of_ok (require_true c.voice) ?_
  refine Except.bind_of_ok (structure_valid r c hv (public_valid hs hg.1 hg.2) (owner_valid hog.1 ho.1 hog.2)) ?_
  rfl

theorem assemblable (c : Computed) : Assemblable (format texts) recorded.supportingArtifacts := by
  have w := claims c
  have v := validate_eq_ok (artifacts_valid c)
  constructor
  case objects =>
    simp only [List.forall_mem_cons]
    exact ⟨⟨_, rfl⟩, ⟨_, rfl⟩, by simp⟩
  case once =>
    simp only [List.forall_mem_cons]
    exact ⟨(v.owner.of_reads conversation_bindable conversation_normal w.owner).2,
      (v.visitor.of_reads conversation_bindable conversation_normal w.visitor).2,
      (v.acceptance.of_reads acceptance_bindable acceptance_normal w.acceptance).2,
      (v.quality.of_reads quality_bindable quality_normal w.quality).2,
      (v.cost.of_reads cost_bindable cost_normal w.cost).2,
      (v.privacy.of_reads privacy_bindable privacy_normal w.privacy).2,
      (v.human.of_reads human_bindable human_normal w.human).2, by simp⟩
  case voices =>
    intro claim h
    obtain rfl := h.inj human_bindable v.human
    rfl

-- Nothing is evaluated but here.
theorem read : Read :=
  read_iff.mpr (by decide +kernel)

theorem computed : Computed :=
  computed_iff.mpr (by decide +kernel)

end ExampleRelease

namespace Rt0ExitGate

open ExampleRelease

-- The release is ready, and the evidence is assembled from its files.
theorem ready_assembled_release : (run (format texts) [8] recorded derived).map (·.ready) = .ok true ∧
    (format texts).assembleRt0ExitEvidence (assemblyInputs recorded derived) = .ok evidence := by
  have hr : (run (format texts) [8] recorded derived).map (·.ready) = .ok true := by
    rw [ready read computed]
    exact congrArg Except.ok (ready_iff.mpr computed.failures)
  have he : recorded.evidence (format texts) (derived.digests (format texts)) = some evidence :=
    evidence_of_verified (ArtifactFormat.validate_eq_ok (artifacts_valid computed)) rfl
  have h := ready_assembled (format texts) [8] recorded derived
  rw [ready read computed, he] at h
  have h := (Option.some.inj h).mpr ⟨ready_iff.mpr computed.failures, assemblable computed⟩
  refine ⟨hr, ?_⟩
  have h := h.2
  cases ha : (format texts).assembleRt0ExitEvidence (assemblyInputs recorded derived) <;> rw [ha] at h <;> cases h
  rfl

end Rt0ExitGate

def ConversationFacts.projection (c : ConversationFacts) : ConversationProjection :=
  ⟨c.role, c.russian, c.voice, c.video, c.completedTurns.val, c.interruptionExercised⟩

theorem conversationClaimMatches_iff {claim : ConversationFacts} {turn : ConversationTurnBinding}
    {role : ParticipantRole} {proof : RoleConversationProof} :
    conversationClaimMatches claim turn role proof = true ↔
      claim.projection = conversationEvidenceFrom turn role proof := by
  simp only [conversationClaimMatches, ConversationFacts.projection, conversationEvidenceFrom, Bool.and_eq_true,
    decide_eq_true_eq, ConversationProjection.mk.injEq]
  constructor
  case mp =>
    intro h
    obtain ⟨⟨⟨⟨⟨hr, hn⟩, hl⟩, hv⟩, hs⟩, hi⟩ := h
    exact ⟨hr, hl, hv, hs, hn, hi⟩
  case mpr =>
    intro h
    obtain ⟨hr, hl, hv, hs, hn, hi⟩ := h
    exact ⟨⟨⟨⟨⟨hr, hn⟩, hl⟩, hv⟩, hs⟩, hi⟩

namespace ArtifactFormat

open ExitGate

variable {F : ArtifactFormat} {e : Rt0ExitEvidence} {context : Rt0ExitVerificationContext}

-- A quality claim that repeats valid distributions is valid itself.
theorem qualityEvidence_valid {aggregate : LabSessionEvidenceAggregate} {quality : QualityFacts}
    (h : qualityEvidenceFromAggregate aggregate = .ok quality.distributions) : quality.validLatencies = true := by
  obtain ⟨_, _, h⟩ := Except.bind_eq_ok h
  obtain ⟨_, h⟩ := require_bind_eq_ok h
  obtain ⟨hv, h⟩ := require_bind_eq_ok h
  cases h
  exact hv

theorem validateSessionQualityBinding_iff {quality : QualityFacts} {aggregate : LabSessionEvidenceAggregate} :
    validateSessionQualityBinding quality aggregate = .ok () ↔
      qualityEvidenceFromAggregate aggregate = .ok quality.distributions := by
  constructor
  case mp =>
    intro h
    obtain ⟨_, h⟩ := require_bind_eq_ok h
    obtain ⟨expected, he, h⟩ := Except.bind_eq_ok h
    obtain rfl := of_decide_eq_true (exitGate_require_eq_ok h)
    exact he
  case mpr =>
    intro h
    simp only [validateSessionQualityBinding, require_true (qualityEvidence_valid h), h, decide_true, require_true,
      Except.ok_bind]

-- What both the conversation claims and the derived ones rest on
structure ConversationProof (F : ArtifactFormat) (attemptBytes : List UInt8) (artifacts : List (List UInt8))
    (candidateSha digest : String) (owner visitor : ConversationProjection) where
  conversation : ConversationAttemptBinding
  snapshots    : List LabSessionEvidenceSnapshot
  ownerProof   : RoleConversationProof
  visitorProof : RoleConversationProof
  read         : ExitGate.orElse .runtimeEvidenceInvalid
    (F.fromSlice ConversationAttemptBinding.decode attemptBytes) = .ok conversation
  bound        : validateConversationAttemptBinding conversation candidateSha digest = .ok ()
  parsed       : F.parseRoleBoundSnapshots artifacts candidateSha digest = .ok snapshots
  owners       : deriveRoleConversationProof snapshots .owner = .ok ownerProof
  visitors     : deriveRoleConversationProof snapshots .visitor = .ok visitorProof
  owner        : owner = conversationEvidenceFrom conversation.owner .owner ownerProof
  visitor      : visitor = conversationEvidenceFrom conversation.visitor .visitor visitorProof

theorem validateRt0ConversationEvidenceBinding_iff {digest : String} :
    F.validateRt0ConversationEvidenceBinding e.conversations context.conversationAttemptBytes
        context.sessionSnapshotArtifacts context.exactCandidateSha digest = .ok () ↔
      Nonempty (ConversationProof F context.conversationAttemptBytes context.sessionSnapshotArtifacts
        context.exactCandidateSha digest e.conversations.owner.facts.projection
        e.conversations.visitor.facts.projection) := by
  constructor
  case mp =>
    intro h
    unfold validateRt0ConversationEvidenceBinding at h
    obtain ⟨_, h⟩ := require_bind_eq_ok h
    obtain ⟨conversation, hr, h⟩ := Except.bind_eq_ok h
    obtain ⟨_, hb, h⟩ := Except.bind_eq_ok h
    obtain ⟨snapshots, hs, h⟩ := Except.bind_eq_ok h
    obtain ⟨ownerProof, ho, h⟩ := Except.bind_eq_ok h
    obtain ⟨visitorProof, hv, h⟩ := Except.bind_eq_ok h
    have hm := exitGate_require_eq_ok h
    rw [Bool.and_eq_true, conversationClaimMatches_iff, conversationClaimMatches_iff] at hm
    exact ⟨⟨conversation, snapshots, ownerProof, visitorProof, hr, hb, hs, ho, hv, hm.1, hm.2⟩⟩
  case mpr =>
    intro h
    obtain ⟨c⟩ := h
    have hro : e.conversations.owner.facts.role = .owner := congrArg ConversationProjection.role c.owner
    have hrv : e.conversations.visitor.facts.role = .visitor := congrArg ConversationProjection.role c.visitor
    have hm := Bool.and_eq_true_iff.mpr
      ⟨conversationClaimMatches_iff.mpr c.owner, conversationClaimMatches_iff.mpr c.visitor⟩
    simp only [validateRt0ConversationEvidenceBinding, hro, hrv, decide_true, Bool.and_self, require_true, c.read,
      c.bound, c.parsed, c.owners, c.visitors, require_true hm, Except.ok_bind]

theorem deriveRt0RuntimeSupportingProjection_iff {p : Rt0RuntimeSupportingProjection} :
    F.deriveRt0RuntimeSupportingProjection context.conversationAttemptBytes context.boundSessionAggregate
        context.sessionSnapshotArtifacts context.providerStateBytes context.exactCandidateSha = .ok p ↔
      Nonempty (ConversationProof F context.conversationAttemptBytes context.sessionSnapshotArtifacts
        context.exactCandidateSha (F.sha256Hex context.providerStateBytes) p.owner p.visitor) ∧
      validateBoundSessionAggregate context.boundSessionAggregate context.exactCandidateSha
        (F.sha256Hex context.providerStateBytes) = .ok () ∧
      ExitGate.orElse .runtimeEvidenceInvalid (F.bindOwnerLabSessionEvidence context.sessionSnapshotArtifacts
        context.providerStateBytes context.exactCandidateSha).toOption = .ok context.boundSessionAggregate ∧
      qualityEvidenceFromAggregate context.boundSessionAggregate.aggregate = .ok p.quality := by
  constructor
  case mp =>
    intro h
    unfold deriveRt0RuntimeSupportingProjection at h
    obtain ⟨conversation, hr, h⟩ := Except.bind_eq_ok h
    obtain ⟨_, hb, h⟩ := Except.bind_eq_ok h
    obtain ⟨_, ha, h⟩ := Except.bind_eq_ok h
    obtain ⟨recomputed, hc, h⟩ := Except.bind_eq_ok h
    obtain ⟨hs, h⟩ := require_bind_eq_ok h
    obtain ⟨snapshots, hp, h⟩ := Except.bind_eq_ok h
    obtain ⟨ownerProof, ho, h⟩ := Except.bind_eq_ok h
    obtain ⟨visitorProof, hv, h⟩ := Except.bind_eq_ok h
    obtain ⟨quality, hq, he⟩ := Except.bind_eq_ok h
    obtain rfl := of_decide_eq_true hs
    cases he
    exact ⟨⟨⟨conversation, snapshots, ownerProof, visitorProof, hr, hb, hp, ho, hv, rfl, rfl⟩⟩, ha, hc, hq⟩
  case mpr =>
    intro h
    obtain ⟨⟨c⟩, ha, hc, hq⟩ := h
    simp only [deriveRt0RuntimeSupportingProjection, c.read, c.bound, ha, hc, decide_true, require_true, c.parsed,
      c.owners, c.visitors, hq, Except.ok_bind, ← c.owner, ← c.visitor]
    rfl

-- The runtime facts that are derived for a release are those that the gate accepts, and no others.
theorem runtimeEvidence_iff (F : ArtifactFormat) (e : Rt0ExitEvidence) (context : Rt0ExitVerificationContext) :
    F.validateRuntimeEvidence e context (F.sha256Hex context.providerStateBytes) = .ok () ↔
      e.conversationAttemptSha256 = F.sha256Hex context.conversationAttemptBytes ∧
      e.boundSessionAggregateSha256 = F.sha256Hex context.boundSessionAggregateBytes ∧
      F.deriveRt0RuntimeSupportingProjection context.conversationAttemptBytes context.boundSessionAggregate
        context.sessionSnapshotArtifacts context.providerStateBytes context.exactCandidateSha =
          .ok ⟨e.conversations.owner.facts.projection, e.conversations.visitor.facts.projection,
            e.quality.facts.distributions⟩ ∧
      validateSessionCostBinding e.cost.facts context.boundSessionAggregate.aggregate = .ok () := by
  rw [deriveRt0RuntimeSupportingProjection_iff, ← validateRt0ConversationEvidenceBinding_iff,
    ← validateSessionQualityBinding_iff]
  constructor
  case mp =>
    intro h
    unfold validateRuntimeEvidence at h
    obtain ⟨hd, h⟩ := require_bind_eq_ok h
    obtain ⟨_, hc, h⟩ := Except.bind_eq_ok h
    obtain ⟨_, hb, h⟩ := Except.bind_eq_ok h
    obtain ⟨recomputed, hr, h⟩ := Except.bind_eq_ok h
    obtain ⟨hs, h⟩ := require_bind_eq_ok h
    obtain ⟨_, hq, hcost⟩ := Except.bind_eq_ok h
    obtain rfl := of_decide_eq_true hs
    simp only [Bool.and_eq_true, decide_eq_true_eq] at hd
    exact ⟨hd.1, hd.2, ⟨hc, hb, hr, hq⟩, hcost⟩
  case mpr =>
    intro h
    obtain ⟨ha, hg, ⟨hc, hb, hr, hq⟩, hcost⟩ := h
    simp only [validateRuntimeEvidence, ha, hg, decide_true, Bool.and_self, require_true, hc, hb, hr, hq,
      Except.ok_bind]
    exact hcost

end ArtifactFormat
