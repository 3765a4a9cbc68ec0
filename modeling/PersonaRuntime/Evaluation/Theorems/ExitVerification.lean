import PersonaRuntime.Evaluation.Theorems.ExitAssembly

namespace FieldsCodec

open JsonCodec

variable {α : Type} {f : FieldsCodec α} {binding : ProjectionBinding} {c : SupportingClaim α}

theorem variant_field_normal {name : String} {all : List α} {variantName : α → String} :
    (field name (variant all variantName)).Normal :=
  field_normal variant_normal

theorem unsigned_field_normal {name : String} {max : Nat} : (field name (unsigned max)).Normal :=
  field_normal unsigned_normal

theorem latency_normal : latency.Normal :=
  map_normal <| both_normal unsigned_field_normal <| both_normal unsigned_field_normal unsigned_field_normal

theorem automated_normal : automated.Normal :=
  variant_field_normal

theorem conversation_normal : conversation.Normal :=
  map_normal <| both_normal variant_field_normal <| both_normal variant_field_normal <|
    both_normal variant_field_normal <| both_normal variant_field_normal <| both_normal variant_field_normal <|
    both_normal unsigned_field_normal variant_field_normal

theorem acceptance_normal : acceptance.Normal :=
  map_normal <| both_normal variant_field_normal <| both_normal variant_field_normal <|
    both_normal variant_field_normal <| both_normal variant_field_normal <|
    both_normal variant_field_normal variant_field_normal

theorem quality_normal : quality.Normal := by
  have distribution {name : String} : (field name latency.record).Normal :=
    field_normal (record_normal latency_lawful latency_normal)
  exact map_normal <| both_normal variant_field_normal <| both_normal distribution <| both_normal distribution <|
    both_normal distribution <| both_normal distribution <| both_normal distribution distribution

theorem cost_normal : cost.Normal := by
  have roles {name : String} : (field name ProviderRole.json.list).Normal :=
    field_normal (list_normal variant_normal)
  have amount {name : String} : (optionalField name u64).Normal := optionalField_normal unsigned_normal
  exact map_normal <| both_normal variant_field_normal <| both_normal roles <| both_normal roles <|
    both_normal unsigned_field_normal <| both_normal amount amount

theorem privacy_normal : privacy.Normal :=
  map_normal <| both_normal variant_field_normal <| both_normal variant_field_normal <|
    both_normal unsigned_field_normal <| both_normal unsigned_field_normal <|
    both_normal variant_field_normal variant_field_normal

theorem dimensions_normal : dimensions.Normal :=
  map_normal <| both_normal variant_field_normal <| both_normal variant_field_normal <|
    both_normal variant_field_normal <| both_normal variant_field_normal variant_field_normal

theorem human_normal : human.Normal :=
  map_normal <| both_normal variant_field_normal <| both_normal (field_normal text_normal) <|
    both_normal unsigned_field_normal <| both_normal variant_field_normal <| both_normal variant_field_normal <|
    both_normal (field_normal (record_normal dimensions_lawful dimensions_normal)) variant_field_normal

theorem Normal.supporting (h : f.Normal) : (f.supporting binding).Normal :=
  map_normal <| both_normal h <| both_normal (field_normal text_normal) (field_normal text_normal)

-- A record of an artifact that is written is read back, as a record and as a value, and is plain.
structure RoundTrip (f : FieldsCodec α) (c : SupportingClaim α) : Prop where
  read  : ∀ binding, (f.supporting binding).record.decode ((f.supporting binding).record.encode c) = some c
  value : ∀ binding, ((f.supporting binding).record.encode c).value = (f.supporting binding).record.encode c
  plain : ∀ binding, (f.supporting binding).record.Plain ((f.supporting binding).record.encode c)

theorem Bindable.roundTrip (h : f.Bindable) (hn : f.Normal) : f.RoundTrip c where
  read _  := (record_lawful h.supporting_lawful).decode_encode (record_normal h.supporting_lawful hn.supporting) c
  value _ := (record_normal h.supporting_lawful hn.supporting c).1
  plain _ := (record_lawful h.supporting_lawful).plain_encode (record_normal h.supporting_lawful hn.supporting) c

end FieldsCodec

namespace ArtifactFormat

open FieldsCodec

variable {F : ArtifactFormat} {α : Type} {f : FieldsCodec α} {binding : ProjectionBinding} {bytes : List UInt8}
variable {candidateSha providerStateSha256 digest : String}

-- The bytes of an artifact are the text of a record that says `c`.
def Reads (F : ArtifactFormat) (f : FieldsCodec α) (binding : ProjectionBinding) (bytes : List UInt8)
    (c : SupportingClaim α) : Prop :=
  ∃ j, F.parse bytes = some j ∧ (f.supporting binding).record.decode j = some c

-- The text of an artifact is an object in which every optional field is there, at any depth, and every
-- variant of an enumeration is a string.
def WrittenPlainly (F : ArtifactFormat) (f : FieldsCodec α) (bytes : List UInt8) : Prop :=
  ∀ j, F.parse bytes = some j → (f.supporting .candidateAndProvider).record.Plain j

-- The seven artifacts that the verifier compares as a whole.
structure PlainArtifacts (F : ArtifactFormat) (artifacts : Rt0SupportingArtifacts) : Prop where
  ownerConversation   : F.WrittenPlainly .conversation artifacts.ownerConversation
  visitorConversation : F.WrittenPlainly .conversation artifacts.visitorConversation
  acceptance          : F.WrittenPlainly .acceptance artifacts.acceptance
  quality             : F.WrittenPlainly .quality artifacts.quality
  cost                : F.WrittenPlainly .cost artifacts.cost
  privacyPermissions  : F.WrittenPlainly .privacy artifacts.privacyPermissions
  humanEvaluation     : F.WrittenPlainly .human artifacts.humanEvaluation

theorem fromSlice_eq_some {decode : Json → Option α} {a : α} (h : F.fromSlice decode bytes = some a) :
    ∃ j, F.parse bytes = some j ∧ decode j = some a :=
  Option.bind_eq_some_iff.mp h

theorem preflight_orElse_eq_ok {o : Option α} {e : Rt0SupportingPreflightError} {a : α}
    (h : Rt0SupportingPreflight.orElse e o = .ok a) : o = some a := by
  cases o <;> cases h
  rfl

theorem assembly_orElse_eq_ok {o : Option α} {e : Rt0ExitAssemblyError} {a : α}
    (h : Assembly.orElse e o = .ok a) : o = some a := by
  cases o <;> cases h
  rfl

theorem preflight_require_eq_ok {e : Rt0SupportingPreflightError} {b : Bool}
    (h : Rt0SupportingPreflight.require e b = .ok ()) : b = true := by
  cases b <;> cases h
  rfl

theorem validateCandidate_eq_ok {exactCandidateSha : String}
    (h : Rt0SupportingPreflight.validateCandidate candidateSha exactCandidateSha = .ok ()) :
    candidateSha = exactCandidateSha := by
  simp only [Rt0SupportingPreflight.validateCandidate, Except.ite_error_eq_ok_iff] at h
  exact not_not.mp h.2.1

theorem validateAutomated_eq_ok (h : F.validateAutomated bytes candidateSha = .ok ()) :
    ∃ c, F.Reads .automated .candidateWithAutomationReference bytes c ∧ c.candidateSha = candidateSha ∧
      EvidenceBinding.validSha256 c.boundSha256 = true := by
  obtain ⟨c, hc, h⟩ := Except.bind_eq_ok h
  obtain ⟨_, hv, h⟩ := Except.bind_eq_ok h
  exact ⟨c, fromSlice_eq_some (preflight_orElse_eq_ok hc), validateCandidate_eq_ok hv, preflight_require_eq_ok h⟩

theorem validateReal_eq_ok {origin : α → EvidenceOrigin} {check : α → Preflight Unit}
    (h : F.validateReal f origin check bytes candidateSha providerStateSha256 = .ok ()) :
    ∃ facts, F.Reads f .candidateAndProvider bytes ⟨facts, candidateSha, providerStateSha256⟩ := by
  obtain ⟨c, hc, h⟩ := Except.bind_eq_ok h
  obtain ⟨_, hv, h⟩ := Except.bind_eq_ok h
  simp only [Rt0SupportingPreflight.validateRealBinding] at hv
  have hv := Except.guard_eq_ok hv
  obtain ⟨_, hs, hv⟩ := Except.bind_eq_ok hv
  split at hv
  case isTrue => cases hv
  case isFalse hp =>
    obtain rfl := validateCandidate_eq_ok hs
    obtain rfl := not_not.mp hp
    exact ⟨c.facts, fromSlice_eq_some (preflight_orElse_eq_ok hc)⟩

-- What the assembler claims of an artifact is what the artifact says.
theorem projectedClaim_eq_ok {c : SupportingClaim α} {claim : Claimed α} (hb : f.Bindable)
    (hr : F.Reads f binding bytes c) (h : F.projectedClaim f bytes digest binding = .ok claim) :
    claim = ⟨c.facts, digest⟩ := by
  obtain ⟨j, hj, hd⟩ := hr
  have h := assembly_orElse_eq_ok h
  simp only [hj, Option.bind_eq_bind, Option.bind_some] at h
  have hv := (record_lawful hb.supporting_lawful).decode_value hd
  cases j
  case object members =>
    simp only [Json.value] at h hv
    have hs : (Json.valueMembers [] members).Sorted := Json.sorted_valueMembers JsonMembers.sorted_nil
    rw [hb.projected hs hv] at h
    exact (Option.some.inj h).symm
  all_goals simp [Json.value] at h

-- The verifier finds what it expects exactly when the artifact is written the way the verifier writes it.
theorem any_value_iff {facts : α} (hb : f.Bindable)
    (hr : F.Reads f .candidateAndProvider bytes ⟨facts, candidateSha, providerStateSha256⟩) :
    (F.parse bytes).any (·.value =
        (f.supporting .candidateAndProvider).record.encode ⟨facts, candidateSha, providerStateSha256⟩) = true ↔
      F.WrittenPlainly f bytes := by
  obtain ⟨j, hj, hd⟩ := hr
  simp only [WrittenPlainly, hj, Option.any_some, decide_eq_true_eq, Option.some.injEq, forall_eq']
  exact (record_lawful hb.supporting_lawful).plain_iff hd

-- What the artifacts say that pass the preflight.
structure Preflighted (F : ArtifactFormat) (a : Rt0SupportingArtifacts) (candidateSha provider : String)
    (status : CheckStatus) : Prop where
  ci : ∃ c, F.Reads .automated .candidateWithAutomationReference a.ci c ∧ c.candidateSha = candidateSha ∧
    EvidenceBinding.validSha256 c.boundSha256 = true
  e2e : ∃ c, F.Reads .automated .candidateWithAutomationReference a.e2e c ∧ c.candidateSha = candidateSha ∧
    EvidenceBinding.validSha256 c.boundSha256 = true
  owner : ∃ x, F.Reads .conversation .candidateAndProvider a.ownerConversation ⟨x, candidateSha, provider⟩
  visitor : ∃ x, F.Reads .conversation .candidateAndProvider a.visitorConversation ⟨x, candidateSha, provider⟩
  acceptance : ∃ x, F.Reads .acceptance .candidateAndProvider a.acceptance ⟨x, candidateSha, provider⟩
  quality : ∃ x, F.Reads .quality .candidateAndProvider a.quality ⟨x, candidateSha, provider⟩
  cost : ∃ x, F.Reads .cost .candidateAndProvider a.cost ⟨x, candidateSha, provider⟩
  privacy : ∃ x, F.Reads .privacy .candidateAndProvider a.privacyPermissions ⟨x, candidateSha, provider⟩
  human : ∃ x, F.Reads .human .candidateAndProvider a.humanEvaluation ⟨x, candidateSha, provider⟩
  limitations : parseKnownLimitationsReviewStatus a.knownLimitations = some status

variable {artifacts : Rt0SupportingArtifacts}

theorem preflight_eq_ok {providerStateBytes : List UInt8} {report : Rt0SupportingPreflightReport}
    (h : F.preflightRt0SupportingArtifacts artifacts providerStateBytes candidateSha = .ok report) :
    F.Preflighted artifacts candidateSha report.providerStateSha256 report.knownLimitationsReviewStatus ∧
      report.artifactDigests = {
        ci                  := F.sha256Hex artifacts.ci
        e2e                 := F.sha256Hex artifacts.e2e
        ownerConversation   := F.sha256Hex artifacts.ownerConversation
        visitorConversation := F.sha256Hex artifacts.visitorConversation
        acceptance          := F.sha256Hex artifacts.acceptance
        quality             := F.sha256Hex artifacts.quality
        cost                := F.sha256Hex artifacts.cost
        privacyPermissions  := F.sha256Hex artifacts.privacyPermissions
        humanEvaluation     := F.sha256Hex artifacts.humanEvaluation
        knownLimitations    := F.sha256Hex artifacts.knownLimitations } := by
  obtain ⟨_, _, h⟩ := Except.bind_eq_ok h
  obtain ⟨_, _, h⟩ := Except.bind_eq_ok h
  obtain ⟨_, _, h⟩ := Except.bind_eq_ok h
  obtain ⟨_, ci, h⟩ := Except.bind_eq_ok h
  obtain ⟨_, e2e, h⟩ := Except.bind_eq_ok h
  obtain ⟨_, owner, h⟩ := Except.bind_eq_ok h
  obtain ⟨_, visitor, h⟩ := Except.bind_eq_ok h
  obtain ⟨_, acceptance, h⟩ := Except.bind_eq_ok h
  obtain ⟨_, quality, h⟩ := Except.bind_eq_ok h
  obtain ⟨_, cost, h⟩ := Except.bind_eq_ok h
  obtain ⟨_, privacy, h⟩ := Except.bind_eq_ok h
  obtain ⟨_, human, h⟩ := Except.bind_eq_ok h
  obtain ⟨_, limitations, h⟩ := Except.bind_eq_ok h
  cases h
  exact ⟨⟨validateAutomated_eq_ok ci, validateAutomated_eq_ok e2e, validateReal_eq_ok owner,
    validateReal_eq_ok visitor, validateReal_eq_ok acceptance, validateReal_eq_ok quality, validateReal_eq_ok cost,
    validateReal_eq_ok privacy, validateReal_eq_ok human, preflight_orElse_eq_ok limitations⟩, rfl⟩

-- The claims of the evidence are those of the artifacts, each with the digest of its artifact.
structure Claims (F : ArtifactFormat) (a : Rt0SupportingArtifacts) (e : Rt0ExitEvidence) : Prop where
  ci : ∃ c, F.Reads .automated .candidateWithAutomationReference a.ci c ∧ c.candidateSha = e.candidateSha ∧
    EvidenceBinding.validSha256 c.boundSha256 = true ∧ e.automated.ci = ⟨c.facts, F.sha256Hex a.ci⟩
  e2e : ∃ c, F.Reads .automated .candidateWithAutomationReference a.e2e c ∧ c.candidateSha = e.candidateSha ∧
    EvidenceBinding.validSha256 c.boundSha256 = true ∧ e.automated.e2e = ⟨c.facts, F.sha256Hex a.e2e⟩
  owner : F.Reads .conversation .candidateAndProvider a.ownerConversation
    ⟨e.conversations.owner.facts, e.candidateSha, e.providerStateSha256⟩
  visitor : F.Reads .conversation .candidateAndProvider a.visitorConversation
    ⟨e.conversations.visitor.facts, e.candidateSha, e.providerStateSha256⟩
  acceptance : F.Reads .acceptance .candidateAndProvider a.acceptance
    ⟨e.acceptance.facts, e.candidateSha, e.providerStateSha256⟩
  quality : F.Reads .quality .candidateAndProvider a.quality
    ⟨e.quality.facts, e.candidateSha, e.providerStateSha256⟩
  cost : F.Reads .cost .candidateAndProvider a.cost ⟨e.cost.facts, e.candidateSha, e.providerStateSha256⟩
  privacy : F.Reads .privacy .candidateAndProvider a.privacyPermissions
    ⟨e.privacyPermissions.facts, e.candidateSha, e.providerStateSha256⟩
  human : F.Reads .human .candidateAndProvider a.humanEvaluation
    ⟨e.humanEvaluation.facts, e.candidateSha, e.providerStateSha256⟩
  limitations : parseKnownLimitationsReviewStatus a.knownLimitations = some e.knownLimitations.reviewStatus
  digests : ∀ x ∈ boundArtifacts e a, x.1 = F.sha256Hex x.2

theorem assemble_eq_ok {inputs : Rt0ExitAssemblyInputs} {e : Rt0ExitEvidence}
    (h : F.assembleRt0ExitEvidence inputs = .ok e) : F.Claims inputs.supporting e := by
  obtain ⟨report, hp, h⟩ := Except.bind_eq_ok h
  obtain ⟨_, _, h⟩ := Except.bind_eq_ok h
  obtain ⟨p, hd⟩ := preflight_eq_ok (Except.mapError_eq_ok.mp hp)
  simp only [hd] at h
  obtain ⟨ci, hci, h⟩ := Except.bind_eq_ok h
  obtain ⟨e2e, he2e, h⟩ := Except.bind_eq_ok h
  obtain ⟨owner, howner, h⟩ := Except.bind_eq_ok h
  obtain ⟨visitor, hvisitor, h⟩ := Except.bind_eq_ok h
  obtain ⟨acceptance, hacceptance, h⟩ := Except.bind_eq_ok h
  obtain ⟨quality, hquality, h⟩ := Except.bind_eq_ok h
  obtain ⟨cost, hcost, h⟩ := Except.bind_eq_ok h
  obtain ⟨privacy, hprivacy, h⟩ := Except.bind_eq_ok h
  obtain ⟨human, hhuman, h⟩ := Except.bind_eq_ok h
  obtain ⟨_, _, h⟩ := Except.bind_eq_ok h
  obtain ⟨_, _, h⟩ := Except.bind_eq_ok h
  cases h
  have ⟨c₁, r₁, s₁, v₁⟩ := p.ci
  have ⟨c₂, r₂, s₂, v₂⟩ := p.e2e
  have ⟨_, r₃⟩ := p.owner
  have ⟨_, r₄⟩ := p.visitor
  have ⟨_, r₅⟩ := p.acceptance
  have ⟨_, r₆⟩ := p.quality
  have ⟨_, r₇⟩ := p.cost
  have ⟨_, r₈⟩ := p.privacy
  have ⟨_, r₉⟩ := p.human
  obtain rfl := projectedClaim_eq_ok automated_bindable r₁ hci
  obtain rfl := projectedClaim_eq_ok automated_bindable r₂ he2e
  obtain rfl := projectedClaim_eq_ok conversation_bindable r₃ howner
  obtain rfl := projectedClaim_eq_ok conversation_bindable r₄ hvisitor
  obtain rfl := projectedClaim_eq_ok acceptance_bindable r₅ hacceptance
  obtain rfl := projectedClaim_eq_ok quality_bindable r₆ hquality
  obtain rfl := projectedClaim_eq_ok cost_bindable r₇ hcost
  obtain rfl := projectedClaim_eq_ok privacy_bindable r₈ hprivacy
  obtain rfl := projectedClaim_eq_ok human_bindable r₉ hhuman
  exact ⟨⟨c₁, r₁, s₁, v₁, rfl⟩, ⟨c₂, r₂, s₂, v₂, rfl⟩, r₃, r₄, r₅, r₆, r₇, r₈, r₉, p.limitations,
    by simp [boundArtifacts]⟩

variable {e : Rt0ExitEvidence}

theorem digests_valid (hd : ∀ x ∈ boundArtifacts e artifacts, x.1 = F.sha256Hex x.2) :
    F.validateSupportingArtifactDigests e artifacts = .ok () := by
  refine (congrArg (ExitGate.require .invalidArtifactDigest) (List.all_eq_true.mpr ?_)).trans rfl
  intro x hx
  simp [hd x hx, F.hex]

theorem automated_valid {claim : ArtifactCheckEvidence} {digest : String}
    (h : ∃ c, F.Reads .automated .candidateWithAutomationReference bytes c ∧ c.candidateSha = candidateSha ∧
      EvidenceBinding.validSha256 c.boundSha256 = true ∧ claim = ⟨c.facts, digest⟩) :
    F.validateAutomatedSupportingClaim bytes claim candidateSha = .ok () := by
  obtain ⟨c, ⟨j, hj, hd⟩, hs, hv, rfl⟩ := h
  simp [validateAutomatedSupportingClaim, fromSlice, hj, hd, hs, hv, ExitGate.orElse, ExitGate.require,
    Except.ok_bind]

theorem require_bind_eq_ok_iff {error : Rt0ExitEvidenceError} {b : Bool} :
    (ExitGate.require error b >>= fun _ => .ok ()) = .ok () ↔ b = true := by
  cases b
  case false => exact ⟨(by cases ·), (by cases ·)⟩
  case true  => exact ⟨fun _ => rfl, fun _ => rfl⟩

theorem Claims.validate_iff (c : F.Claims artifacts e) :
    F.validateRt0ExitSupportingArtifacts e artifacts = .ok () ↔ F.PlainArtifacts artifacts := by
  have hr : ExitGate.require .invalidArtifactDigest (decide True) = .ok () := rfl
  simp only [validateRt0ExitSupportingArtifacts, digests_valid c.digests, Except.ok_bind, validateSupportingClaims,
    automated_valid c.ci, automated_valid c.e2e, conversation_bindable.realClaim, acceptance_bindable.realClaim,
    quality_bindable.realClaim, cost_bindable.realClaim, privacy_bindable.realClaim, human_bindable.realClaim,
    c.limitations, ExitGate.orElse, hr, require_bind_eq_ok_iff, List.all_cons, List.all_nil, Bool.and_true,
    Bool.and_eq_true, any_value_iff conversation_bindable c.owner, any_value_iff conversation_bindable c.visitor,
    any_value_iff acceptance_bindable c.acceptance, any_value_iff quality_bindable c.quality,
    any_value_iff cost_bindable c.cost, any_value_iff privacy_bindable c.privacy,
    any_value_iff human_bindable c.human]
  constructor
  case mp =>
    intro h
    obtain ⟨h₁, h₂, h₃, h₄, h₅, h₆, h₇⟩ := h
    exact ⟨h₁, h₂, h₃, h₄, h₅, h₆, h₇⟩
  case mpr =>
    exact fun h => ⟨h.ownerConversation, h.visitorConversation, h.acceptance, h.quality, h.cost,
      h.privacyPermissions, h.humanEvaluation⟩

-- What the assembler assembles the verifier accepts exactly when its artifacts are written plainly.
theorem assembled_validate (F : ArtifactFormat) (inputs : Rt0ExitAssemblyInputs) :
    (F.assembleRt0ExitEvidence inputs).toOption.map
        (fun e => F.validateRt0ExitSupportingArtifacts e inputs.supporting = .ok ()) =
      (F.assembleRt0ExitEvidence inputs).toOption.map fun _ => F.PlainArtifacts inputs.supporting := by
  cases h : F.assembleRt0ExitEvidence inputs
  case error => rfl
  case ok e  => exact congrArg some (propext (assemble_eq_ok h).validate_iff)

-- The value that is kept of an artifact is the one of a record that says `c`.
def Shows (F : ArtifactFormat) (f : FieldsCodec α) (bytes : List UInt8) (c : SupportingClaim α) : Prop :=
  ∃ j, F.parse bytes = some j ∧ j.value = (f.supporting .candidateAndProvider).record.encode c

theorem Shows.inj {c c' : SupportingClaim α} (hb : f.Bindable) (h : F.Shows f bytes c) (h' : F.Shows f bytes c') :
    c = c' := by
  obtain ⟨j, hj, he⟩ := h
  obtain ⟨j', hj', he'⟩ := h'
  obtain rfl : j = j' := Option.some.inj (hj.symm.trans hj')
  exact (record_lawful hb.supporting_lawful).encode_inj he he'

-- Everything that the verifier makes sure of.
structure Verified (F : ArtifactFormat) (a : Rt0SupportingArtifacts) (e : Rt0ExitEvidence) : Prop where
  ci : ∃ c, F.Reads .automated .candidateWithAutomationReference a.ci c ∧ c.facts = e.automated.ci.facts ∧
    c.candidateSha = e.candidateSha ∧ EvidenceBinding.validSha256 c.boundSha256 = true
  e2e : ∃ c, F.Reads .automated .candidateWithAutomationReference a.e2e c ∧ c.facts = e.automated.e2e.facts ∧
    c.candidateSha = e.candidateSha ∧ EvidenceBinding.validSha256 c.boundSha256 = true
  owner : F.Shows .conversation a.ownerConversation
    ⟨e.conversations.owner.facts, e.candidateSha, e.providerStateSha256⟩
  visitor : F.Shows .conversation a.visitorConversation
    ⟨e.conversations.visitor.facts, e.candidateSha, e.providerStateSha256⟩
  acceptance : F.Shows .acceptance a.acceptance ⟨e.acceptance.facts, e.candidateSha, e.providerStateSha256⟩
  quality : F.Shows .quality a.quality ⟨e.quality.facts, e.candidateSha, e.providerStateSha256⟩
  cost : F.Shows .cost a.cost ⟨e.cost.facts, e.candidateSha, e.providerStateSha256⟩
  privacy : F.Shows .privacy a.privacyPermissions
    ⟨e.privacyPermissions.facts, e.candidateSha, e.providerStateSha256⟩
  human : F.Shows .human a.humanEvaluation ⟨e.humanEvaluation.facts, e.candidateSha, e.providerStateSha256⟩
  limitations : parseKnownLimitationsReviewStatus a.knownLimitations = some e.knownLimitations.reviewStatus
  digests : ∀ x ∈ boundArtifacts e a, x.1 = F.sha256Hex x.2

theorem exitGate_orElse_eq_ok {o : Option α} {error : Rt0ExitEvidenceError} {a : α}
    (h : ExitGate.orElse error o = .ok a) : o = some a := by
  cases o <;> cases h
  rfl

theorem exitGate_require_eq_ok {error : Rt0ExitEvidenceError} {b : Bool}
    (h : ExitGate.require error b = .ok ()) : b = true := by
  cases b <;> cases h
  rfl

theorem validateAutomatedSupportingClaim_eq_ok {claim : ArtifactCheckEvidence}
    (h : F.validateAutomatedSupportingClaim bytes claim candidateSha = .ok ()) :
    ∃ c, F.Reads .automated .candidateWithAutomationReference bytes c ∧ c.facts = claim.facts ∧
      c.candidateSha = candidateSha ∧ EvidenceBinding.validSha256 c.boundSha256 = true := by
  obtain ⟨c, hc, h⟩ := Except.bind_eq_ok h
  have h := exitGate_require_eq_ok h
  simp only [Bool.and_eq_true, decide_eq_true_eq] at h
  exact ⟨c, fromSlice_eq_some (exitGate_orElse_eq_ok hc), h.1.1, h.1.2, h.2⟩

theorem validateSupportingArtifactDigests_eq_ok (h : F.validateSupportingArtifactDigests e artifacts = .ok ()) :
    ∀ x ∈ boundArtifacts e artifacts, x.1 = F.sha256Hex x.2 := by
  intro x hx
  have h := List.all_eq_true.mp (exitGate_require_eq_ok h) x hx
  simp only [Bool.and_eq_true, decide_eq_true_eq] at h
  exact h.2

theorem validate_eq_ok (h : F.validateRt0ExitSupportingArtifacts e artifacts = .ok ()) : F.Verified artifacts e := by
  obtain ⟨_, hd, h⟩ := Except.bind_eq_ok h
  obtain ⟨_, h₁, h⟩ := Except.bind_eq_ok h
  obtain ⟨_, h₂, h⟩ := Except.bind_eq_ok h
  simp only [conversation_bindable.realClaim, acceptance_bindable.realClaim, quality_bindable.realClaim,
    cost_bindable.realClaim, privacy_bindable.realClaim, human_bindable.realClaim, Except.ok_bind] at h
  obtain ⟨_, hv, h⟩ := Except.bind_eq_ok h
  obtain ⟨status, hs, h⟩ := Except.bind_eq_ok h
  obtain rfl := of_decide_eq_true (exitGate_require_eq_ok h)
  have hv := exitGate_require_eq_ok hv
  simp only [List.all_cons, List.all_nil, Bool.and_true, Bool.and_eq_true, Option.any_eq_true,
    decide_eq_true_eq] at hv
  obtain ⟨h₃, h₄, h₅, h₆, h₇, h₈, h₉⟩ := hv
  exact ⟨validateAutomatedSupportingClaim_eq_ok h₁, validateAutomatedSupportingClaim_eq_ok h₂, h₃, h₄, h₅, h₆, h₇,
    h₈, h₉, exitGate_orElse_eq_ok hs, validateSupportingArtifactDigests_eq_ok hd⟩

theorem reads_written {c : SupportingClaim α} (hb : f.Bindable) (hn : f.Normal)
    (h : F.parse bytes = some ((f.supporting binding).record.encode c)) : F.Reads f binding bytes c :=
  ⟨_, h, (hb.roundTrip hn).read binding⟩

theorem plain_written {c : SupportingClaim α} (hb : f.Bindable) (hn : f.Normal)
    (h : F.parse bytes = some ((f.supporting .candidateAndProvider).record.encode c)) : F.WrittenPlainly f bytes := by
  intro j hj
  obtain rfl := Option.some.inj (h.symm.trans hj)
  exact (hb.roundTrip hn).plain .candidateAndProvider

theorem claimed_eq {c c' : Claimed α} (hf : c.facts = c'.facts) (hd : c.artifactSha256 = c'.artifactSha256) :
    c = c' := by
  cases c
  cases c'
  simp_all

theorem Reads.inj {c c' : SupportingClaim α} (h : F.Reads f binding bytes c) (h' : F.Reads f binding bytes c') :
    c = c' := by
  obtain ⟨j, hj, hd⟩ := h
  obtain ⟨j', hj', hd'⟩ := h'
  obtain rfl : j = j' := Option.some.inj (hj.symm.trans hj')
  exact Option.some.inj (hd.symm.trans hd')

-- The artifacts determine the candidate, the provider state and every claim of the evidence that the
-- verifier accepts with them.
theorem verified_unique {e' : Rt0ExitEvidence} (h : F.validateRt0ExitSupportingArtifacts e artifacts = .ok ())
    (h' : F.validateRt0ExitSupportingArtifacts e' artifacts = .ok ()) :
    e' = { e with
      schemaVersion               := e'.schemaVersion
      releaseSpecSha256           := e'.releaseSpecSha256
      goldenReportSha256          := e'.goldenReportSha256
      ownerGoldenSuiteSha256      := e'.ownerGoldenSuiteSha256
      ownerGoldenEvidenceSha256   := e'.ownerGoldenEvidenceSha256
      ownerGoldenReportSha256     := e'.ownerGoldenReportSha256
      liveProviderProbeSha256     := e'.liveProviderProbeSha256
      conversationAttemptSha256   := e'.conversationAttemptSha256
      boundSessionAggregateSha256 := e'.boundSessionAggregateSha256 } := by
  have v := validate_eq_ok h
  have v' := validate_eq_ok h'
  have d := v.digests
  have d' := v'.digests
  simp only [boundArtifacts, List.forall_mem_cons] at d d'
  obtain ⟨_, ci, hci, _⟩ := v.ci
  obtain ⟨_, ci', hci', _⟩ := v'.ci
  obtain ⟨_, e2e, he2e, _⟩ := v.e2e
  obtain ⟨_, e2e', he2e', _⟩ := v'.e2e
  have hci : e'.automated.ci.facts = e.automated.ci.facts := by rw [← hci, ← hci', ci.inj ci']
  have he2e : e'.automated.e2e.facts = e.automated.e2e.facts := by rw [← he2e, ← he2e', e2e.inj e2e']
  have howner := v'.owner.inj conversation_bindable v.owner
  have hvisitor := v'.visitor.inj conversation_bindable v.visitor
  have hacceptance := v'.acceptance.inj acceptance_bindable v.acceptance
  have hquality := v'.quality.inj quality_bindable v.quality
  have hcost := v'.cost.inj cost_bindable v.cost
  have hprivacy := v'.privacy.inj privacy_bindable v.privacy
  have hhuman := v'.human.inj human_bindable v.human
  have hlimitations := Option.some.inj (v'.limitations.symm.trans v.limitations)
  simp only [SupportingClaim.mk.injEq] at howner hvisitor hacceptance hquality hcost hprivacy hhuman
  obtain ⟨d₁, d₂, d₃, d₄, d₅, d₆, d₇, d₈, d₉, d₁₀, _⟩ := d
  obtain ⟨d₁', d₂', d₃', d₄', d₅', d₆', d₇', d₈', d₉', d₁₀', _⟩ := d'
  have hautomated : e'.automated = e.automated :=
    congrArg₂ AutomatedEvidence.mk (claimed_eq hci (d₁'.trans d₁.symm)) (claimed_eq he2e (d₂'.trans d₂.symm))
  have hconversations : e'.conversations = e.conversations :=
    congrArg₂ ConversationPairEvidence.mk (claimed_eq howner.1 (d₃'.trans d₃.symm))
      (claimed_eq hvisitor.1 (d₄'.trans d₄.symm))
  have hlimitations : e'.knownLimitations = e.knownLimitations :=
    congrArg₂ KnownLimitationsEvidence.mk hlimitations (d₁₀'.trans d₁₀.symm)
  rw [← howner.2.1, ← howner.2.2, ← hautomated, ← hconversations, ← claimed_eq hacceptance.1 (d₅'.trans d₅.symm),
    ← claimed_eq hquality.1 (d₆'.trans d₆.symm), ← claimed_eq hcost.1 (d₇'.trans d₇.symm),
    ← claimed_eq hprivacy.1 (d₈'.trans d₈.symm), ← claimed_eq hhuman.1 (d₉'.trans d₉.symm), ← hlimitations]

-- Evidence of a candidate `c`, with the artifacts that it is accepted with.
def acceptedEvidence : Rt0ExitEvidence :=
  let digest := String.ofList (List.replicate 64 '0')
  let zero : U32 := ⟨0, by decide⟩
  let latency : LatencyMillis := ⟨⟨1, 1, 1⟩, by decide⟩
  let conversation (role : ParticipantRole) : ConversationEvidence :=
    ⟨⟨.real, role, .passed, .passed, .passed, zero, .passed⟩, digest⟩
  { schemaVersion               := rt0ExitEvidenceSchema
    candidateSha                := "c"
    releaseSpecSha256           := digest
    goldenReportSha256          := digest
    ownerGoldenSuiteSha256      := digest
    ownerGoldenEvidenceSha256   := digest
    ownerGoldenReportSha256     := digest
    providerStateSha256         := digest
    liveProviderProbeSha256     := digest
    conversationAttemptSha256   := digest
    boundSessionAggregateSha256 := digest
    automated                   := ⟨⟨.passed, digest⟩, ⟨.passed, digest⟩⟩
    conversations               := ⟨conversation .owner, conversation .visitor⟩
    acceptance                  := ⟨⟨.real, .passed, .passed, .passed, .passed, .passed⟩, digest⟩
    quality                     := ⟨⟨.real, latency, latency, latency, latency, latency, latency⟩, digest⟩
    cost                        := ⟨⟨.real, [.stt], [], ⟨0, by decide⟩, none, none⟩, digest⟩
    privacyPermissions          := ⟨⟨.real, .passed, zero, zero, .passed, .passed⟩, digest⟩
    humanEvaluation             := ⟨⟨.real, "1", zero, .passed, .passed,
      ⟨.recorded, .recorded, .recorded, .recorded, .recorded⟩, .passed⟩, digest⟩
    knownLimitations            := ⟨.passed, digest⟩ }

def acceptedArtifacts : Rt0SupportingArtifacts where
  ci                  := [0]
  e2e                 := [0]
  ownerConversation   := [1]
  visitorConversation := [2]
  acceptance          := [3]
  quality             := [4]
  cost                := [5]
  privacyPermissions  := [6]
  humanEvaluation     := [7]
  knownLimitations    := "RT0-Review-Status: passed\nnone".toList.map (·.toNat.toUInt8)

def acceptedFormat : ArtifactFormat :=
  let digest := String.ofList (List.replicate 64 '0')
  let text {α : Type} (f : FieldsCodec α) (claim : Claimed α) : Json :=
    (f.supporting .candidateAndProvider).record.encode ⟨claim.facts, "c", digest⟩
  let automated := (FieldsCodec.automated.supporting .candidateWithAutomationReference).record.encode
    ⟨.passed, "c", digest⟩
  { parse bytes      := [
      ([0], automated),
      ([1], text .conversation acceptedEvidence.conversations.owner),
      ([2], text .conversation acceptedEvidence.conversations.visitor),
      ([3], text .acceptance acceptedEvidence.acceptance),
      ([4], text .quality acceptedEvidence.quality),
      ([5], text .cost acceptedEvidence.cost),
      ([6], text .privacy acceptedEvidence.privacyPermissions),
      ([7], text .human acceptedEvidence.humanEvaluation)].lookup bytes
    sha256Hex _      := digest
    hex _            := by decide +kernel
    snapshotSha256 _ := digest
    lowercase        := id }

theorem verified_unique_accepted :
    acceptedFormat.validateRt0ExitSupportingArtifacts acceptedEvidence acceptedArtifacts = .ok () ∧
      ∀ e, acceptedFormat.validateRt0ExitSupportingArtifacts e acceptedArtifacts = .ok () →
        e.candidateSha = "c" ∧ e.automated = acceptedEvidence.automated := by
  have c : acceptedFormat.Claims acceptedArtifacts acceptedEvidence :=
    ⟨⟨_, reads_written automated_bindable automated_normal rfl, rfl, acceptedFormat.hex [], rfl⟩,
      ⟨_, reads_written automated_bindable automated_normal rfl, rfl, acceptedFormat.hex [], rfl⟩,
      reads_written conversation_bindable conversation_normal rfl,
      reads_written conversation_bindable conversation_normal rfl,
      reads_written acceptance_bindable acceptance_normal rfl,
      reads_written quality_bindable quality_normal rfl,
      reads_written cost_bindable cost_normal rfl,
      reads_written privacy_bindable privacy_normal rfl,
      reads_written human_bindable human_normal rfl,
      by decide +kernel,
      by simp [boundArtifacts, acceptedEvidence, acceptedFormat]⟩
  have h : acceptedFormat.validateRt0ExitSupportingArtifacts acceptedEvidence acceptedArtifacts = .ok () :=
    c.validate_iff.mpr ⟨plain_written conversation_bindable conversation_normal rfl,
      plain_written conversation_bindable conversation_normal rfl,
      plain_written acceptance_bindable acceptance_normal rfl, plain_written quality_bindable quality_normal rfl,
      plain_written cost_bindable cost_normal rfl, plain_written privacy_bindable privacy_normal rfl,
      plain_written human_bindable human_normal rfl⟩
  refine ⟨h, fun e h' => ?_⟩
  have hu := verified_unique h h'
  have hc := congrArg Rt0ExitEvidence.candidateSha hu
  have ha := congrArg Rt0ExitEvidence.automated hu
  exact ⟨hc, ha⟩

end ArtifactFormat
