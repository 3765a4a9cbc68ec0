import PersonaRuntime.Evaluation.SupportingScaffold
import PersonaRuntime.Evaluation.Theorems.ExitAgreement

-- The file says what was laid out, whatever the order of its keys.
def ScaffoldFile.In (F : ArtifactFormat) (bytes : List UInt8) : ScaffoldFile → Prop
  | json value   => (F.parse bytes).map Json.value = some value.value
  | text content => fromUtf8 bytes = some content

-- The directory that the supporting artifacts are read from
def Rt0SupportingArtifacts.files (a : Rt0SupportingArtifacts) : List (String × List UInt8) := [
  ("ci-evidence.json", a.ci),
  ("e2e-evidence.json", a.e2e),
  ("owner-conversation.json", a.ownerConversation),
  ("visitor-conversation.json", a.visitorConversation),
  ("acceptance.json", a.acceptance),
  ("quality.json", a.quality),
  ("cost.json", a.cost),
  ("privacy-permissions.json", a.privacyPermissions),
  ("human-evaluation.json", a.humanEvaluation),
  ("known-limitations.md", a.knownLimitations)]

namespace Rt0Scaffold

open FieldsCodec ArtifactFormat

variable {candidateSha providerStateSha256 : String}

-- Each scaffold is a record that the strict reader takes, of a claim that is synthetic.

theorem conversation_reads (role : ParticipantRole) :
    (FieldsCodec.conversation.supporting .candidateAndProvider).record.decode
        (conversation candidateSha providerStateSha256 role.jsonName) =
      some ⟨⟨.synthetic, role, .failed, .failed, .failed, ⟨0, by decide⟩, .failed⟩, candidateSha,
        providerStateSha256⟩ := by
  cases role
  case owner   => rfl
  case visitor => rfl

theorem quality_reads : (FieldsCodec.quality.supporting .candidateAndProvider).record.decode
    (quality candidateSha providerStateSha256) =
      let latency : LatencyMillis := ⟨⟨1, 0, 0⟩, by decide⟩
      some ⟨⟨.synthetic, latency, latency, latency, latency, latency, latency⟩, candidateSha, providerStateSha256⟩ := by
  rfl

theorem acceptance_reads : (FieldsCodec.acceptance.supporting .candidateAndProvider).record.decode
    (acceptance candidateSha providerStateSha256) =
      some ⟨⟨.synthetic, .failed, .failed, .failed, .failed, .failed⟩, candidateSha, providerStateSha256⟩ := by
  rfl

theorem cost_reads : (FieldsCodec.cost.supporting .candidateAndProvider).record.decode
    (cost candidateSha providerStateSha256) =
      some ⟨⟨.synthetic, [], [], ⟨0, by decide⟩, none, none⟩, candidateSha, providerStateSha256⟩ := by
  rfl

theorem privacyPermissions_reads : (FieldsCodec.privacy.supporting .candidateAndProvider).record.decode
    (privacyPermissions candidateSha providerStateSha256) =
      some ⟨⟨.synthetic, .failed, ⟨0, by decide⟩, ⟨0, by decide⟩, .failed, .failed⟩, candidateSha,
        providerStateSha256⟩ := by
  rfl

theorem humanEvaluation_reads : (FieldsCodec.human.supporting .candidateAndProvider).record.decode
    (humanEvaluation candidateSha providerStateSha256) =
      some ⟨⟨.synthetic, "UNREVIEWED", ⟨0, by decide⟩, .failed, .failed,
        ⟨.missing, .missing, .missing, .missing, .missing⟩, .failed⟩, candidateSha, providerStateSha256⟩ := by
  rfl

theorem knownLimitations_failed {bytes : List UInt8} (h : fromUtf8 bytes = some knownLimitations) :
    parseKnownLimitationsReviewStatus bytes = some .failed := by
  rw [parseKnownLimitationsReviewStatus, h]
  decide +kernel

end Rt0Scaffold

namespace Rt0ExitGate

open ArtifactFormat FieldsCodec Rt0Scaffold

variable {F : ArtifactFormat} {required : List UInt8} {recorded : Recorded}
variable {α : Type} {f : FieldsCodec α} {bytes : List UInt8}

-- An artifact that is still a scaffold shows what the scaffold says, which is synthetic.
theorem not_real_of_scaffold {c c' : SupportingClaim α} {value : Json} {origin : α → EvidenceOrigin} (hb : f.Bindable)
    (hn : f.Normal) (h : F.Shows f bytes c) (hp : (F.parse bytes).map Json.value = some value.value)
    (hd : (f.supporting .candidateAndProvider).record.decode value = some c') (hs : origin c'.facts = .synthetic) :
    origin c.facts ≠ .real := by
  obtain ⟨j, hj, he⟩ := h
  have hv : j.value = value.value := by simpa [hj] using hp
  have hd := (record_lawful hb.supporting_lawful).decode_value hd
  rw [← hv, he, (hb.roundTrip hn).read] at hd
  obtain rfl := Option.some.inj hd
  simp [hs]

-- A release with an artifact that is still as it was laid out, for whatever candidate and providers, is never
-- called ready.
theorem scaffold_not_ready {name candidateSha providerStateSha256 : String} {file : ScaffoldFile}
    (hs : (name, file) ∈ rt0RuntimeSupportingScaffold candidateSha providerStateSha256 ++
      rt0ManualSupportingScaffold candidateSha providerStateSha256)
    (hb : (name, bytes) ∈ recorded.supportingArtifacts.files) (hf : file.In F bytes) (derived : Derived) :
    (run F required recorded derived).map (·.ready) ≠ .ok true := by
  intro hr
  cases hx : run F required recorded derived <;> rw [hx] at hr
  case error => cases hr
  case ok report =>
    obtain ⟨e, golden, ownerGolden, providerState, a, rfl⟩ := run_eq_ok hx
    have hr := ready_iff.mp (Except.ok.inj hr)
    have r := reviewed_of_ready hr
    have v := a.verified
    simp only [rt0RuntimeSupportingScaffold, rt0ManualSupportingScaffold, List.cons_append, List.nil_append,
      List.mem_cons, List.not_mem_nil, or_false, Prod.mk.injEq] at hs
    simp only [Rt0SupportingArtifacts.files, List.mem_cons, List.not_mem_nil, or_false, Prod.mk.injEq] at hb
    obtain ⟨rfl, rfl⟩ | ⟨rfl, rfl⟩ | ⟨rfl, rfl⟩ | ⟨rfl, rfl⟩ | ⟨rfl, rfl⟩ | ⟨rfl, rfl⟩ | ⟨rfl, rfl⟩ | ⟨rfl, rfl⟩ := hs
    all_goals simp at hb
    all_goals subst hb
    case inl =>
      exact not_real_of_scaffold conversation_bindable conversation_normal v.owner hf (conversation_reads .owner)
        rfl r.owner
    case inr.inl =>
      exact not_real_of_scaffold conversation_bindable conversation_normal v.visitor hf (conversation_reads .visitor)
        rfl r.visitor
    case inr.inr.inl =>
      exact not_real_of_scaffold quality_bindable quality_normal v.quality hf quality_reads rfl r.quality
    case inr.inr.inr.inl =>
      exact not_real_of_scaffold acceptance_bindable acceptance_normal v.acceptance hf acceptance_reads rfl r.acceptance
    case inr.inr.inr.inr.inl =>
      exact not_real_of_scaffold cost_bindable cost_normal v.cost hf cost_reads rfl r.cost
    case inr.inr.inr.inr.inr.inl =>
      exact not_real_of_scaffold privacy_bindable privacy_normal v.privacy hf privacyPermissions_reads rfl r.privacy
    case inr.inr.inr.inr.inr.inr.inl =>
      exact not_real_of_scaffold human_bindable human_normal v.human hf humanEvaluation_reads rfl r.human
    case inr.inr.inr.inr.inr.inr.inr =>
      have hl := v.limitations.symm.trans (knownLimitations_failed hf)
      rw [r.limitations] at hl
      cases hl

-- The release with the scaffold of its human evaluation, of which somebody moved the keys
def scaffoldTexts : List (List UInt8 × Json) :=
  ([7], .object [("usable_for_continuation", text "failed"), ("reviewer_count", zero), ("origin", text "synthetic"),
    ("rubric_version", text "UNREVIEWED"), ("owner_human_participant_verified", text "failed"),
    ("visitor_distinct_non_owner_human_verified", text "failed"),
    ("dimensions", .object [("voice_similarity", text "missing"), ("voice_naturalness", text "missing"),
      ("appearance_plausibility", text "missing"), ("persona_similarity", text "missing"),
      ("conversation_naturalness", text "missing")]),
    ("provider_state_sha256", text ExampleRelease.digest), ("candidate_sha", text ExampleRelease.sha)]) ::
  ExampleRelease.texts

theorem scaffold_not_ready_moved :
    (run (ExampleRelease.format scaffoldTexts) [8] ExampleRelease.recorded ExampleRelease.derived).map (·.ready) ≠
      .ok true := by
  let value := humanEvaluation ExampleRelease.sha ExampleRelease.digest
  have hs : ("human-evaluation.json", ScaffoldFile.json value) ∈
      rt0RuntimeSupportingScaffold ExampleRelease.sha ExampleRelease.digest ++
        rt0ManualSupportingScaffold ExampleRelease.sha ExampleRelease.digest := by
    simp [rt0RuntimeSupportingScaffold, rt0ManualSupportingScaffold, value]
  have hb : ("human-evaluation.json", [7]) ∈ ExampleRelease.recorded.supportingArtifacts.files := by
    simp [Rt0SupportingArtifacts.files, ExampleRelease.recorded, acceptedArtifacts]
  have hf : (ScaffoldFile.json value).In (ExampleRelease.format scaffoldTexts) [7] := by
    simp only [ScaffoldFile.In, value]
    decide +kernel
  exact scaffold_not_ready hs hb hf ExampleRelease.derived

end Rt0ExitGate
