import PersonaRuntime.Evaluation.ExitAssembly

theorem EvidenceOrigin.json_lawful : EvidenceOrigin.json.Lawful :=
  JsonCodec.variant_lawful (fun a => by cases a <;> decide) (fun a b => by cases a <;> cases b <;> decide)

theorem ParticipantRole.json_lawful : ParticipantRole.json.Lawful :=
  JsonCodec.variant_lawful (fun a => by cases a <;> decide) (fun a b => by cases a <;> cases b <;> decide)

theorem CheckStatus.json_lawful : CheckStatus.json.Lawful :=
  JsonCodec.variant_lawful (fun a => by cases a <;> decide) (fun a b => by cases a <;> cases b <;> decide)

theorem RecordStatus.json_lawful : RecordStatus.json.Lawful :=
  JsonCodec.variant_lawful (fun a => by cases a <;> decide) (fun a b => by cases a <;> cases b <;> decide)

theorem ProviderRole.json_lawful : ProviderRole.json.Lawful :=
  JsonCodec.variant_lawful (fun a => by cases a <;> decide) (fun a b => by cases a <;> cases b <;> decide)

namespace FieldsCodec

open JsonCodec

theorem latency_lawful : latency.Lawful := by
  apply map_lawful
  case h =>
    apply both_lawful (field_lawful unsigned_lawful) _ (by decide)
    exact both_lawful (field_lawful unsigned_lawful) (field_lawful unsigned_lawful) (by decide)
  case hi => exact fun _ => rfl
  case hb => exact fun _ => rfl

theorem automated_lawful : automated.Lawful :=
  field_lawful CheckStatus.json_lawful

theorem conversation_lawful : conversation.Lawful := by
  have check {name : String} : (field name CheckStatus.json).Lawful := field_lawful CheckStatus.json_lawful
  apply map_lawful
  case h =>
    apply both_lawful (field_lawful EvidenceOrigin.json_lawful) _ (by decide)
    apply both_lawful (field_lawful ParticipantRole.json_lawful) _ (by decide)
    apply both_lawful check _ (by decide)
    apply both_lawful check _ (by decide)
    apply both_lawful check _ (by decide)
    exact both_lawful (field_lawful unsigned_lawful) check (by decide)
  case hi => exact fun _ => rfl
  case hb => exact fun _ => rfl

theorem acceptance_lawful : acceptance.Lawful := by
  have check {name : String} : (field name CheckStatus.json).Lawful := field_lawful CheckStatus.json_lawful
  apply map_lawful
  case h =>
    apply both_lawful (field_lawful EvidenceOrigin.json_lawful) _ (by decide)
    apply both_lawful check _ (by decide)
    apply both_lawful check _ (by decide)
    apply both_lawful check _ (by decide)
    exact both_lawful check check (by decide)
  case hi => exact fun _ => rfl
  case hb => exact fun _ => rfl

theorem quality_lawful : quality.Lawful := by
  have distribution {name : String} : (field name latency.record).Lawful :=
    field_lawful (record_lawful latency_lawful)
  apply map_lawful
  case h =>
    apply both_lawful (field_lawful EvidenceOrigin.json_lawful) _ (by decide)
    apply both_lawful distribution _ (by decide)
    apply both_lawful distribution _ (by decide)
    apply both_lawful distribution _ (by decide)
    apply both_lawful distribution _ (by decide)
    exact both_lawful distribution distribution (by decide)
  case hi => exact fun _ => rfl
  case hb => exact fun _ => rfl

theorem cost_lawful : cost.Lawful := by
  have roles {name : String} : (field name ProviderRole.json.list).Lawful :=
    field_lawful (list_lawful ProviderRole.json_lawful)
  have amount {name : String} : (optionalField name u64).Lawful := optionalField_lawful unsigned_lawful rfl
  apply map_lawful
  case h =>
    apply both_lawful (field_lawful EvidenceOrigin.json_lawful) _ (by decide)
    apply both_lawful roles _ (by decide)
    apply both_lawful roles _ (by decide)
    apply both_lawful (field_lawful unsigned_lawful) _ (by decide)
    exact both_lawful amount amount (by decide)
  case hi => exact fun _ => rfl
  case hb => exact fun _ => rfl

theorem privacy_lawful : privacy.Lawful := by
  have check {name : String} : (field name CheckStatus.json).Lawful := field_lawful CheckStatus.json_lawful
  apply map_lawful
  case h =>
    apply both_lawful (field_lawful EvidenceOrigin.json_lawful) _ (by decide)
    apply both_lawful check _ (by decide)
    apply both_lawful (field_lawful unsigned_lawful) _ (by decide)
    apply both_lawful (field_lawful unsigned_lawful) _ (by decide)
    exact both_lawful check check (by decide)
  case hi => exact fun _ => rfl
  case hb => exact fun _ => rfl

theorem dimensions_lawful : dimensions.Lawful := by
  have review {name : String} : (field name RecordStatus.json).Lawful := field_lawful RecordStatus.json_lawful
  apply map_lawful
  case h =>
    apply both_lawful review _ (by decide)
    apply both_lawful review _ (by decide)
    apply both_lawful review _ (by decide)
    exact both_lawful review review (by decide)
  case hi => exact fun _ => rfl
  case hb => exact fun _ => rfl

theorem human_lawful : human.Lawful := by
  have check {name : String} : (field name CheckStatus.json).Lawful := field_lawful CheckStatus.json_lawful
  apply map_lawful
  case h =>
    apply both_lawful (field_lawful EvidenceOrigin.json_lawful) _ (by decide)
    apply both_lawful (field_lawful text_lawful) _ (by decide)
    apply both_lawful (field_lawful unsigned_lawful) _ (by decide)
    apply both_lawful check _ (by decide)
    apply both_lawful check _ (by decide)
    exact both_lawful (field_lawful (record_lawful dimensions_lawful)) check (by decide)
  case hi => exact fun _ => rfl
  case hb => exact fun _ => rfl

-- The keys that an artifact or a claim has next to what it says.
def bindingKeys : List String :=
  ["artifact_sha256", "candidate_sha", "evidence_reference_sha256", "provider_state_sha256"]

-- Facts that an artifact can bind and the exit evidence can claim.
structure Bindable {α : Type} (f : FieldsCodec α) : Prop where
  lawful : f.Lawful
  free   : ∀ k ∈ f.names, k ∉ bindingKeys

theorem automated_bindable : automated.Bindable :=
  ⟨automated_lawful, by decide⟩

theorem conversation_bindable : conversation.Bindable :=
  ⟨conversation_lawful, by decide⟩

theorem acceptance_bindable : acceptance.Bindable :=
  ⟨acceptance_lawful, by decide⟩

theorem quality_bindable : quality.Bindable :=
  ⟨quality_lawful, by decide⟩

theorem cost_bindable : cost.Bindable :=
  ⟨cost_lawful, by decide⟩

theorem privacy_bindable : privacy.Bindable :=
  ⟨privacy_lawful, by decide⟩

theorem human_bindable : human.Bindable :=
  ⟨human_lawful, by decide⟩

variable {α : Type} {f : FieldsCodec α} {binding : ProjectionBinding}

theorem Bindable.lookup_eq_none (h : f.Bindable) {k : String} {a : α} (hk : k ∈ bindingKeys) :
    (f.encode a).lookup k = none :=
  h.lawful.lookup_eq_none fun hn => h.free k hn hk

theorem Bindable.claimed_lawful (h : f.Bindable) : f.claimed.Lawful := by
  apply map_lawful
  case h =>
    apply both_lawful h.lawful (field_lawful text_lawful)
    intro k hk hn
    obtain rfl := List.mem_singleton.mp hn
    exact h.free _ hk (by decide)
  case hi => exact fun _ => rfl
  case hb => exact fun _ => rfl

theorem Bindable.supporting_lawful (h : f.Bindable) : (f.supporting binding).Lawful := by
  apply map_lawful
  case h =>
    apply both_lawful h.lawful (both_lawful (field_lawful text_lawful) (field_lawful text_lawful) _)
    · intro k hk hn
      refine h.free k hk ?_
      clear hk
      revert k
      cases binding <;> decide
    · cases binding <;> decide
  case hi => exact fun _ => rfl
  case hb => exact fun _ => rfl

theorem text_field_decode {name t : String} {get : String → Option Json} {l : Bool} :
    (field name text).decode ⟨get, l⟩ = some t ↔ get name = some (.string t) := by
  simp only [field, JsonFields.required, Option.bind_eq_some_iff]
  constructor
  case mp =>
    rintro ⟨j, hj, ht⟩
    cases j <;> simp_all [text]
  case mpr => exact fun h => ⟨_, h, rfl⟩

theorem supporting_decode {get : String → Option Json} {l : Bool} {c : SupportingClaim α} :
    (f.supporting binding).decode ⟨get, l⟩ = some c ↔ f.decode ⟨get, l⟩ = some c.facts ∧
      get "candidate_sha" = some (.string c.candidateSha) ∧ get binding.key = some (.string c.boundSha256) := by
  simp only [← text_field_decode (l := l)]
  constructor
  case mp =>
    intro h
    obtain ⟨a, ha, rfl⟩ := Option.map_eq_some_iff.mp h
    have ⟨hf, hb⟩ := both_eq_some.mp ha
    exact ⟨hf, both_eq_some.mp hb⟩
  case mpr =>
    rintro ⟨hf, hb⟩
    exact Option.map_eq_some_iff.mpr ⟨(c.facts, c.candidateSha, c.boundSha256),
      both_eq_some.mpr ⟨hf, both_eq_some.mpr hb⟩, rfl⟩

theorem claimed_decode {get : String → Option Json} {l : Bool} {c : Claimed α} :
    f.claimed.decode ⟨get, l⟩ = some c ↔
      f.decode ⟨get, l⟩ = some c.facts ∧ get "artifact_sha256" = some (.string c.artifactSha256) := by
  rw [← text_field_decode (l := l)]
  constructor
  case mp =>
    intro h
    obtain ⟨a, ha, rfl⟩ := Option.map_eq_some_iff.mp h
    exact both_eq_some.mp ha
  case mpr =>
    exact fun h => Option.map_eq_some_iff.mpr ⟨(c.facts, c.artifactSha256), both_eq_some.mpr h, rfl⟩

theorem mem_claimed_names {k : String} : k ∈ f.claimed.names ↔ k ∈ f.names ∨ k = "artifact_sha256" := by
  simp [claimed, map, both, field]

theorem mem_supporting_names {k : String} :
    k ∈ (f.supporting binding).names ↔ k ∈ f.names ∨ k = "candidate_sha" ∨ k = binding.key := by
  simp [supporting, map, both, field]

theorem ProjectionBinding.key_ne (binding : ProjectionBinding) :
    binding.key ∈ bindingKeys ∧ binding.key ≠ "candidate_sha" ∧ binding.key ≠ "artifact_sha256" := by
  cases binding <;> decide

-- What the assembler makes of the record of an artifact says the same and has the digest.
theorem Bindable.projected (h : f.Bindable) {members : JsonMembers} {c : SupportingClaim α} {artifactSha256 : String}
    (hs : members.Sorted) (hd : (f.supporting binding).record.decode (.object members) = some c) :
    (ArtifactFormat.projectedMembers members artifactSha256 binding).bind
      (fun ms => f.claimed.record.decode (.object ms)) = some ⟨c.facts, artifactSha256⟩ := by
  obtain ⟨⟨hk, -⟩, hd⟩ := record_object_eq_some.mp hd
  have ⟨hf, hc, hb⟩ := supporting_decode.mp hd
  obtain ⟨hm, hn, -⟩ := ProjectionBinding.key_ne binding
  simp only [ArtifactFormat.projectedMembers, hc, JsonMembers.lookup_remove, hn, hb, if_false, Option.bind_eq_bind,
    Option.bind_some, Option.pure_def]
  refine record_object_eq_some.mpr ⟨⟨?_, hs.remove.remove.insert.nodup⟩, claimed_decode.mpr ⟨?_, ?_⟩⟩
  · intro k hk'
    simp only [JsonMembers.mem_keys_insert, JsonMembers.mem_keys_remove] at hk'
    obtain rfl | ⟨hb, hc, hk'⟩ := hk'
    · exact mem_claimed_names.mpr (.inr rfl)
    · have hn := mem_supporting_names.mp (hk k hk')
      simp only [hb, hc, or_false] at hn
      exact mem_claimed_names.mpr (.inl hn)
  · rw [← hf]
    refine h.lawful.congr fun k hk => ?_
    have hk' := h.free k hk
    have hb : k ≠ binding.key := fun he => hk' (he ▸ hm)
    simp only [bindingKeys, List.mem_cons, not_or] at hk'
    simp [JsonMembers.lookup_insert, JsonMembers.lookup_remove, hb, hk']
  · simp [JsonMembers.lookup_insert]

theorem lookup_claimed {k : String} {c : Claimed α} :
    (f.claimed.encode c).lookup k =
      ((f.encode c.facts).lookup k).or (if k = "artifact_sha256" then some (.string c.artifactSha256) else none) := by
  simp only [claimed, map, both, field, JsonMembers.lookup_insertAll, JsonMembers.lookup_cons, List.lookup_nil]
  rfl

theorem lookup_supporting {k : String} {c : SupportingClaim α} :
    ((f.supporting binding).encode c).lookup k =
      (((f.encode c.facts).lookup k).or (if k = "candidate_sha" then some (.string c.candidateSha) else none)).or
        (if k = binding.key then some (.string c.boundSha256) else none) := by
  simp only [supporting, map, both, field, JsonMembers.lookup_insertAll, JsonMembers.lookup_cons, List.lookup_nil,
    Option.or_assoc]
  rfl

theorem lookup_realClaimMembers {k candidateSha providerStateSha256 : String} {ms : JsonMembers} :
    (ArtifactFormat.realClaimMembers ms candidateSha providerStateSha256).lookup k =
      if k = "provider_state_sha256" then some (.string providerStateSha256)
      else if k = "candidate_sha" then some (.string candidateSha)
      else if k = "artifact_sha256" then none
      else ms.lookup k := by
  simp only [ArtifactFormat.realClaimMembers, JsonMembers.lookup_insert, JsonMembers.lookup_remove]

-- What the verifier compares an artifact with is how the record of the artifact would be written.
theorem Bindable.realClaim (h : f.Bindable) {c : Claimed α} {candidateSha providerStateSha256 : String} :
    ArtifactFormat.realClaimWithoutDigest f c candidateSha providerStateSha256 =
      .ok ((f.supporting .candidateAndProvider).record.encode ⟨c.facts, candidateSha, providerStateSha256⟩) := by
  have hl : (f.claimed.encode c).lookup "artifact_sha256" = some (.string c.artifactSha256) := by
    rw [lookup_claimed, h.lookup_eq_none (by decide)]
    rfl
  have he : ArtifactFormat.realClaimMembers (f.claimed.encode c) candidateSha providerStateSha256 =
      (f.supporting .candidateAndProvider).encode ⟨c.facts, candidateSha, providerStateSha256⟩ := by
    refine JsonMembers.Sorted.ext h.claimed_lawful.sorted.remove.insert.insert h.supporting_lawful.sorted fun k => ?_
    rw [lookup_realClaimMembers, lookup_claimed, lookup_supporting]
    by_cases hk : k ∈ bindingKeys
    case pos =>
      rw [h.lookup_eq_none hk]
      simp only [bindingKeys, List.mem_cons, List.not_mem_nil, or_false] at hk
      obtain rfl | rfl | rfl | rfl := hk <;> simp [ProjectionBinding.key]
    case neg =>
      simp only [bindingKeys, List.mem_cons, not_or] at hk
      simp [hk, ProjectionBinding.key]
  simp only [ArtifactFormat.realClaimWithoutDigest, record, hl, Option.map_some, he]
  rfl

end FieldsCodec
