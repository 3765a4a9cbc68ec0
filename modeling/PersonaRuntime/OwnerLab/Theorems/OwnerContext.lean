import PersonaRuntime.OwnerLab.OwnerContext

def OwnerClaimRevision.encode (r : OwnerClaimRevision) : Nat × OwnerClaim :=
  (r.revision.get, r.claim)

theorem ClaimRevision.new_get (r : ClaimRevision) : ClaimRevision.new r.get = some r := by
  simp [new, r.pos]

theorem ClaimRevision.new_eq_some {n : Nat} {r : ClaimRevision} (h : ClaimRevision.new n = some r) :
    r.get = n := by
  simp only [new] at h
  split at h <;> cases h
  rfl

namespace OwnerClaimRecord

-- What the loop of `restore_retained_history` checks of the revisions that it gets.
def Retains (startsAtInitial : Bool) : Nat → Option ClaimRevision → List OwnerClaimRevision → Prop
  | _, _, []             => True
  | index, previous, r :: rs =>
    follows previous r.revision = .ok () ∧ validateRestoredClaim r.claim index startsAtInitial = .ok () ∧
      Retains startsAtInitial (index + 1) (some r.revision) rs

variable {b : Bool} {index : Nat} {previous : Option ClaimRevision} {rs : List OwnerClaimRevision}

theorem restoreRevisions_encode (h : Retains b index previous rs) :
    restoreRevisions b index previous (rs.map (·.encode)) = .ok rs := by
  induction rs generalizing index previous
  case nil => rfl
  case cons r rs hi =>
    have ⟨hf, hv, h⟩ := h
    have hs := hi h
    simp only [List.map_cons, restoreRevisions, OwnerClaimRevision.encode, ClaimRevision.new_get, hf, hv] at hs ⊢
    rw [hs]
    rfl

theorem restoreRevisions_eq_ok {revisions : List (Nat × OwnerClaim)}
    (h : restoreRevisions b index previous revisions = .ok rs) :
    revisions = rs.map (·.encode) ∧ Retains b index previous rs := by
  induction revisions generalizing index previous rs
  case nil =>
    cases h
    exact ⟨rfl, trivial⟩
  case cons r revisions hi =>
    simp only [restoreRevisions] at h
    split at h
    case h_1 => cases h
    case h_2 revision hr =>
      obtain ⟨⟨⟩, hf, h⟩ := Except.bind_eq_ok h
      obtain ⟨⟨⟩, hv, h⟩ := Except.bind_eq_ok h
      obtain ⟨rs, hs, h⟩ := Except.bind_eq_ok h
      cases h
      have ⟨he, hs⟩ := hi hs
      refine ⟨?_, hf, hv, hs⟩
      simp [he, OwnerClaimRevision.encode, ClaimRevision.new_eq_some hr]

theorem retains_concat {r : OwnerClaimRevision} :
    Retains b index previous (rs ++ [r]) ↔ Retains b index previous rs ∧
      follows ((rs.getLast?.map (·.revision)).or previous) r.revision = .ok () ∧
      validateRestoredClaim r.claim (index + rs.length) b = .ok () := by
  induction rs generalizing index previous
  case nil => simp [Retains]
  case cons x rs hi =>
    have hl : (((x :: rs).getLast?).map (·.revision)).or previous =
        (rs.getLast?.map (·.revision)).or (some x.revision) := by
      cases hr : rs.getLast? <;> simp [List.getLast?_cons, hr]
    have hn : index + (x :: rs).length = index + 1 + rs.length := by
      simp only [List.length_cons]
      omega
    rw [List.cons_append, Retains, hi, Retains, hl, hn]
    simp only [and_assoc]

-- A claim that only its verification keeps from being restored.
@[mk_iff]
structure Direct (claim : OwnerClaim) : Prop where
  nonblank   : isBlank claim.statement = false
  bounded    : claim.statement.length ≤ maxOwnerClaimChars
  source     : claim.source = .owner
  derivation : claim.derivation = .direct

theorem validateRestoredClaim_iff {claim : OwnerClaim} :
    validateRestoredClaim claim index b = .ok () ↔ Direct claim ∧
      claim.verification = if b ∧ index = 0 then .unverified else .ownerVerified := by
  have hd : (isBlank claim.statement = true ∨ claim.statement.length > maxOwnerClaimChars ∨
      claim.source ≠ .owner ∨ claim.derivation ≠ .direct) ↔ ¬Direct claim := by
    rw [direct_iff, ← Bool.not_eq_true, ← Nat.not_lt]
    tauto
  rw [validateRestoredClaim]
  by_cases h : Direct claim
  case neg => simp [if_pos (hd.mpr h), h]
  case pos =>
    rw [if_neg (hd.not.mpr (not_not.mpr h))]
    split_ifs <;> simp_all

-- The history of a record as far as it is retained. A complete one starts with the captured claim,
-- and everything after that is owner-verified.
def Restorable (r : OwnerClaimRecord) : Prop :=
  Retains r.hasCompleteHistory 0 none r.retainedRevisions

variable {r r' : OwnerClaimRecord} {id : ClaimId} {claim : OwnerClaim} {revision : ClaimRevision}

theorem startsAtInitial_encode :
    ((r.retainedRevisions.map (·.encode)).head?.any (·.1 = ClaimRevision.initial.get)) =
      r.hasCompleteHistory := by
  cases hr : r.retainedRevisions <;> simp [hasCompleteHistory, hr, OwnerClaimRevision.encode,
    ClaimRevision.ext_iff]

theorem restoreRetainedHistory_encode (h : r.Restorable) (hv : r.current.claim.verification = .ownerVerified) :
    restoreRetainedHistory r.id (r.retainedRevisions.map (·.encode)) = .ok r := by
  have hl : r.retainedRevisions.getLast? = some r.current := by simp [retainedRevisions]
  have hd : r.retainedRevisions.dropLast = r.previousRevisions := by simp [retainedRevisions]
  simp only [restoreRetainedHistory, startsAtInitial_encode, restoreRevisions_encode h,
    Except.ok_bind, hl, hd, hv, ne_eq, not_true_eq_false, if_false]

theorem restoreRetainedHistory_eq_ok {revisions : List (Nat × OwnerClaim)}
    (h : restoreRetainedHistory id revisions = .ok r) :
    r.id = id ∧ revisions = r.retainedRevisions.map (·.encode) ∧ r.Restorable := by
  simp only [restoreRetainedHistory] at h
  obtain ⟨restored, hr, h⟩ := Except.bind_eq_ok h
  split at h
  case h_1 => cases h
  case h_2 current hc =>
    split at h <;> cases h
    have ⟨he, hk⟩ := restoreRevisions_eq_ok hr
    have hs : retainedRevisions ⟨id, restored.dropLast, current⟩ = restored :=
      List.dropLast_append_getLast? current hc
    rw [← hs] at he hk
    rw [he, startsAtInitial_encode] at hk
    exact ⟨rfl, he, hk⟩

theorem hasCompleteHistory_push {x : OwnerClaimRevision} :
    (r.push x).hasCompleteHistory = r.hasCompleteHistory := by
  simp only [hasCompleteHistory, push, retainedRevisions]
  cases r.previousRevisions <;> rfl

theorem Restorable.push (h : r.Restorable) (hn : r.current.revision.next = .ok revision)
    (hd : Direct claim) (hv : claim.verification = .ownerVerified) :
    (r.push ⟨revision, claim⟩).Restorable := by
  simp only [Restorable, hasCompleteHistory_push]
  refine retains_concat.mpr ⟨h, ?_, ?_⟩
  · have hl : (r.retainedRevisions.getLast?.map (·.revision)).or none = some r.current.revision := by
      simp [retainedRevisions]
    simp only [OwnerClaimRecord.push, hl, follows, hn]
    exact if_neg fun h => h rfl
  · refine validateRestoredClaim_iff.mpr ⟨hd, ?_⟩
    simp [OwnerClaimRecord.push, retainedRevisions, hv]

theorem Restorable.direct (h : r.Restorable) : Direct r.current.claim :=
  (validateRestoredClaim_iff.mp (retains_concat.mp h).right.right).left

theorem capture_restorable (h : capture id claim = .ok r) : r.Restorable ∧ r.id = id := by
  obtain ⟨⟨⟩, hv, h⟩ := Except.bind_eq_ok h
  cases h
  refine ⟨⟨rfl, validateRestoredClaim_iff.mpr ?_, trivial⟩, rfl⟩
  simp only [validateCapturedClaim] at hv
  split_ifs at hv
  simp_all [direct_iff, hasCompleteHistory, retainedRevisions]

theorem Restorable.approve (h : r.Restorable) (ha : r.approve = .ok r') : r'.Restorable ∧ r'.id = r.id := by
  simp only [OwnerClaimRecord.approve] at ha
  split at ha
  case isTrue => cases ha
  case isFalse =>
    split at ha
    case isTrue =>
      cases ha
      exact ⟨h, rfl⟩
    case isFalse =>
      obtain ⟨revision, hn, rfl⟩ := replaceCurrent_eq_ok ha
      have hd := h.direct
      exact ⟨h.push hn ⟨hd.nonblank, hd.bounded, hd.source, hd.derivation⟩ rfl, rfl⟩

theorem Restorable.correct (h : r.Restorable) {statement : String} {kind : ClaimKind}
    (hc : r.correct statement kind = .ok r') :
    r'.Restorable ∧ r'.id = r.id ∧ r'.isOwnerReviewed = true := by
  simp only [OwnerClaimRecord.correct] at hc
  split at hc
  case isTrue => cases hc
  case isFalse hb =>
    split at hc
    case isTrue => cases hc
    case isFalse hl =>
      obtain ⟨revision, hn, rfl⟩ := replaceCurrent_eq_ok hc
      have hd : Direct (corrected statement kind) := ⟨by simpa [corrected] using hb, Nat.not_lt.mp hl, rfl, rfl⟩
      exact ⟨h.push hn hd rfl, rfl, rfl⟩

end OwnerClaimRecord

theorem mapM_map_some {α β : Type} {f : β → Option α} {g : α → β} {l : List α}
    (h : ∀ a ∈ l, f (g a) = some a) : (l.map g).mapM f = some l := by
  induction l
  case nil         => rfl
  case cons a l hi => simp [h a, hi fun a ha => h a (by simp [ha])]

theorem mapM_eq_some {α β : Type} {f : α → Option β} {l : List α} {l' : List β}
    (h : l.mapM f = some l') : l.map f = l'.map some := by
  induction l generalizing l'
  case nil => simp_all
  case cons a l hi =>
    simp only [List.mapM_cons, Option.bind_eq_bind, Option.bind_eq_some_iff] at h
    obtain ⟨b, hb, l', hl, h⟩ := h
    cases h
    simp [hb, hi hl]

theorem CanonicalId.new_asStr (i : CanonicalId) : CanonicalId.new i.asStr = .ok i := by
  simp [new, i.nonblank, i.bounded]

theorem PersonaVersion.new_get (v : PersonaVersion) : PersonaVersion.new v.get = some v := by
  simp [new, v.pos]

-- A profile that holds nothing but what the decoder takes, apart from the length of its histories.
structure PersonaProfile.Sound (p : PersonaProfile) : Prop where
  mode       : p.identity.mode = .digitalTwin
  restorable : ∀ r ∈ p.claims, r.Restorable
  distinct   : (p.claims.map (·.id)).Nodup
  nonempty   : p.captureState ≠ .draft → p.claims ≠ []
  version    : p.captureState = .reviewed → 2 ≤ p.identity.version.get
  reviewed   : p.captureState = .reviewed → ∀ r ∈ p.claims, r.isOwnerReviewed = true

-- Each of the labels is read back as what it stands for.
theorem ClaimKind.fromApiLabel_apiLabel (kind : ClaimKind) : fromApiLabel kind.apiLabel = some kind := by
  cases kind <;> rfl

theorem SourceKind.fromApiLabel_apiLabel (source : SourceKind) : fromApiLabel source.apiLabel = some source := by
  cases source <;> rfl

theorem VerificationState.fromApiLabel_apiLabel (v : VerificationState) : fromApiLabel v.apiLabel = some v := by
  cases v <;> rfl

theorem DerivationKind.fromApiLabel_apiLabel (d : DerivationKind) : fromApiLabel d.apiLabel = some d := by
  cases d <;> rfl

namespace ReviewedOwnerContext

open PersonaProfile

theorem decodeRevision_durableSnapshot (r : OwnerClaimRevision) :
    decodeRevision r.durableSnapshot = some r.encode := by
  simp only [decodeRevision, OwnerClaimRevision.durableSnapshot, ClaimKind.fromApiLabel_apiLabel,
    SourceKind.fromApiLabel_apiLabel, VerificationState.fromApiLabel_apiLabel, DerivationKind.fromApiLabel_apiLabel]
  rfl

theorem decodeClaim_eq_some_iff {c : DurableReviewedOwnerClaimSnapshot} {r : OwnerClaimRecord} :
    decodeClaim c = some r ↔ (c.revisions ≠ [] ∧ c.revisions.length ≤ maxRetainedRevisions) ∧
      ∃ id, (CanonicalId.new c.claimId).toOption = some id ∧
      ∃ revisions, c.revisions.mapM decodeRevision = some revisions ∧
      (OwnerClaimRecord.restoreRetainedHistory id revisions).toOption = some r ∧
      r.hasCompleteHistory = c.historyComplete := by
  simp [decodeClaim, Option.bind_eq_some_iff]

theorem decode_eq_some_iff {s : DurableReviewedOwnerContextSnapshot} {p : PersonaProfile} :
    decode s = some p ↔ (¬s.personaVersion < 2 ∧ s.claims ≠ []) ∧
      ∃ id, (CanonicalId.new s.personaId).toOption = some id ∧
      ∃ version, PersonaVersion.new s.personaVersion = some version ∧
      ∃ records, s.claims.mapM decodeClaim = some records ∧
      (restoreReviewed ⟨id, version, .digitalTwin⟩ records).toOption = some p ∧
      p.isReviewed = true ∧ p.durableSnapshot = s := by
  simp [decode, Option.bind_eq_some_iff]

theorem fromDurableSnapshot_eq_ok_iff {s : DurableReviewedOwnerContextSnapshot} {p : PersonaProfile} :
    fromDurableSnapshot s = .ok p ↔ decode s = some p := by
  cases hd : decode s <;> simp [fromDurableSnapshot, hd]

theorem toOption_eq_some_iff {ε α : Type} {x : Except ε α} {a : α} : x.toOption = some a ↔ x = .ok a := by
  cases x <;> simp [Except.toOption]

theorem mapM_decodeRevision (rs : List OwnerClaimRevision) :
    (rs.map (·.durableSnapshot)).mapM decodeRevision = some (rs.map (·.encode)) := by
  induction rs
  case nil         => rfl
  case cons r _ hi => simp [decodeRevision_durableSnapshot, hi]

theorem decodeClaim_durableSnapshot {r : OwnerClaimRecord} (h : r.Restorable)
    (hv : r.isOwnerReviewed = true) (hl : r.retainedRevisions.length ≤ maxRetainedRevisions) :
    decodeClaim r.durableSnapshot = some r := by
  have hv : r.current.claim.verification = .ownerVerified := by
    simp_all [OwnerClaimRecord.isOwnerReviewed]
  refine decodeClaim_eq_some_iff.mpr ⟨⟨?_, ?_⟩, r.id, ?_, _, mapM_decodeRevision _, ?_, rfl⟩
  · simp [OwnerClaimRecord.durableSnapshot, OwnerClaimRecord.retainedRevisions]
  · simpa [OwnerClaimRecord.durableSnapshot] using hl
  · exact toOption_eq_some_iff.mpr (CanonicalId.new_asStr r.id)
  · exact toOption_eq_some_iff.mpr (OwnerClaimRecord.restoreRetainedHistory_encode h hv)

theorem decodeClaim_restorable {c : DurableReviewedOwnerClaimSnapshot} {r : OwnerClaimRecord}
    (h : decodeClaim c = some r) : r.Restorable := by
  obtain ⟨-, id, -, revisions, -, hr, -⟩ := decodeClaim_eq_some_iff.mp h
  exact (OwnerClaimRecord.restoreRetainedHistory_eq_ok (toOption_eq_some_iff.mp hr)).right.right

theorem decode_sound {s : DurableReviewedOwnerContextSnapshot} {p : PersonaProfile}
    (h : decode s = some p) : p.Sound := by
  obtain ⟨-, id, -, version, -, records, hm, hr, -⟩ := decode_eq_some_iff.mp h
  have hr := toOption_eq_some_iff.mp hr
  simp only [restoreReviewed] at hr
  split_ifs at hr with hv he ho hd
  cases hr
  refine ⟨rfl, fun r hr => ?_, hd, ?_, fun _ => Nat.not_lt.mp hv, by simpa using ho⟩
  · have hr : some r ∈ records.map some := List.mem_map_of_mem hr
    rw [← mapM_eq_some hm] at hr
    have ⟨c, _, hc⟩ := List.mem_map.mp hr
    exact decodeClaim_restorable hc
  · simpa using he

theorem decode_durableSnapshot {p : PersonaProfile} (h : p.Sound) (hc : p.captureState = .reviewed)
    (hl : ∀ r ∈ p.claims, r.retainedRevisions.length ≤ maxRetainedRevisions) :
    decode p.durableSnapshot = some p := by
  have hn : p.claims ≠ [] := h.nonempty (by simp [hc])
  have hm : (p.claims.map (·.durableSnapshot)).mapM decodeClaim = some p.claims :=
    mapM_map_some fun r hr => decodeClaim_durableSnapshot (h.restorable r hr) (h.reviewed hc r hr) (hl r hr)
  have hi : (⟨p.identity.id, p.identity.version, .digitalTwin⟩ : PersonaIdentity) = p.identity := by
    rw [← h.mode]
  have hv : ¬p.identity.version.get < 2 := Nat.not_lt.mpr (h.version hc)
  refine decode_eq_some_iff.mpr
    ⟨⟨hv, ?_⟩, p.identity.id, ?_, _, PersonaVersion.new_get _, _, hm, ?_, ?_, rfl⟩
  · simpa [durableSnapshot] using hn
  · exact toOption_eq_some_iff.mpr (CanonicalId.new_asStr _)
  · have ho : p.claims.any (!·.isOwnerReviewed) = false := by simpa using h.reviewed hc
    refine toOption_eq_some_iff.mpr ?_
    simp [restoreReviewed, hi, hv, hn, ho, h.distinct, ← hc]
  · simpa [isReviewed, h.mode, hc, hn] using h.reviewed hc

theorem decode_retained {p p' : PersonaProfile} (h : decode p.durableSnapshot = some p') :
    ∀ r ∈ p.claims, r.retainedRevisions.length ≤ maxRetainedRevisions := by
  intro r hr
  obtain ⟨-, id, -, version, -, records, hm, -⟩ := decode_eq_some_iff.mp h
  have hr : decodeClaim r.durableSnapshot ∈ p.durableSnapshot.claims.map decodeClaim :=
    List.mem_map_of_mem (List.mem_map_of_mem hr)
  rw [mapM_eq_some hm] at hr
  have ⟨r', _, hr'⟩ := List.mem_map.mp hr
  simpa [OwnerClaimRecord.durableSnapshot] using (decodeClaim_eq_some_iff.mp hr'.symm).left.right

end ReviewedOwnerContext

namespace PersonaProfile

variable {p p' : PersonaProfile} {id : ClaimId}

theorem onClaim_sound {f : OwnerClaimRecord → Except ProfileError OwnerClaimRecord}
    {rs rs' : List OwnerClaimRecord} (h : onClaim id f rs = .ok rs')
    (hf : ∀ {r r'}, r.Restorable → f r = .ok r' → r'.Restorable ∧ r'.id = r.id)
    (hr : ∀ r ∈ rs, r.Restorable) :
    (∀ r ∈ rs', r.Restorable) ∧ rs'.map (·.id) = rs.map (·.id) := by
  obtain ⟨before, r, r', after, rfl, -, -, hr', rfl⟩ := onClaim_eq_ok h
  have ⟨hs, hi⟩ := hf (hr r (by simp)) hr'
  refine ⟨fun x hx => ?_, by simp [hi]⟩
  rcases List.mem_append.mp hx with hx | hx
  case inl => exact hr x (by simp [hx])
  case inr =>
    rcases List.mem_cons.mp hx with rfl | hx
    case inl => exact hs
    case inr => exact hr x (by simp [hx])

theorem map_id_ne_nil {rs rs' : List OwnerClaimRecord} (h : rs'.map (·.id) = rs.map (·.id))
    (hn : rs ≠ []) : rs' ≠ [] := by
  rintro rfl
  simp_all

-- What an edit of one claim leaves of a sound profile that is not reviewed.
theorem Sound.edit (h : p.Sound) {claims : List OwnerClaimRecord}
    (hc : p.captureState = .captured)
    (hs : (∀ r ∈ claims, r.Restorable) ∧ claims.map (·.id) = p.claims.map (·.id)) :
    Sound { p with claims } where
  mode       := h.mode
  restorable := hs.left
  distinct   := hs.right ▸ h.distinct
  nonempty hd := map_id_ne_nil hs.right (h.nonempty hd)
  version    := h.version
  reviewed   := by simp [hc]

theorem Sound.addCapturedClaim (h : p.Sound) {record : OwnerClaimRecord} (hr : record.Restorable)
    (ha : p.addCapturedClaim record = .ok p') : p'.Sound := by
  simp only [PersonaProfile.addCapturedClaim] at ha
  split_ifs at ha with hc hi
  cases ha
  have hc : p.captureState = .draft := not_not.mp hc
  refine ⟨h.mode, ?_, ?_, by simp [hc], by simp [hc], by simp [hc]⟩
  · simpa [or_imp, forall_and] using ⟨h.restorable, hr⟩
  · have hi : ∀ r ∈ p.claims, r.id ≠ record.id := by simpa using hi
    simpa [List.nodup_append, h.distinct] using hi

theorem Sound.markCaptureComplete (h : p.Sound) (hm : p.markCaptureComplete = .ok p') : p'.Sound := by
  simp only [PersonaProfile.markCaptureComplete] at hm
  split_ifs at hm with hc he
  cases hm
  exact ⟨h.mode, h.restorable, h.distinct, fun _ => by simpa using he, nofun, nofun⟩

theorem Sound.approveClaim (h : p.Sound) (ha : p.approveClaim id = .ok p') : p'.Sound := by
  simp only [PersonaProfile.approveClaim] at ha
  split_ifs at ha with hc
  obtain ⟨claims, ho, ha⟩ := Except.bind_eq_ok ha
  cases ha
  exact h.edit (not_not.mp hc) (onClaim_sound ho (fun h ha => h.approve ha) h.restorable)

theorem Sound.correctClaim (h : p.Sound) {statement : String} {kind : ClaimKind}
    (hc : p.correctClaim id statement kind = .ok p') : p'.Sound := by
  have hf {r r' : OwnerClaimRecord} (h : r.Restorable) (hr : r.correct statement kind = .ok r') :
      r'.Restorable ∧ r'.id = r.id := ⟨(h.correct hr).left, (h.correct hr).right.left⟩
  simp only [PersonaProfile.correctClaim] at hc
  split at hc
  case h_1 => cases hc
  case h_2 hs =>
    obtain ⟨claims, ho, hc⟩ := Except.bind_eq_ok hc
    cases hc
    exact h.edit hs (onClaim_sound ho hf h.restorable)
  case h_3 hs =>
    split at hc
    case h_1 => cases hc
    case h_2 version hv =>
      obtain ⟨claims, ho, hc⟩ := Except.bind_eq_ok hc
      cases hc
      obtain ⟨hr, hi⟩ := onClaim_sound ho hf h.restorable
      refine ⟨h.mode, hr, hi ▸ h.distinct, fun hd => map_id_ne_nil hi (h.nonempty hd), fun _ => ?_, fun _ => ?_⟩
      · have := h.version hs
        have := PersonaVersion.get_next hv
        simp only
        omega
      · obtain ⟨before, r, r', after, hp, -, -, hr', rfl⟩ := onClaim_eq_ok ho
        have hm : r ∈ p.claims := by simp [hp]
        have ho := ((h.restorable r hm).correct hr').right.right
        have hs := h.reviewed hs
        simp_all [or_imp, forall_and]

theorem Sound.approveInitialReview (h : p.Sound) (ha : p.approveInitialReview = .ok p') : p'.Sound := by
  simp only [PersonaProfile.approveInitialReview] at ha
  split_ifs at ha with hc hr
  split at ha <;> cases ha
  case h_2 version hv =>
    refine ⟨h.mode, h.restorable, h.distinct, fun _ => h.nonempty (by simp_all), fun _ => ?_, fun _ => by simpa using hr⟩
    have := PersonaVersion.get_next hv
    have := p.identity.version.pos
    simp only
    omega

theorem step_sound {e : ProfileEvent} {o : List Unit} (h : p.Sound) (hs : machine.step p e = some (p', o)) :
    p'.Sound := by
  obtain ⟨p', ha, hs⟩ := Option.map_eq_some_iff.mp hs
  cases hs
  cases e <;> simp only [PersonaProfile.apply, ReviewedOwnerContext.toOption_eq_some_iff] at ha
  case captureClaim id claim =>
    obtain ⟨record, hr, ha⟩ := Except.bind_eq_ok ha
    exact h.addCapturedClaim (OwnerClaimRecord.capture_restorable hr).left ha
  case markCaptureComplete  => exact h.markCaptureComplete ha
  case approveClaim         => exact h.approveClaim ha
  case correctClaim         => exact h.correctClaim ha
  case approveInitialReview => exact h.approveInitialReview ha
  case restore              => exact ReviewedOwnerContext.decode_sound ha

theorem init_sound (h : machine.init p) : p.Sound := by
  rcases h with ⟨id, version, rfl⟩ | ⟨s, hs⟩
  case inl => exact ⟨rfl, nofun, List.nodup_nil, nofun, nofun, nofun⟩
  case inr => exact ReviewedOwnerContext.decode_sound (ReviewedOwnerContext.fromDurableSnapshot_eq_ok_iff.mp hs)

theorem run_restores {t : List Unit} (r : machine.Run t p) (hc : p.captureState = .reviewed) :
    ReviewedOwnerContext.fromDurableSnapshot p.durableSnapshot = .ok p ↔
      ∀ r ∈ p.claims, r.retainedRevisions.length ≤ maxRetainedRevisions := by
  have h : p.Sound := r.state_invariant init_sound step_sound
  rw [ReviewedOwnerContext.fromDurableSnapshot_eq_ok_iff]
  exact ⟨ReviewedOwnerContext.decode_retained, ReviewedOwnerContext.decode_durableSnapshot h hc⟩

-- A reviewed profile with one claim, where `n` counts the corrections since its first review.
@[mk_iff]
structure Single (id : ClaimId) (n : Nat) (p : PersonaProfile) : Prop where
  reviewed : p.captureState = .reviewed
  version  : p.identity.version.get = n + 2
  claims   : ∃ r, p.claims = [r] ∧ r.id = id ∧ r.current.revision.get = n + 2 ∧
    r.retainedRevisions.length = n + 2

theorem Single.correctClaim {n : Nat} {statement : String} {kind : ClaimKind} (h : Single id n p)
    (hn : n + 3 ≤ u64Max) (hb : isBlank statement = false) (hl : statement.length ≤ maxOwnerClaimChars) :
    ∃ p', p.correctClaim id statement kind = .ok p' ∧ Single id (n + 1) p' := by
  obtain ⟨r, hr, hi, hc, hlen⟩ := h.claims
  let version : PersonaVersion := ⟨p.identity.version.get + 1, Nat.succ_pos _⟩
  let revision : ClaimRevision := ⟨r.current.revision.get + 1, Nat.succ_pos _⟩
  have hv : p.identity.version.next = .ok version := if_pos (by rw [h.version]; exact hn)
  have hx : r.current.revision.next = .ok revision := if_pos (by rw [hc]; exact hn)
  let r' := r.push ⟨revision, OwnerClaimRecord.corrected statement kind⟩
  have hr' : r.correct statement kind = .ok r' := by
    simp only [OwnerClaimRecord.correct, hb, Nat.not_lt.mpr hl, OwnerClaimRecord.replaceCurrent, hx]
    rfl
  have ho : onClaim id (·.correct statement kind) p.claims = .ok [r'] := by
    simp only [hr, onClaim, if_pos hi, hr']
    rfl
  refine ⟨{ p with claims := [r'], identity := { p.identity with version } }, ?_, h.reviewed, ?_, r', rfl, hi, ?_, ?_⟩
  · simp only [PersonaProfile.correctClaim, h.reviewed, hv, ho]
    rfl
  · exact congrArg (· + 1) h.version
  · exact congrArg (· + 1) hc
  · simpa [r', OwnerClaimRecord.push, OwnerClaimRecord.retainedRevisions] using hlen

theorem Single.corrections {k n : Nat} {statement : String} {kind : ClaimKind} (h : Single id k p)
    (hn : k + n + 2 ≤ u64Max) (hb : isBlank statement = false)
    (hl : statement.length ≤ maxOwnerClaimChars) :
    ∃ p', machine.replay p (List.replicate n (.correctClaim id statement kind)) = some (p', []) ∧
      Single id (k + n) p' := by
  induction n generalizing k p
  case zero => exact ⟨p, rfl, h⟩
  case succ n hi =>
    obtain ⟨p₁, hc, h₁⟩ : ∃ p₁, p.correctClaim id statement kind = .ok p₁ ∧ _ :=
      h.correctClaim (by omega) hb hl
    obtain ⟨p₂, hr, h₂⟩ := hi h₁ (by omega)
    refine ⟨p₂, ?_, by rwa [Nat.add_right_comm k 1 n] at h₂⟩
    have hs : machine.step p (.correctClaim id statement kind) = some (p₁, []) := by
      simp [machine, apply, hc, Except.toOption]
    simp [List.replicate_succ, Machine.replay, hs, hr]

-- A twin that owns one claim, its first review and a correction after it.
def firstTwin : PersonaProfile :=
  .new ⟨⟨"persona-1", by decide, by decide⟩, ⟨1, Nat.one_pos⟩, .digitalTwin⟩

def firstClaim : ClaimId :=
  ⟨"claim-1", by decide, by decide⟩

def firstReview : List ProfileEvent := [
  .captureClaim firstClaim ⟨"I live in Riga", .factual, .owner, .unverified, .direct⟩,
  .markCaptureComplete,
  .approveClaim firstClaim,
  .approveInitialReview]

def laterCorrection : ProfileEvent :=
  .correctClaim firstClaim "I live in Oslo" .factual

theorem firstReview_replay : ∃ p, machine.replay firstTwin firstReview = some (p, []) ∧
    Single firstClaim 0 p :=
  ⟨_, rfl, rfl, rfl, _, rfl, rfl, rfl, rfl⟩

theorem run_restores_reviewed : ∃ t p, machine.Run t p ∧ p.captureState = .reviewed ∧
    ReviewedOwnerContext.fromDurableSnapshot p.durableSnapshot = .ok p := by
  obtain ⟨p, hr, hs⟩ := firstReview_replay
  have r : machine.Run [] p := .of_replay firstTwin firstReview (.inl ⟨_, _, rfl⟩) hr
  obtain ⟨r', hc, -, -, hl⟩ := hs.claims
  refine ⟨[], p, r, hs.reviewed, (run_restores r hs.reviewed).mpr ?_⟩
  simp [hc, hl, maxRetainedRevisions]

-- The history of the claim then has one revision more than the decoder takes.
theorem not_restores_corrected : ∃ p t,
    machine.replay firstTwin (firstReview ++ List.replicate 9999 laterCorrection) = some (p, t) ∧
    p.captureState = .reviewed ∧
    ReviewedOwnerContext.fromDurableSnapshot p.durableSnapshot = .error .profileNotReviewed := by
  obtain ⟨p₁, hr₁, h₁⟩ := firstReview_replay
  obtain ⟨p₂, hr₂, h₂⟩ : ∃ p₂, machine.replay p₁ (List.replicate 9999 laterCorrection) = some (p₂, []) ∧ _ :=
    h₁.corrections (by decide) (by decide) (by decide)
  refine ⟨p₂, [], ?_, h₂.reviewed, ?_⟩
  · rw [Machine.replay_append hr₁, hr₂]
    rfl
  · obtain ⟨r, hc, -, -, hl⟩ := h₂.claims
    cases hd : ReviewedOwnerContext.decode p₂.durableSnapshot
    case none => simp [ReviewedOwnerContext.fromDurableSnapshot, hd]
    case some =>
      have hl' := ReviewedOwnerContext.decode_retained hd r (by simp [hc])
      simp [hl, maxRetainedRevisions] at hl'

end PersonaProfile
