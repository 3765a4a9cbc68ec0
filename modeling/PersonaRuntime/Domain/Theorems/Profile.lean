import Mathlib.Data.List.Chain
import Mathlib.Data.List.Forall2
import PersonaRuntime.Domain.ProfileCalls

theorem ClaimRevision.get_next {v v' : ClaimRevision} (h : v.next = .ok v') : v'.get = v.get + 1 := by
  simp only [next] at h
  split at h
  case isTrue  => cases h; rfl
  case isFalse => cases h

namespace OwnerClaimRecord

variable {r r' : OwnerClaimRecord} {claim : OwnerClaim} {statement : String} {kind : ClaimKind}

namespace Update

theorem replaceCurrent_eq : replaceCurrent claim = .atomic (·.replaceCurrent claim) := by
  refine EStateM.eq_atomic fun r => ?_
  cases hn : r.current.revision.next <;> simp only [EStateM.atomic_run, OwnerClaimRecord.replaceCurrent, hn]
  case error =>
    simp only [replaceCurrent, EStateM.run_bind, EStateM.run_get, hn, EStateM.check_error_run]
    rfl
  case ok    => simp [replaceCurrent, hn, push, retainedRevisions]

theorem approve_eq : approve = .atomic OwnerClaimRecord.approve := by
  refine EStateM.eq_atomic fun r => ?_
  simp only [approve, replaceCurrent_eq, EStateM.run_bind, EStateM.run_get, EStateM.atomic_run,
    OwnerClaimRecord.approve]
  split
  case isTrue  => rfl
  case isFalse => split <;> rfl

theorem correct_eq : correct statement kind = .atomic (·.correct statement kind) := by
  refine EStateM.eq_atomic fun r => ?_
  simp only [correct, replaceCurrent_eq, EStateM.atomic_run, OwnerClaimRecord.correct]
  split
  case isTrue  => rfl
  case isFalse => split <;> rfl

end Update

-- The retained revisions of a record are numbered without a gap.
def Contiguous (r : OwnerClaimRecord) : Prop :=
  r.retainedRevisions.IsChain fun x y => y.revision.get = x.revision.get + 1

-- Everything that a review of a record can do to it.
structure Revised (r r' : OwnerClaimRecord) : Prop where
  id       : r'.id = r.id
  reviewed : r'.isOwnerReviewed = true
  history  : r' = r ∨ ∃ revision claim, r.current.revision.next = .ok revision ∧
    r' = r.push ⟨revision, claim⟩

theorem correct_revised (h : r.correct statement kind = .ok r') : r.Revised r' := by
  obtain ⟨revision, hn, rfl⟩ := correct_eq_ok h
  exact ⟨rfl, by simp [isOwnerReviewed, push, corrected], .inr ⟨_, _, hn, rfl⟩⟩

theorem approve_revised (h : r.approve = .ok r') : r.Revised r' := by
  simp only [approve, Except.ite_error_eq_ok_iff, not_or, not_not] at h
  obtain ⟨⟨hs, hd⟩, h⟩ := h
  split at h
  case isTrue hv =>
    cases h
    exact ⟨rfl, by simp [isOwnerReviewed, hs, hv, hd], .inl rfl⟩
  case isFalse =>
    obtain ⟨revision, hn, rfl⟩ := replaceCurrent_eq_ok h
    exact ⟨rfl, by simp [isOwnerReviewed, push, hs, hd], .inr ⟨_, _, hn, rfl⟩⟩

theorem Revised.prefix_retainedRevisions (h : r.Revised r') :
    r.retainedRevisions <+: r'.retainedRevisions := by
  obtain rfl | ⟨_, _, _, rfl⟩ := h.history
  case inl => exact List.prefix_refl _
  case inr => exact List.prefix_append _ _

theorem Revised.contiguous (h : r.Revised r') (hc : r.Contiguous) : r'.Contiguous := by
  obtain rfl | ⟨revision, claim, hn, rfl⟩ := h.history
  case inl => exact hc
  case inr =>
    refine List.isChain_append.mpr ⟨hc, List.isChain_singleton _, ?_⟩
    simp [push, retainedRevisions, ClaimRevision.get_next hn]

theorem restoreRevisions_isChain {startsAtInitial : Bool} {index : Nat}
    {previous : Option ClaimRevision} {revisions : List (Nat × OwnerClaim)}
    {restored : List OwnerClaimRevision}
    (h : restoreRevisions startsAtInitial index previous revisions = .ok restored) :
    restored.IsChain (fun x y => y.revision.get = x.revision.get + 1) ∧
    ∀ v ∈ previous, ∀ x ∈ restored.head?, x.revision.get = v.get + 1 := by
  induction revisions generalizing index previous restored <;> simp only [restoreRevisions] at h
  case nil =>
    cases h
    exact ⟨List.isChain_nil, by simp⟩
  case cons revision revisions hi =>
    cases hn : ClaimRevision.new revision.1 <;> simp only [hn] at h
    case none => cases h
    case some number =>
      obtain ⟨_, hf, h⟩ := Except.bind_eq_ok h
      obtain ⟨_, _, h⟩ := Except.bind_eq_ok h
      obtain ⟨rest, hr, h⟩ := Except.bind_eq_ok h
      cases h
      have ⟨hc, hp⟩ := hi hr
      refine ⟨List.isChain_cons.mpr ⟨fun x hx => hp number rfl x hx, hc⟩, ?_⟩
      intro v hv x hx
      obtain rfl : _ = x := by simpa using hx
      obtain rfl : previous = some v := by simpa using hv
      obtain ⟨next, hn, hf⟩ := Except.bind_eq_ok hf
      split at hf
      case isTrue  => cases hf
      case isFalse he => exact (not_not.mp he) ▸ ClaimRevision.get_next hn

theorem restoreRetainedHistory_contiguous {id : ClaimId} {revisions : List (Nat × OwnerClaim)}
    (h : restoreRetainedHistory id revisions = .ok r) : r.Contiguous := by
  obtain ⟨restored, hr, h⟩ := Except.bind_eq_ok h
  cases hl : restored.getLast? <;> simp only [hl] at h
  case none => cases h
  case some current =>
    obtain ⟨_, h⟩ := Except.ite_error_eq_ok_iff.mp h
    cases h
    simp only [Contiguous, retainedRevisions, List.dropLast_append_getLast? current hl]
    exact (restoreRevisions_isChain hr).left

theorem approve_state (h : r.Contiguous) : (Update.approve.run r).state.Contiguous := by
  rw [Update.approve_eq, EStateM.atomic_run]
  cases ha : r.approve
  case error => exact h
  case ok    => exact (approve_revised ha).contiguous h

theorem correct_state (h : r.Contiguous) :
    ((Update.correct statement kind).run r).state.Contiguous := by
  rw [Update.correct_eq, EStateM.atomic_run]
  cases hc : r.correct statement kind
  case error => exact h
  case ok    => exact (correct_revised hc).contiguous h

theorem built_capture (id : ClaimId) (kind : ClaimKind) (statement : String)
    (hb : isBlank statement = false) (hl : statement.length ≤ maxOwnerClaimChars) :
    Built ⟨id, [], ⟨.initial, ⟨statement, kind, .owner, .unverified, .direct⟩⟩⟩ := by
  have h : capture id ⟨statement, kind, .owner, .unverified, .direct⟩ =
      .ok ⟨id, [], ⟨.initial, ⟨statement, kind, .owner, .unverified, .direct⟩⟩⟩ := by
    simp [capture, validateCapturedClaim, hb, Nat.not_lt.mpr hl, Except.ok_bind, pure, Except.pure]
  exact .capture h

theorem Built.contiguous (b : r.Built) : r.Contiguous := by
  induction b
  case capture id claim r h =>
    obtain ⟨_, _, h⟩ := Except.bind_eq_ok h
    cases h
    exact List.isChain_singleton _
  case restoreRetainedHistory h => exact restoreRetainedHistory_contiguous h
  case approve hi               => exact approve_state hi
  case correct hi               => exact correct_state hi

end OwnerClaimRecord

namespace PersonaProfile

variable {p p' : PersonaProfile} {id : ClaimId} {statement : String} {kind : ClaimKind}

namespace Update

theorem onFirst_atomic {f : OwnerClaimRecord → Except ProfileError OwnerClaimRecord} :
    EStateM.onFirst (·.id = id) .claimNotFound (.atomic f) = .atomic (onClaim id f) := by
  refine EStateM.eq_atomic fun rs => ?_
  induction rs
  case nil => rfl
  case cons r rs hi =>
    simp only [EStateM.run, EStateM.onFirst, EStateM.atomic, onClaim] at hi ⊢
    by_cases hr : r.id = id
    case pos => cases f r <;> simp [hr, bind, Except.bind, pure, Except.pure]
    case neg =>
      rw [hi]
      cases onClaim id f rs <;> simp [hr, bind, Except.bind, pure, Except.pure]

theorem claimMut_eq {f : OwnerClaimRecord → Except ProfileError OwnerClaimRecord} :
    claimMut id (.atomic f) = .atomic fun p => (onClaim id f p.claims).map ({ p with claims := · }) := by
  refine EStateM.eq_atomic fun p => ?_
  rw [claimMut, onFirst_atomic, EStateM.zoom_run, EStateM.atomic_run, EStateM.atomic_run]
  cases onClaim id f p.claims <;> rfl

theorem requireState_run (expected : PersonaCaptureState) (p : PersonaProfile) :
    (requireState expected).run p =
      if p.captureState = expected then .ok () p else .error .invalidCaptureState p := by
  by_cases hs : p.captureState = expected <;> simp [requireState, hs]

theorem nextVersion_run (p : PersonaProfile) :
    nextVersion.run p =
      match p.identity.version.next with
      | .ok version => .ok version p
      | .error _    => .error .personaVersionExhausted p := by
  cases hv : p.identity.version.next <;> simp [nextVersion, hv]

theorem addCapturedClaim_eq (record : OwnerClaimRecord) :
    addCapturedClaim record = .atomic (·.addCapturedClaim record) := by
  refine EStateM.eq_atomic fun p => ?_
  rw [addCapturedClaim, EStateM.run_bind, requireState_run, EStateM.atomic_run]
  by_cases hs : p.captureState = .draft
  case neg => simp [hs, PersonaProfile.addCapturedClaim]
  case pos =>
    cases hc : p.claims.any (·.id = record.id)
    all_goals simp [hs, hc, PersonaProfile.addCapturedClaim, -List.any_eq_true, -List.any_eq_false]

theorem markCaptureComplete_eq : markCaptureComplete = .atomic PersonaProfile.markCaptureComplete := by
  refine EStateM.eq_atomic fun p => ?_
  rw [markCaptureComplete, EStateM.run_bind, requireState_run, EStateM.atomic_run]
  by_cases hs : p.captureState = .draft
  case neg => simp [hs, PersonaProfile.markCaptureComplete]
  case pos =>
    cases hc : p.claims.isEmpty
    all_goals simp [hs, hc, PersonaProfile.markCaptureComplete, -List.isEmpty_iff, -List.isEmpty_eq_false_iff]

theorem approveClaim_eq : approveClaim id = .atomic (·.approveClaim id) := by
  refine EStateM.eq_atomic fun p => ?_
  rw [approveClaim, OwnerClaimRecord.Update.approve_eq, claimMut_eq, EStateM.run_bind,
    requireState_run, EStateM.atomic_run]
  by_cases hs : p.captureState = .captured
  case neg => simp [hs, PersonaProfile.approveClaim]
  case pos =>
    simp only [hs, PersonaProfile.approveClaim, Except.bind_pure, ne_eq, not_true_eq_false, if_true,
      if_false, EStateM.atomic_run]

theorem correctClaim_eq :
    correctClaim id statement kind = .atomic (·.correctClaim id statement kind) := by
  refine EStateM.eq_atomic fun p => ?_
  rw [correctClaim, OwnerClaimRecord.Update.correct_eq, claimMut_eq, EStateM.run_bind,
    EStateM.run_get, EStateM.atomic_run]
  cases hs : p.captureState
  case draft    => simp [hs, PersonaProfile.correctClaim]
  case captured =>
    simp only [hs, PersonaProfile.correctClaim, Except.bind_pure, EStateM.atomic_run]
  case reviewed =>
    simp only [hs, PersonaProfile.correctClaim, EStateM.run_bind, nextVersion_run]
    cases hv : p.identity.version.next
    case error => rfl
    case ok version =>
      cases hc : onClaim id (·.correct statement kind) p.claims
      case error => simp [EStateM.atomic_run, hc, Except.map]
      case ok    => simp [EStateM.atomic_run, hc, Except.map, Except.ok_bind, applyVersion, hs, pure, Except.pure]

theorem approveInitialReview_eq :
    approveInitialReview = .atomic PersonaProfile.approveInitialReview := by
  refine EStateM.eq_atomic fun p => ?_
  rw [approveInitialReview, EStateM.run_bind, requireState_run, EStateM.atomic_run]
  by_cases hs : p.captureState = .captured
  case neg => simp [hs, PersonaProfile.approveInitialReview]
  case pos =>
    cases hc : p.claims.all (·.isOwnerReviewed)
    case false => simp [hs, hc, PersonaProfile.approveInitialReview, -List.all_eq_false]
    case true  =>
      cases hv : p.identity.version.next
      all_goals simp only [hs, hc, hv, PersonaProfile.approveInitialReview, nextVersion_run,
        applyVersion, EStateM.run_bind, EStateM.run_get, EStateM.run_modify, Bool.not_true,
        Bool.false_eq_true, if_false, if_true, ne_eq, not_true_eq_false]

end Update

-- Everything that a review or a correction of one claim does.
structure Edited (p : PersonaProfile) (id : ClaimId) (p' : PersonaProfile) : Prop where
  captureState : p'.captureState = p.captureState
  identity     : p'.identity.id = p.identity.id ∧ p'.identity.mode = p.identity.mode
  version      : p.captureState = .captured ∧ p'.identity.version = p.identity.version ∨
    p.captureState = .reviewed ∧ p.identity.version.next = .ok p'.identity.version
  claims       : ∃ before r r' after, p.claims = before ++ r :: after ∧
    (∀ x ∈ before, x.id ≠ id) ∧ r.id = id ∧ r.Revised r' ∧ p'.claims = before ++ r' :: after

theorem Edited.rollback (h : p.Edited id p') : ∃ u, p.undo id = some u ∧ p'.rollback u = p := by
  have ⟨before, r, r', after, hp, hb, hr, hv, hp'⟩ := h.claims
  refine rollback_eq h.captureState h.identity hp hb hr hp' ?_
  obtain rfl | ⟨_, _, _, rfl⟩ := hv.history
  case inl => simp
  case inr => simp [OwnerClaimRecord.push, OwnerClaimRecord.retainedRevisions]

theorem approveClaim_edited (h : p.approveClaim id = .ok p') : p.Edited id p' := by
  obtain ⟨hs, h⟩ := Except.ite_error_eq_ok_iff.mp h
  obtain ⟨claims, hc, h⟩ := Except.bind_eq_ok h
  cases h
  obtain ⟨before, r, r', after, hp, hb, hr, hf, rfl⟩ := onClaim_eq_ok hc
  exact ⟨rfl, ⟨rfl, rfl⟩, .inl ⟨not_not.mp hs, rfl⟩, before, r, r', after, hp, hb, hr,
    OwnerClaimRecord.approve_revised hf, rfl⟩

theorem correctClaim_edited (h : p.correctClaim id statement kind = .ok p') : p.Edited id p' := by
  cases hs : p.captureState <;> simp only [correctClaim, hs] at h
  case draft => cases h
  case captured =>
    obtain ⟨claims, hc, h⟩ := Except.bind_eq_ok h
    cases h
    obtain ⟨before, r, r', after, hp, hb, hr, hf, rfl⟩ := onClaim_eq_ok hc
    exact ⟨hs.symm, ⟨rfl, rfl⟩, .inl ⟨hs, rfl⟩, before, r, r', after, hp, hb, hr,
      OwnerClaimRecord.correct_revised hf, rfl⟩
  case reviewed =>
    cases hv : p.identity.version.next <;> simp only [hv] at h
    case error => cases h
    case ok version =>
      obtain ⟨claims, hc, h⟩ := Except.bind_eq_ok h
      cases h
      obtain ⟨before, r, r', after, hp, hb, hr, hf, rfl⟩ := onClaim_eq_ok hc
      exact ⟨hs.symm, ⟨rfl, rfl⟩, .inr ⟨hs, hv⟩, before, r, r', after, hp, hb, hr,
        OwnerClaimRecord.correct_revised hf, rfl⟩

end PersonaProfile

namespace ProfileCall

variable {ε : Type} {p p' : PersonaProfile}

-- What a call comes to, with nothing to undo.
def outcome (p : PersonaProfile) :
    ProfileCall ε → Except (TransactionalCorrectionError ε) PersonaProfile
  | addCapturedClaim record        => (p.addCapturedClaim record.val).mapError .correction
  | markCaptureComplete            => p.markCaptureComplete.mapError .correction
  | approveClaim id                => (p.approveClaim id).mapError .correction
  | correctClaim id statement kind => (p.correctClaim id statement kind).mapError .correction
  | correctClaimTransactional id statement kind commit =>
    match p.undo id, p.correctClaim id statement kind with
    | none, _             => .error (.correction .claimNotFound)
    | some _, .error e    => .error (.correction e)
    | some _, .ok p'      =>
      match commit p' with
      | .ok _    => .ok p'
      | .error e => .error (.commit e)
  | approveInitialReview           => p.approveInitialReview.mapError .correction

theorem adaptExcept_atomic {ε' σ : Type} {f : σ → Except ε σ} {g : ε → ε'} :
    EStateM.adaptExcept g (.atomic f) = .atomic fun s => (f s).mapError g := by
  refine EStateM.eq_atomic fun s => ?_
  rw [EStateM.run_adaptExcept, EStateM.atomic_run, EStateM.atomic_run]
  cases f s <;> rfl

open PersonaProfile in
theorem call_eq (c : ProfileCall ε) : c.call = .atomic c.outcome := by
  cases c <;> simp only [call, outcome, Update.addCapturedClaim_eq, Update.markCaptureComplete_eq,
    Update.approveClaim_eq, Update.correctClaim_eq, Update.approveInitialReview_eq, adaptExcept_atomic]
  case correctClaimTransactional id statement kind commit =>
    refine EStateM.eq_atomic fun p => ?_
    simp only [Update.correctClaimTransactional, Update.correctClaim_eq, adaptExcept_atomic,
      EStateM.run_bind, EStateM.run_get, EStateM.atomic_run]
    cases hu : p.undo id
    case none => rfl
    case some u =>
      cases hc : p.correctClaim id statement kind
      case error => simp [EStateM.atomic_run, hc, Except.mapError_error]
      case ok p' =>
        obtain ⟨u', hu', hr⟩ := (correctClaim_edited hc).rollback
        obtain rfl : u = u' := by simpa [hu] using hu'
        cases hm : commit p'
        all_goals simp [EStateM.atomic_run, hc, Except.mapError_ok, hm, hr]

end ProfileCall

namespace PersonaProfile

variable {ε : Type} {p p' p'' : PersonaProfile} {c : ProfileCall ε}

-- Everything that a call can do to a profile.
inductive Change (p : PersonaProfile) : PersonaProfile → Prop
  | add {record : OwnerClaimRecord} : (record.Built) → (p.captureState = .draft) →
    (record.id ∉ p.claims.map (·.id)) → Change p { p with claims := p.claims ++ [record] }
  | complete : (p.captureState = .draft) → (p.claims ≠ []) → Change p { p with captureState := .captured }
  | edit {id p'} : (p.Edited id p') → Change p p'
  | review {version} : (p.captureState = .captured) → (∀ r ∈ p.claims, r.isOwnerReviewed = true) →
    (p.identity.version.next = .ok version) →
    Change p { p with identity := { p.identity with version }, captureState := .reviewed }

theorem outcome_change (h : c.outcome p = .ok p') : p.Change p' := by
  cases c <;> simp only [ProfileCall.outcome, Except.mapError_eq_ok] at h
  case addCapturedClaim record =>
    simp only [addCapturedClaim, Except.ite_error_eq_ok_iff, Except.ok.injEq] at h
    obtain ⟨hs, hd, rfl⟩ := h
    exact .add record.property (not_not.mp hs) (by simpa using hd)
  case markCaptureComplete =>
    simp only [markCaptureComplete, Except.ite_error_eq_ok_iff, Except.ok.injEq] at h
    obtain ⟨hs, hd, rfl⟩ := h
    exact .complete (not_not.mp hs) (by simpa using hd)
  case approveClaim => exact .edit (approveClaim_edited h)
  case correctClaim => exact .edit (correctClaim_edited h)
  case correctClaimTransactional id statement kind commit =>
    split at h
    case h_1 => cases h
    case h_2 => cases h
    case h_3 hc =>
      split at h <;> cases h
      exact .edit (correctClaim_edited hc)
  case approveInitialReview =>
    simp only [approveInitialReview, Except.ite_error_eq_ok_iff] at h
    obtain ⟨hs, ha, h⟩ := h
    cases hv : p.identity.version.next <;> simp only [hv] at h <;> cases h
    exact .review (not_not.mp hs) (by simpa using ha) hv

-- What holds of the claims of a profile in every state that it reaches.
structure Orderly (p : PersonaProfile) : Prop where
  ids        : (p.claims.map (·.id)).Nodup
  contiguous : ∀ r ∈ p.claims, r.Contiguous
  captured   : p.captureState ≠ .draft → p.claims ≠ []
  reviewed   : p.captureState = .reviewed →
    (∀ r ∈ p.claims, r.isOwnerReviewed = true) ∧ 2 ≤ p.identity.version.get

-- Every record is still at its place, with its history in front of whatever came to it.
def Extends (p p' : PersonaProfile) : Prop :=
  ∀ {i : Nat} {r : OwnerClaimRecord}, p.claims[i]? = some r →
    ∃ r', p'.claims[i]? = some r' ∧ r'.id = r.id ∧ r.retainedRevisions <+: r'.retainedRevisions

theorem Extends.refl (p : PersonaProfile) : p.Extends p :=
  fun h => ⟨_, h, rfl, List.prefix_refl _⟩

theorem Extends.trans (h : p.Extends p') (h' : p'.Extends p'') : p.Extends p'' := by
  intro i r hr
  obtain ⟨r', hr', hi, hp⟩ := h hr
  obtain ⟨r'', hr'', hi', hp'⟩ := h' hr'
  exact ⟨r'', hr'', hi'.trans hi, hp.trans hp'⟩

theorem Edited.mem_claims {id : ClaimId} (h : p.Edited id p') {x : OwnerClaimRecord}
    (hx : x ∈ p'.claims) : x ∈ p.claims ∨ ∃ r ∈ p.claims, r.Revised x := by
  obtain ⟨before, r, r', after, hp, _, _, hv, hp'⟩ := h.claims
  rw [hp', List.mem_append, List.mem_cons] at hx
  obtain hx | rfl | hx := hx
  · exact .inl <| by simp [hp, hx]
  · exact .inr ⟨r, by simp [hp], hv⟩
  · exact .inl <| by simp [hp, hx]

theorem Edited.ids_eq {id : ClaimId} (h : p.Edited id p') :
    p'.claims.map (·.id) = p.claims.map (·.id) := by
  obtain ⟨before, r, r', after, hp, _, _, hv, hp'⟩ := h.claims
  simp [hp, hp', hv.id]

theorem Edited.extends {id : ClaimId} (h : p.Edited id p') : p.Extends p' := by
  obtain ⟨before, r, r', after, hp, _, _, hv, hp'⟩ := h.claims
  intro i x hx
  rw [hp] at hx
  rw [hp']
  obtain hi | rfl | hi := Nat.lt_trichotomy i before.length
  · refine ⟨x, ?_, rfl, List.prefix_refl _⟩
    rwa [List.getElem?_append_left hi] at hx ⊢
  · obtain rfl : r = x := by simpa using hx
    exact ⟨r', by simp, hv.id, hv.prefix_retainedRevisions⟩
  · refine ⟨x, ?_, rfl, List.prefix_refl _⟩
    rw [List.getElem?_append_right (Nat.le_of_lt hi)] at hx ⊢
    obtain ⟨k, hk⟩ := Nat.exists_eq_add_of_lt hi
    have hk : i - before.length = k + 1 := by omega
    simpa [hk] using hx

theorem Change.extends (h : p.Change p') : p.Extends p' := by
  cases h
  case add =>
    intro i r hr
    have hi : i < p.claims.length := (List.getElem?_eq_some_iff.mp hr).1
    exact ⟨r, by rwa [List.getElem?_append_left hi], rfl, List.prefix_refl _⟩
  case edit h => exact h.extends
  case complete | review => exact Extends.refl p

theorem Change.orderly (h : p.Change p') (s : p.Orderly) : p'.Orderly := by
  cases h
  case add record hb hs hi =>
    refine ⟨?_, ?_, by simp, by simp [hs]⟩
    · simpa [List.nodup_append] using ⟨s.ids, by simpa using hi⟩
    · intro r hr
      obtain hr | rfl : r ∈ p.claims ∨ r = record := by simpa using hr
      · exact s.contiguous r hr
      · exact hb.contiguous
  case complete hn => exact ⟨s.ids, s.contiguous, fun _ => hn, by simp⟩
  case review hs ha hv =>
    refine ⟨s.ids, s.contiguous, fun _ => s.captured (by simp [hs]), fun _ => ⟨ha, ?_⟩⟩
    have := p.identity.version.pos
    have := PersonaVersion.get_next hv
    simp only
    omega
  case edit id h =>
    refine ⟨h.ids_eq ▸ s.ids, ?contiguous, ?captured, ?reviewed⟩
    case contiguous =>
      intro x hx
      obtain hx | ⟨r, hr, hv⟩ := h.mem_claims hx
      · exact s.contiguous x hx
      · exact hv.contiguous (s.contiguous r hr)
    case captured =>
      obtain ⟨_, _, _, _, _, _, _, _, hp'⟩ := h.claims
      simp [hp']
    case reviewed =>
      intro hs
      have ⟨ha, hn⟩ := s.reviewed (h.captureState ▸ hs)
      refine ⟨fun x hx => ?_, ?_⟩
      · obtain hx | ⟨_, _, hv⟩ := h.mem_claims hx
        · exact ha x hx
        · exact hv.reviewed
      · obtain ⟨_, hv⟩ | ⟨_, hv⟩ := h.version
        · exact hv ▸ hn
        · have := PersonaVersion.get_next hv
          omega

theorem init_orderly (h : (calls ε).init p) : p.Orderly := by
  obtain ⟨identity, rfl⟩ | ⟨identity, claims, hb, h⟩ := h
  case inl => exact ⟨List.nodup_nil, by simp [new], by simp [new], by simp [new]⟩
  case inr =>
    simp only [restoreReviewed, Except.ite_error_eq_ok_iff, Except.ok.injEq] at h
    obtain ⟨hv, hn, ha, hi, rfl⟩ := h
    exact ⟨not_not.mp hi, fun r hr => (hb r hr).contiguous, fun _ => by simpa using hn,
      fun _ => ⟨by simpa using ha, Nat.le_of_not_lt hv⟩⟩

theorem step_change {o : List (Except (TransactionalCorrectionError ε) Unit)}
    (h : (calls ε).step p c = some (p', o)) : p' = p ∨ p.Change p' := by
  simp only [calls, ProfileCall.call_eq, EStateM.atomic_run, Option.some.injEq, Prod.mk.injEq] at h
  cases hc : c.outcome p <;> simp only [hc] at h
  case error => exact .inl h.left.symm
  case ok    => exact .inr <| h.left ▸ outcome_change hc

theorem steps_extends {t : List (Except (TransactionalCorrectionError ε) Unit)}
    (e : (calls ε).Steps p t p') : p.Extends p' := by
  induction e
  case refl => exact Extends.refl _
  case trans h _ hi =>
    obtain rfl | h := step_change h
    · exact hi
    · exact Extends.trans h.extends hi

theorem run_orderly {t : List (Except (TransactionalCorrectionError ε) Unit)} :
    ((calls ε).Run t p) → p.Orderly := by
  refine Machine.Run.state_invariant init_orderly fun s h => ?_
  obtain rfl | h := step_change h
  · exact s
  · exact h.orderly s

theorem outcome_correction {id : ClaimId} {statement : String} {kind : ClaimKind}
    (hc : c = .correctClaim id statement kind ∨
      ∃ commit, c = .correctClaimTransactional id statement kind commit)
    (h : c.outcome p = .ok p') : p.correctClaim id statement kind = .ok p' := by
  obtain rfl | ⟨commit, rfl⟩ := hc
  case inl => exact Except.mapError_eq_ok.mp h
  case inr =>
    simp only [ProfileCall.outcome] at h
    split at h
    case h_1 => cases h
    case h_2 => cases h
    case h_3 hc => split at h <;> cases h; exact hc

-- What holds of a profile in every state that it reaches, for commits that fail with an `ε`.
structure History (ε : Type) (p : PersonaProfile) : Prop where
  ids        : (p.claims.map (·.id)).Nodup
  contiguous : ∀ r ∈ p.claims, r.Contiguous
  reviewed   : p.captureState = .reviewed → p.claims ≠ [] ∧
    (∀ r ∈ p.claims, r.isOwnerReviewed = true) ∧ 2 ≤ p.identity.version.get
  appendOnly : ∀ {t p'}, (calls ε).Steps p t p' → p.Extends p'
  correction : ∀ {c : ProfileCall ε} {id statement kind p'}, p.captureState = .reviewed →
    (c = .correctClaim id statement kind ∨
      ∃ commit, c = .correctClaimTransactional id statement kind commit) →
    c.call.run p = .ok () p' → p.Corrected id statement kind p'
  failing    : ∀ {c : ProfileCall ε} {e p'}, c.call.run p = .error e p' → p' = p

theorem run_history {t : List (Except (TransactionalCorrectionError ε) Unit)}
    (r : (calls ε).Run t p) : p.History ε := by
  have s := run_orderly r
  refine ⟨s.ids, s.contiguous, ?reviewed, steps_extends, ?correction, ?failing⟩
  case reviewed => exact fun hs => ⟨s.captured (by simp [hs]), s.reviewed hs⟩
  case correction =>
    intro c id statement kind p' hs hc h
    rw [ProfileCall.call_eq, EStateM.atomic_run] at h
    cases ho : c.outcome p <;> rw [ho] at h <;> cases h
    exact correctClaim_corrected hs (outcome_correction hc ho)
  case failing =>
    intro c e p' h
    rw [ProfileCall.call_eq, EStateM.atomic_run] at h
    split at h <;> cases h
    rfl

-- A profile of two claims that is reviewed, corrected, and then corrected once more by a transaction
-- that does not commit.
theorem run_history_reviewed : ∃ t p, (calls String).Run t p ∧ p.captureState = .reviewed ∧
    p.claims.map (·.retainedRevisions.length) = [2, 3] ∧ p.History String := by
  let record (id : ClaimId) : { r : OwnerClaimRecord // r.Built } :=
    ⟨_, OwnerClaimRecord.built_capture id .factual "material" (by decide) (by decide)⟩
  let first : ClaimId := ⟨"first", by decide, by decide⟩
  let second : ClaimId := ⟨"second", by decide, by decide⟩
  let reached (p : PersonaProfile) : Bool :=
    p.captureState = .reviewed ∧ p.claims.map (·.retainedRevisions.length) = [2, 3]
  have h : ((calls String).replay (.new ⟨first, ⟨1, by decide⟩, .digitalTwin⟩)
      [.addCapturedClaim (record first), .addCapturedClaim (record second), .markCaptureComplete,
        .approveClaim first, .correctClaim second "better" .opinion, .approveInitialReview,
        .correctClaimTransactional second "best" .opinion fun _ => .ok (),
        .correctClaimTransactional first "lost" .factual fun _ => .error "disk"]).any
      (fun r => reached r.1) = true := by
    decide +kernel
  obtain ⟨t, p, e, h⟩ := Machine.Steps.exists_of_replay_any (p := fun p _ => reached p) _ h
  have r : (calls String).Run t p := ⟨.inl ⟨_, rfl⟩, e⟩
  have h := of_decide_eq_true h
  exact ⟨t, p, r, h.left, h.right, run_history r⟩

end PersonaProfile
