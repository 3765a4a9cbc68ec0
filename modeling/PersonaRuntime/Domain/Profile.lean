import PersonaRuntime.Domain.Persona
import PersonaRuntime.Machine.Mutation

def maxOwnerClaimChars : Nat :=
  4096

inductive ClaimKind
  | factual
  | opinion
  | preference
  | prediction
  | valueJudgment
deriving DecidableEq, Repr

inductive SourceKind
  | owner
  | user
  | document
  | web
  | tool
  | model
deriving DecidableEq, Repr

inductive VerificationState
  | unverified
  | corroborated
  | ownerVerified
  | sourceVerified
  | disputed
deriving DecidableEq, Repr

inductive DerivationKind
  | direct
  | remembered
  | inferred
  | summarized
  | simulated
deriving DecidableEq, Repr

structure OwnerClaim where
  statement    : String
  kind         : ClaimKind
  source       : SourceKind
  verification : VerificationState
  derivation   : DerivationKind
deriving DecidableEq, Repr

inductive ProfileError
  | invalidClaimProvenance
  | blankClaimStatement
  | claimStatementTooLong
  | duplicateClaimId
  | emptyCapture
  | claimNotFound
  | claimsNotReviewed
  | invalidCaptureState
  | invalidClaimHistory
  | invalidReviewedProfileVersion
  | claimRevisionExhausted
  | personaVersionExhausted
deriving DecidableEq, Repr

@[ext]
structure ClaimRevision where
  get : Nat
  pos : 0 < get

namespace ClaimRevision

instance : DecidableEq ClaimRevision :=
  fun _ _ => decidable_of_iff _ ClaimRevision.ext_iff.symm

def initial : ClaimRevision :=
  ⟨1, Nat.one_pos⟩

def next (r : ClaimRevision) : Except ProfileError ClaimRevision :=
  if r.get + 1 ≤ u64Max then .ok ⟨r.get + 1, Nat.succ_pos _⟩ else .error .claimRevisionExhausted

end ClaimRevision

structure OwnerClaimRevision where
  revision : ClaimRevision
  claim    : OwnerClaim
deriving DecidableEq

structure OwnerClaimRecord where
  id                : ClaimId
  previousRevisions : List OwnerClaimRevision
  current           : OwnerClaimRevision
deriving DecidableEq

namespace OwnerClaimRecord

def isOwnerReviewed (r : OwnerClaimRecord) : Bool :=
  r.current.claim.source = .owner && r.current.claim.verification = .ownerVerified &&
    r.current.claim.derivation = .direct

def retainedRevisions (r : OwnerClaimRecord) : List OwnerClaimRevision :=
  r.previousRevisions ++ [r.current]

def hasCompleteHistory (r : OwnerClaimRecord) : Bool :=
  r.retainedRevisions.head?.any (·.revision = .initial)

-- The record after the current claim moved to the history.
def push (r : OwnerClaimRecord) (revision : OwnerClaimRevision) : OwnerClaimRecord :=
  { r with previousRevisions := r.retainedRevisions, current := revision }

def replaceCurrent (r : OwnerClaimRecord) (claim : OwnerClaim) : Except ProfileError OwnerClaimRecord := do
  let revision ← r.current.revision.next
  return r.push ⟨revision, claim⟩

-- What a correction puts in the place of the current claim.
def corrected (statement : String) (kind : ClaimKind) : OwnerClaim where
  statement    := statement
  kind         := kind
  source       := .owner
  verification := .ownerVerified
  derivation   := .direct

def correct (r : OwnerClaimRecord) (statement : String) (kind : ClaimKind) :
    Except ProfileError OwnerClaimRecord :=
  if isBlank statement then
    .error .blankClaimStatement
  else if statement.length > maxOwnerClaimChars then
    .error .claimStatementTooLong
  else
    r.replaceCurrent (corrected statement kind)

theorem mem_retainedRevisions_push {r : OwnerClaimRecord} {revision x : OwnerClaimRevision} :
    x ∈ (r.push revision).retainedRevisions ↔ x ∈ r.retainedRevisions ∨ x = revision := by
  simp [push, retainedRevisions, or_assoc]

theorem replaceCurrent_eq_ok {r r' : OwnerClaimRecord} {claim : OwnerClaim}
    (h : r.replaceCurrent claim = .ok r') :
    ∃ revision, r.current.revision.next = .ok revision ∧ r' = r.push ⟨revision, claim⟩ := by
  obtain ⟨revision, hn, h⟩ := Except.bind_eq_ok h
  cases h
  exact ⟨revision, hn, rfl⟩

theorem correct_eq_ok {r r' : OwnerClaimRecord} {statement : String} {kind : ClaimKind}
    (h : r.correct statement kind = .ok r') :
    ∃ revision, r.current.revision.next = .ok revision ∧
      r' = r.push ⟨revision, corrected statement kind⟩ := by
  simp only [correct, Except.ite_error_eq_ok_iff] at h
  exact replaceCurrent_eq_ok h.right.right

end OwnerClaimRecord

inductive PersonaCaptureState
  | draft
  | captured
  | reviewed
deriving DecidableEq, Repr

structure PersonaProfile where
  identity     : PersonaIdentity
  captureState : PersonaCaptureState
  claims       : List OwnerClaimRecord
deriving DecidableEq

namespace PersonaProfile

-- `claim_mut(id).ok_or(ClaimNotFound)?` followed by a call on the record that was found.
def onClaim (id : ClaimId) (f : OwnerClaimRecord → Except ProfileError OwnerClaimRecord) :
    List OwnerClaimRecord → Except ProfileError (List OwnerClaimRecord)
  | []      => .error .claimNotFound
  | r :: rs =>
    if r.id = id then do return (← f r) :: rs
    else do return r :: (← onClaim id f rs)

def correctClaim (p : PersonaProfile) (id : ClaimId) (statement : String) (kind : ClaimKind) :
    Except ProfileError PersonaProfile :=
  match p.captureState with
  | .draft => .error .invalidCaptureState
  | .captured => do
    return { p with claims := ← onClaim id (·.correct statement kind) p.claims }
  | .reviewed =>
    match p.identity.version.next with
    | .error _    => .error .personaVersionExhausted
    | .ok version => do
      let claims ← onClaim id (·.correct statement kind) p.claims
      return { p with claims, identity := { p.identity with version } }

-- What `correct_claim_transactional` keeps to undo a correction that is not committed.
structure Undo where
  index              : Nat
  previousCurrent    : OwnerClaimRevision
  previousHistoryLen : Nat
  previousVersion    : PersonaVersion

def undo (p : PersonaProfile) (id : ClaimId) : Option Undo := do
  let index ← p.claims.findIdx? (·.id = id)
  let record ← p.claims[index]?
  return {
    index
    previousCurrent    := record.current
    previousHistoryLen := record.previousRevisions.length
    previousVersion    := p.identity.version }

def rollback (p : PersonaProfile) (u : Undo) : PersonaProfile :=
  { p with
    claims   := p.claims.modify u.index fun r => { r with
      current           := u.previousCurrent
      previousRevisions := r.previousRevisions.take u.previousHistoryLen }
    identity := { p.identity with version := u.previousVersion } }

variable {p p' : PersonaProfile} {id : ClaimId} {statement : String} {kind : ClaimKind}

theorem onClaim_eq_ok {f : OwnerClaimRecord → Except ProfileError OwnerClaimRecord}
    {rs rs' : List OwnerClaimRecord} (h : onClaim id f rs = .ok rs') :
    ∃ before r r' after, rs = before ++ r :: after ∧ (∀ x ∈ before, x.id ≠ id) ∧ r.id = id ∧
      f r = .ok r' ∧ rs' = before ++ r' :: after := by
  induction rs generalizing rs' <;> simp only [onClaim] at h
  case nil => cases h
  case cons r rs hi =>
    split at h
    case isTrue hr =>
      cases hf : f r <;> simp only [hf] at h <;> cases h
      exact ⟨[], r, _, rs, rfl, by simp, hr, hf, rfl⟩
    case isFalse hr =>
      cases hf : onClaim id f rs <;> simp only [hf] at h <;> cases h
      obtain ⟨before, r₁, r', after, rfl, hb, hi, hf', rfl⟩ := hi hf
      exact ⟨r :: before, r₁, r', after, rfl, by simpa using ⟨hr, hb⟩, hi, hf', rfl⟩

-- Everything that a correction of a reviewed profile does.
structure Corrected (p : PersonaProfile) (id : ClaimId) (statement : String) (kind : ClaimKind)
    (p' : PersonaProfile) : Prop where
  captureState : p'.captureState = p.captureState
  identity     : p'.identity.id = p.identity.id ∧ p'.identity.mode = p.identity.mode
  version      : p'.identity.version.get = p.identity.version.get + 1
  claims       : ∃ before r after revision, p.claims = before ++ r :: after ∧
    (∀ x ∈ before, x.id ≠ id) ∧ r.id = id ∧
    p'.claims = before ++ r.push ⟨revision, OwnerClaimRecord.corrected statement kind⟩ :: after

theorem correctClaim_corrected (hs : p.captureState = .reviewed)
    (h : p.correctClaim id statement kind = .ok p') : p.Corrected id statement kind p' := by
  simp only [correctClaim, hs] at h
  cases hv : p.identity.version.next <;> simp only [hv] at h
  case error => cases h
  case ok version =>
    cases hc : onClaim id (·.correct statement kind) p.claims <;> simp only [hc] at h <;> cases h
    obtain ⟨before, r, r', after, hp, hb, hi, hr, rfl⟩ := onClaim_eq_ok hc
    obtain ⟨revision, _, rfl⟩ := OwnerClaimRecord.correct_eq_ok hr
    exact ⟨hs.symm, ⟨rfl, rfl⟩, PersonaVersion.get_next hv, before, r, after, revision, hp, hb, hi, rfl⟩

theorem modify_append {before after : List OwnerClaimRecord} {r : OwnerClaimRecord}
    {f : OwnerClaimRecord → OwnerClaimRecord} :
    (before ++ r :: after).modify before.length f = before ++ f r :: after := by
  induction before
  case nil       => rfl
  case cons _ hi => simpa using hi

theorem findIdx?_append {before after : List OwnerClaimRecord} {r : OwnerClaimRecord}
    (hb : ∀ x ∈ before, x.id ≠ id) (hr : r.id = id) :
    (before ++ r :: after).findIdx? (·.id = id) = some before.length := by
  induction before
  case nil => simp [List.findIdx?_cons, hr]
  case cons x before hi =>
    have hx : x.id ≠ id := hb x (by simp)
    simpa [List.findIdx?_cons, hx] using hi fun y hy => hb y (by simp [hy])

-- Whatever was done to one record is undone when its history is cut back to where it was.
theorem rollback_eq {before after : List OwnerClaimRecord} {r r' : OwnerClaimRecord}
    (hs : p'.captureState = p.captureState)
    (hi : p'.identity.id = p.identity.id ∧ p'.identity.mode = p.identity.mode)
    (hp : p.claims = before ++ r :: after) (hb : ∀ x ∈ before, x.id ≠ id) (hr : r.id = id)
    (hp' : p'.claims = before ++ r' :: after)
    (hu : { r' with
      current           := r.current
      previousRevisions := r'.previousRevisions.take r.previousRevisions.length } = r) :
    ∃ u, p.undo id = some u ∧ p'.rollback u = p := by
  have hx : p.claims.findIdx? (·.id = id) = some before.length := hp ▸ findIdx?_append hb hr
  refine ⟨⟨before.length, r.current, r.previousRevisions.length, p.identity.version⟩, ?_, ?_⟩
  · rw [undo, hx]
    simp [hp]
  · have hc : p'.claims.modify before.length (fun r' => { r' with
        current           := r.current
        previousRevisions := r'.previousRevisions.take r.previousRevisions.length }) = p.claims := by
      rw [hp', hp, modify_append, hu]
    have hi : (⟨p'.identity.id, p.identity.version, p'.identity.mode⟩ : PersonaIdentity) = p.identity := by
      rw [hi.left, hi.right]
    simp only [PersonaProfile.rollback, hc, hi, hs]

-- A correction that is not committed leaves no trace.
theorem Corrected.rollback (h : p.Corrected id statement kind p') :
    ∃ u, p.undo id = some u ∧ p'.rollback u = p := by
  have ⟨before, r, after, revision, hp, hb, hi, hp'⟩ := h.claims
  exact rollback_eq h.captureState h.identity hp hb hi hp' <| by
    simp [OwnerClaimRecord.push, OwnerClaimRecord.retainedRevisions]

end PersonaProfile
