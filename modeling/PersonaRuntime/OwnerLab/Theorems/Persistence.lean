import PersonaRuntime.OwnerLab.FileStore
import PersonaRuntime.OwnerLab.Theorems.OwnerContext
import PersonaRuntime.OwnerLab.Theorems.Requests

-- A workspace that visitors have access to.
def OwnerWorkspaceRecord.published (w : OwnerWorkspaceRecord) : Bool :=
  w.visitorTokenSha256.isSome && w.publication.any (·.status = .published)

theorem OwnerWorkspaceRecord.onPersonaCorrection_published {w w' : OwnerWorkspaceRecord} {version : Nat}
    (h : w.onPersonaCorrection version = .ok w') : w'.published = false := by
  cases hp : w.publication <;> simp only [onPersonaCorrection, hp] at h
  case none =>
    cases h
    simp [published, hp]
  case some =>
    obtain ⟨_, _, h⟩ := Except.bind_eq_ok h
    obtain ⟨_, _, h⟩ := Except.bind_eq_ok h
    cases h
    rfl

namespace PersistedPersonaV2

variable {old next : PersistedPersonaV2} {snapshot : DurableReviewedOwnerContextSnapshot}

def published (r : PersistedPersonaV2) : Bool :=
  r.workspace.any (·.published)

-- Everything that a save can make of the record that it replaces.
inductive Adopts (snapshot : DurableReviewedOwnerContextSnapshot) (old : PersistedPersonaV2) :
    PersistedPersonaV2 → Prop
  | same : (snapshot.personaVersion = old.snapshot.personaVersion) →
    Adopts snapshot old ⟨storeSchemaV2, snapshot, old.workspace⟩
  | unowned : (old.snapshot.personaVersion < snapshot.personaVersion) →
    Adopts snapshot old (new snapshot)
  | corrected {workspace workspace' : OwnerWorkspaceRecord} : (old.snapshot.personaVersion < snapshot.personaVersion) →
    (workspace.onPersonaCorrection snapshot.personaVersion = .ok workspace') →
    Adopts snapshot old ⟨storeSchemaV2, snapshot, some workspace'⟩

theorem adopt_adopts (h : (new snapshot).adopt old = .ok next) :
    snapshot.personaId = old.snapshot.personaId ∧ Adopts snapshot old next := by
  obtain ⟨_, _, h⟩ := Except.bind_eq_ok h
  split at h
  case isTrue => cases h
  case isFalse hm =>
    obtain ⟨hi, hv⟩ := not_or.mp hm
    refine ⟨(not_not.mp hi).symm, ?_⟩
    have hv : old.snapshot.personaVersion ≤ snapshot.personaVersion := Nat.not_lt.mp hv
    cases hw : old.workspace <;> simp only [hw] at h
    case none =>
      cases h
      obtain hv | hv := Nat.eq_or_lt_of_le hv
      · have ha : Adopts snapshot old ⟨storeSchemaV2, snapshot, old.workspace⟩ := .same hv.symm
        rwa [hw] at ha
      · exact .unowned hv
    case some workspace =>
      split at h
      case isTrue hv =>
        obtain ⟨workspace', hc, h⟩ := Except.bind_eq_ok h
        cases h
        exact .corrected hv hc
      case isFalse hn =>
        cases h
        exact hw ▸ .same (Nat.le_antisymm (Nat.not_lt.mp hn) hv)

theorem Adopts.published (h : Adopts snapshot old next) (hp : next.published = true) :
    snapshot.personaVersion = old.snapshot.personaVersion ∧ old.published = true := by
  cases h
  case same hv        => exact ⟨hv, hp⟩
  case unowned        => simp [PersistedPersonaV2.published, new] at hp
  case corrected _ hc =>
    simp [PersistedPersonaV2.published, OwnerWorkspaceRecord.onPersonaCorrection_published hc] at hp

theorem Adopts.keeps (h : Adopts snapshot old next) :
    next.snapshot = snapshot ∧ old.snapshot.personaVersion ≤ snapshot.personaVersion := by
  cases h
  case same hv        => exact ⟨rfl, Nat.le_of_eq hv.symm⟩
  case unowned hv     => exact ⟨rfl, Nat.le_of_lt hv⟩
  case corrected hv _ => exact ⟨rfl, Nat.le_of_lt hv⟩

-- A save over a valid record takes it over in one of these ways and leaves a valid one.
theorem reconciled_adopts (hv : old.validate = .ok old.snapshot)
    (h : reconciled snapshot (some (.persisted old)) = .ok next) :
    snapshot.personaId = old.snapshot.personaId ∧ Adopts snapshot old next ∧
      ∃ s, next.validate = .ok s := by
  obtain ⟨next, hm, h⟩ := Except.bind_eq_ok h
  obtain ⟨s, hn, h⟩ := Except.bind_eq_ok h
  cases h
  have hs := validate_schemaVersion hv
  have hm : (new snapshot).adopt old = .ok next := by simpa [merged, RawPersona.probe, hs] using hm
  obtain ⟨hi, ha⟩ := adopt_adopts hm
  exact ⟨hi, ha, s, hn⟩

theorem adopt_same (hv : old.validate = .ok old.snapshot)
    (hi : snapshot.personaId = old.snapshot.personaId)
    (hp : snapshot.personaVersion = old.snapshot.personaVersion) :
    (new snapshot).adopt old = .ok ⟨storeSchemaV2, snapshot, old.workspace⟩ := by
  have hm : ¬(old.snapshot.personaId ≠ (new snapshot).snapshot.personaId ∨
      old.snapshot.personaVersion > (new snapshot).snapshot.personaVersion) := by
    simp [new, hi, hp]
  rw [adopt, hv, Except.ok_bind, if_neg hm]
  cases hw : old.workspace
  case none => simp [new]
  case some => simp [new, hp]

theorem validate_same (hv : old.validate = .ok old.snapshot)
    (hi : snapshot.personaId = old.snapshot.personaId)
    (hp : snapshot.personaVersion = old.snapshot.personaVersion) :
    validate ⟨storeSchemaV2, snapshot, old.workspace⟩ = .ok snapshot := by
  have hs := validate_schemaVersion hv
  cases hw : old.workspace
  case none => rfl
  case some workspace =>
    simp only [validate, hs, hw] at hv
    obtain ⟨⟨⟩, hv, -⟩ := Except.bind_eq_ok hv
    simp only [validate, hi, hp, hv]
    rfl

-- A save of the same version keeps the workspace as it is.
theorem reconciled_same (hv : old.validate = .ok old.snapshot)
    (hi : snapshot.personaId = old.snapshot.personaId)
    (hp : snapshot.personaVersion = old.snapshot.personaVersion) :
    reconciled snapshot (some (.persisted old)) = .ok ⟨storeSchemaV2, snapshot, old.workspace⟩ := by
  have hs := validate_schemaVersion hv
  have hm : merged snapshot (some (.persisted old)) = .ok ⟨storeSchemaV2, snapshot, old.workspace⟩ := by
    simpa [merged, RawPersona.probe, hs] using adopt_same hv hi hp
  rw [reconciled, hm, Except.ok_bind, validate_same hv hi hp]
  rfl

-- What a save is to leave of the record before it.
structure Follows (old next : PersistedPersonaV2) : Prop where
  claims         : next.published = true → next.snapshot.claims = old.snapshot.claims
  personaId      : next.snapshot.personaId = old.snapshot.personaId
  personaVersion : old.snapshot.personaVersion ≤ next.snapshot.personaVersion
  valid          : ∃ s, next.validate = .ok s

theorem reconciled_follows (hv : old.validate = .ok old.snapshot) :
    (∀ next, reconciled snapshot (some (.persisted old)) = .ok next → old.Follows next) ↔
      (snapshot.personaId = old.snapshot.personaId →
        snapshot.personaVersion = old.snapshot.personaVersion → old.published = true →
        snapshot.claims = old.snapshot.claims) := by
  refine ⟨fun h hi hp ho => (h _ (reconciled_same hv hi hp)).claims ho, fun h next hr => ?_⟩
  have ⟨hi, ha, hn⟩ := reconciled_adopts hv hr
  have ⟨hs, hl⟩ := ha.keeps
  refine ⟨fun hp => ?_, hs ▸ hi, hs ▸ hl, hn⟩
  have ⟨he, ho⟩ := ha.published hp
  exact hs ▸ h hi he ho

end PersistedPersonaV2

namespace OwnerProcess

-- The reviewed Persona after one correction of its claim.
def correctedSnapshot (statement : String) : DurableReviewedOwnerContextSnapshot :=
  ⟨"persona", 3, [⟨"claim", false, [⟨2, "before", "opinion", "owner", "owner_verified", "direct"⟩,
    ⟨3, statement, "opinion", "owner", "owner_verified", "direct"⟩]⟩]⟩

def zeroOwner : String :=
  hex (List.replicate 16 0)

def publishedCorrection : PersistedPersonaV2 where
  schemaVersion := storeSchemaV2
  snapshot      := correctedSnapshot "after"
  workspace     := some {
    ownerId            := zeroOwner
    ownerTokenSha256   := hashSecret zeroDigest zeroOwner
    publication        := some ⟨zeroOwner, zeroOwner, "persona", 3, .published, 2, false⟩
    visitorTokenSha256 := some (hashSecret zeroDigest zeroOwner) }

-- The next version of a published Persona loses its visitors.
theorem reconciled_follows_corrected : publishedCorrection.published = true ∧
    ∀ next, PersistedPersonaV2.reconciled ⟨"persona", 4, (correctedSnapshot "later").claims⟩
      (some (.persisted publishedCorrection)) = .ok next → publishedCorrection.Follows next :=
  ⟨rfl, (PersistedPersonaV2.reconciled_follows (by decide +kernel)).mpr (by decide)⟩

-- A correction that has failed is in the file all the same, and it is published from there. The next
-- correction gets the same version.
theorem not_reconciled_follows_published : ∃ t s next,
    (machine zeroDigest).Steps restored t s ∧ s.file = some (.persisted publishedCorrection) ∧
    publishedCorrection.validate = .ok publishedCorrection.snapshot ∧ s.context = some reviewedProfile ∧
    (reviewedProfile.correctClaim restatement.id "later" .opinion).map (·.durableSnapshot) =
      .ok (correctedSnapshot "later") ∧
    PersistedPersonaV2.reconciled (correctedSnapshot "later") s.file = .ok next ∧
    next.published = true ∧ next.snapshot.claims ≠ publishedCorrection.snapshot.claims := by
  have hr : ((machine zeroDigest).replay restored [
      .start (.correct restatement) true, .commitCorrection .notFlushed,
      .start (.workspace (.provisionOwner zeros)) true, .commitTransaction .committed,
      .start (.workspace (.publish (hex (List.replicate 32 0)) 3 true zeros)) true,
      .commitTransaction .committed]).map (fun r => (r.1.file, r.1.context)) =
      some (some (.persisted publishedCorrection), some reviewedProfile) := by
    decide +kernel
  obtain ⟨⟨s, t⟩, hr, hs⟩ := Option.map_eq_some_iff.mp hr
  obtain ⟨hf, hc⟩ : s.file = _ ∧ s.context = _ := by simpa using hs
  have hv : publishedCorrection.validate = .ok publishedCorrection.snapshot := by decide +kernel
  have hn : PersistedPersonaV2.reconciled (correctedSnapshot "later") s.file =
      .ok ⟨storeSchemaV2, correctedSnapshot "later", publishedCorrection.workspace⟩ :=
    hf ▸ PersistedPersonaV2.reconciled_same hv rfl rfl
  exact ⟨t, s, _, .of_replay _ hr, hf, hv, hc, by decide +kernel, hn, rfl, by decide⟩

-- A process that has restored its profile from the record in the file, and has no call in it.
structure Restores (s : OwnerProcess) (old : PersistedPersonaV2) (profile : PersonaProfile) : Prop where
  file       : s.file = some (.persisted old)
  valid      : old.validate = .ok old.snapshot
  restored   : ReviewedOwnerContext.fromDurableSnapshot old.snapshot = .ok profile
  context    : s.context = some profile
  correction : s.correction = none

-- A correction is in the profile and in the file, or it has failed and is in none of them.
inductive Atomic (s : OwnerProcess) (c : ClaimCorrection) : OwnerProcess × List OwnerCallResult → Prop
  | failed {s' error} : (s'.context = s.context) → (s'.file = s.file) →
    Atomic s c (s', [⟨.correct c, .error error⟩])
  | succeeded {s' profile corrected record} : (s.context = some profile) →
    (profile.correctClaim c.id c.statement c.kind = .ok corrected) → (s'.context = some corrected) →
    (s'.file = some (.persisted record)) → (record.snapshot = corrected.durableSnapshot) →
    Atomic s c (s', [⟨.correct c, .ok .changed⟩])

-- The correction gets as far as the commit of its record.
def Reaches (s : OwnerProcess) (c : ClaimCorrection) (readable : Bool) : Prop :=
  readable = true ∧ ∃ corrected undo record, c.prepare s.audience s.context = .ok (corrected, undo) ∧
    PersistedPersonaV2.reconciled corrected.durableSnapshot s.file = .ok record

end OwnerProcess

-- Every step of the commit up to the one that makes the record visible succeeds, and the one after
-- it fails.
structure CommitAnswers.Unflushed (a : CommitAnswers) : Prop where
  createDirAll  : a.createDirAll = true
  staged        : stage a.attempt stagingAttempts = .ok ()
  writeAll      : a.writeAll = true
  syncAll       : a.syncAll = true
  rename        : a.rename = true
  syncDirectory : a.syncDirectory = false

theorem CommitAnswers.commitRaw_notFlushed_iff {a : CommitAnswers} :
    a.commitRaw = .notFlushed ↔ a.Unflushed := by
  constructor
  case mp =>
    intro h
    cases hd : a.createDirAll <;> simp only [commitRaw, hd] at h
    case false => cases h
    cases hs : stage a.attempt stagingAttempts <;> simp only [hs] at h
    case error => cases h
    cases hw : a.writeAll <;> simp only [hw] at h
    case false => cases h
    cases hy : a.syncAll <;> simp only [hy] at h
    case false => cases h
    cases hr : a.rename <;> simp only [hr] at h
    case false => cases h
    cases hf : a.syncDirectory <;> simp only [hf] at h
    case true => cases h
    exact ⟨hd, hs, hw, hy, hr, hf⟩
  case mpr =>
    intro h
    simp [commitRaw, h.createDirAll, h.staged, h.writeAll, h.syncAll, h.rename, h.syncDirectory]

theorem ClaimCorrection.prepare_correctClaim {c : ClaimCorrection} {audience : Option LabSessionAudience}
    {context : Option PersonaProfile} {profile corrected : PersonaProfile} {undo : PersonaProfile.Undo}
    (hc : context = some profile) (h : c.prepare audience context = .ok (corrected, undo)) :
    profile.correctClaim c.id c.statement c.kind = .ok corrected := by
  simp only [prepare, hc] at h
  split at h
  case isTrue => cases h
  case isFalse =>
    split at h
    case h_1 hk =>
      cases h
      exact hk
    case h_2 => cases h

namespace OwnerProcess

variable {s : OwnerProcess} {old : PersistedPersonaV2} {profile : PersonaProfile} {c : ClaimCorrection}
  {readable : Bool} {answers : CommitAnswers}

theorem Restores.decode (h : s.Restores old profile) :
    s.context.all (·.isReviewed) = true ∧ profile.durableSnapshot = old.snapshot := by
  have hp := ReviewedOwnerContext.fromDurableSnapshot_eq_ok_iff.mp h.restored
  obtain ⟨-, _, -, _, -, _, -, -, hr, hs⟩ := ReviewedOwnerContext.decode_eq_some_iff.mp hp
  exact ⟨by simpa [h.context] using hr, hs⟩

-- Everything that a correction can do before its commit.
inductive Started (s : OwnerProcess) (c : ClaimCorrection) (readable : Bool) :
    OwnerProcess × List OwnerCallResult → Prop
  | refused {s' error} : (¬s.Reaches c readable) → (s'.context = s.context) → (s'.file = s.file) →
    (s'.correction = none) → Started s c readable (s', [⟨.correct c, .error error⟩])
  | begun {corrected undo record} : (readable = true) →
    (c.prepare s.audience s.context = .ok (corrected, undo)) →
    (PersistedPersonaV2.reconciled corrected.durableSnapshot s.file = .ok record) →
    Started s c readable ({ s with
      context    := some corrected
      correction := some { call := c, undo, previous := s.file, record } }, [])

theorem Restores.started (h : s.Restores old profile) :
    s.Started c readable (s.startCorrection c readable) := by
  simp only [startCorrection]
  cases hp : c.prepare s.audience s.context
  case error =>
    have hn : ¬s.Reaches c readable := by
      rintro ⟨_, _, _, _, hp', _⟩
      simp [hp] at hp'
    exact .refused hn rfl rfl h.correction
  case ok r =>
    obtain ⟨corrected, undo⟩ := r
    obtain ⟨_, hx, -, hb⟩ := ClaimCorrection.prepare_eq_ok h.decode.left hp
    have hc : some (corrected.rollback undo) = s.context := hb ▸ hx.symm
    cases readable
    case false =>
      have hn : ¬s.Reaches c false := fun hr => by simpa using hr.left
      exact .refused hn hc rfl h.correction
    case true =>
      cases hr : PersistedPersonaV2.reconciled corrected.durableSnapshot s.file
      all_goals simp only [Bool.not_true, Bool.false_eq_true, if_false, hr]
      case error =>
        have hn : ¬s.Reaches c true := by
          rintro ⟨_, _, _, _, hp', hr'⟩
          cases hp.symm.trans hp'
          simp [hr] at hr'
        exact .refused hn hc rfl h.correction
      case ok record => exact .begun rfl hp hr

-- The corrected record has a version of its own.
theorem Restores.record_ne (h : s.Restores old profile) {corrected : PersonaProfile}
    {undo : PersonaProfile.Undo} {record : PersistedPersonaV2}
    (hp : c.prepare s.audience s.context = .ok (corrected, undo))
    (hr : PersistedPersonaV2.reconciled corrected.durableSnapshot s.file = .ok record) :
    some (.persisted record) ≠ s.file := by
  intro he
  obtain ⟨profile', hx, hc, -⟩ := ClaimCorrection.prepare_eq_ok h.decode.left hp
  obtain rfl : profile = profile' := by simpa [h.context] using hx
  obtain rfl : record = old := by simpa [h.file] using he
  have hs := (PersistedPersonaV2.reconciled_eq_ok hr).right.left
  have hv := congrArg (·.personaVersion) (hs.symm.trans h.decode.right.symm)
  have hv : corrected.identity.version.get = profile.identity.version.get := hv
  have := hc.version
  omega

theorem correctOwnerClaimPersisted_atomic (h : s.Restores old profile) :
    s.Atomic c (s.correctOwnerClaimPersisted c readable answers) ↔
      ¬(s.Reaches c readable ∧ answers.Unflushed) := by
  have hs : s.Started c readable _ := h.started
  rw [correctOwnerClaimPersisted]
  generalize s.startCorrection c readable = r at hs
  cases hs
  case refused hn hc hf hk =>
    simp only [hk]
    exact ⟨fun _ hr => hn hr.left, fun _ => .failed hc hf⟩
  case begun corrected undo record hr hp hx =>
    have hreach : s.Reaches c readable := ⟨hr, corrected, undo, record, hp, hx⟩
    obtain ⟨_, hc, -, hb⟩ := ClaimCorrection.prepare_eq_ok h.decode.left hp
    cases ho : answers.commitRaw
    all_goals simp only [commitCorrection, CommitOutcome.result, CommitOutcome.file]
    case committed =>
      have hn : ¬answers.Unflushed := by simp [← CommitAnswers.commitRaw_notFlushed_iff, ho]
      have hs := (PersistedPersonaV2.reconciled_eq_ok hx).right.left
      exact ⟨fun _ hr => hn hr.right, fun _ => .succeeded hc (ClaimCorrection.prepare_correctClaim hc hp) rfl rfl hs⟩
    case notReplaced =>
      have hn : ¬answers.Unflushed := by simp [← CommitAnswers.commitRaw_notFlushed_iff, ho]
      exact ⟨fun _ hr => hn hr.right, fun _ => .failed (by simp [hb, hc]) rfl⟩
    case notFlushed =>
      have hu : answers.Unflushed := CommitAnswers.commitRaw_notFlushed_iff.mp ho
      refine ⟨fun ha => ?_, fun hn => absurd ⟨hreach, hu⟩ hn⟩
      cases ha
      case failed hf => exact absurd hf (h.record_ne hp hx)

-- The answers of a file system that does everything, except that the directory may not be synced.
def stored (syncDirectory : Bool) : CommitAnswers where
  createDirAll  := true
  attempt _     := .opened
  writeAll      := true
  syncAll       := true
  rename        := true
  syncDirectory := syncDirectory

theorem restored_restores : restored.Restores (.new reviewedProfile.durableSnapshot) reviewedProfile where
  file       := rfl
  valid      := rfl
  restored   := by decide +kernel
  context    := rfl
  correction := rfl

theorem correctOwnerClaimPersisted_atomic_stored :
    restored.Restores (.new reviewedProfile.durableSnapshot) reviewedProfile ∧
    restored.Reaches restatement true ∧
    restored.Atomic restatement (restored.correctOwnerClaimPersisted restatement true (stored true)) := by
  refine ⟨restored_restores, ⟨rfl, _, _, _, rfl, rfl⟩, ?_⟩
  exact (correctOwnerClaimPersisted_atomic restored_restores).mpr fun h => by cases h.right.syncDirectory

-- The file has the correction that was reported to have failed, and the profile does not have it.
theorem not_correctOwnerClaimPersisted_atomic :
    restored.Restores (.new reviewedProfile.durableSnapshot) reviewedProfile ∧
    ∃ s record, restored.correctOwnerClaimPersisted restatement true (stored false) =
      (s, [⟨.correct restatement, .error (.lab .persistenceFailed)⟩]) ∧
    s.context = some reviewedProfile ∧ s.file = some (.persisted record) ∧
    record.snapshot = correctedSnapshot "after" ∧ s.file ≠ restored.file :=
  ⟨restored_restores, _, _, rfl, rfl, rfl, rfl, by decide⟩

end OwnerProcess
