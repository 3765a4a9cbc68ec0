import PersonaRuntime.OwnerLab.Theorems.Workspace

namespace PersistedPersonaV2

variable {r next old : PersistedPersonaV2} {snapshot : DurableReviewedOwnerContextSnapshot}
  {previous : Option RawPersona}

theorem validate_schemaVersion (h : r.validate = .ok snapshot) : r.schemaVersion = storeSchemaV2 := by
  by_contra hs
  simp [validate, hs] at h

theorem adopt_eq_ok (h : next.adopt old = .ok r) :
    r.snapshot = next.snapshot ∧ old.snapshot.personaVersion ≤ next.snapshot.personaVersion ∧
    (old.workspace.isSome = true → r.workspace.isSome = true) := by
  obtain ⟨_, _, h⟩ := Except.bind_eq_ok h
  split at h
  case isTrue => cases h
  case isFalse hv =>
    have hv : old.snapshot.personaVersion ≤ next.snapshot.personaVersion := by omega
    cases hw : old.workspace <;> simp only [hw] at h
    case none =>
      cases h
      exact ⟨rfl, hv, by simp⟩
    case some workspace =>
      split at h
      case isTrue =>
        obtain ⟨_, _, h⟩ := Except.bind_eq_ok h
        cases h
        exact ⟨rfl, hv, by simp⟩
      case isFalse =>
        cases h
        exact ⟨rfl, hv, by simp⟩

theorem merged_eq_ok (h : merged snapshot previous = .ok r) :
    r.snapshot = snapshot ∧
    ∀ {old}, previous = some (.persisted old) → old.schemaVersion = storeSchemaV2 →
      old.snapshot.personaVersion ≤ snapshot.personaVersion ∧
      (old.workspace.isSome = true → r.workspace.isSome = true) := by
  cases previous
  case none =>
    cases h
    exact ⟨rfl, by simp⟩
  case some raw =>
    cases raw
    case persisted old =>
      by_cases hs : old.schemaVersion = storeSchemaV2
      case pos =>
        obtain ⟨hr, hv, hw⟩ := adopt_eq_ok (by simpa [merged, RawPersona.probe, hs] using h)
        refine ⟨hr, fun ho _ => ?_⟩
        cases ho
        exact ⟨hv, hw⟩
      case neg =>
        refine ⟨?_, fun ho hs' => by cases ho; exact absurd hs' hs⟩
        simp only [merged, RawPersona.probe, hs, if_false] at h
        split at h <;> cases h
        rfl
    case other schemaVersion =>
      refine ⟨?_, by simp⟩
      cases schemaVersion <;> simp only [merged, RawPersona.probe] at h
      case none => cases h
      case some v =>
        split at h
        case isTrue => cases h
        case isFalse =>
          split at h <;> cases h
          rfl

-- What a save keeps of the record that it has read.
theorem reconciled_eq_ok (h : reconciled snapshot previous = .ok r) :
    r.schemaVersion = storeSchemaV2 ∧ r.snapshot = snapshot ∧
    ∀ {old}, previous = some (.persisted old) → old.schemaVersion = storeSchemaV2 →
      old.snapshot.personaVersion ≤ snapshot.personaVersion ∧
      (old.workspace.isSome = true → r.workspace.isSome = true) := by
  obtain ⟨next, hm, h⟩ := Except.bind_eq_ok h
  obtain ⟨_, hv, h⟩ := Except.bind_eq_ok h
  cases h
  exact ⟨validate_schemaVersion hv, merged_eq_ok hm⟩

end PersistedPersonaV2

namespace WorkspaceCall

variable {sha256 : Digest} {c : WorkspaceCall} {record record' : PersistedPersonaV2}
  {reply : WorkspaceReply} {raw : Option RawPersona}

theorem apply_eq_ok (h : c.apply sha256 record = .ok (record', reply)) :
    record'.snapshot = record.snapshot ∧ record'.workspace.isSome = true := by
  cases c <;> simp only [apply] at h
  case provisionOwner =>
    split at h
    case isTrue => cases h
    case isFalse =>
      obtain ⟨⟨_, _⟩, _, h⟩ := Except.bind_eq_ok h
      cases h
      exact ⟨rfl, rfl⟩
  case publish =>
    split at h
    case isTrue => cases h
    case isFalse =>
      obtain ⟨_, _, h⟩ := Except.bind_eq_ok h
      obtain ⟨⟨_, _⟩, _, h⟩ := Except.bind_eq_ok h
      cases h
      exact ⟨rfl, rfl⟩
  all_goals
    obtain ⟨_, _, h⟩ := Except.bind_eq_ok h
    obtain ⟨_, _, h⟩ := Except.bind_eq_ok h
    cases h
    exact ⟨rfl, rfl⟩

theorem prepare_eq_ok (h : c.prepare sha256 raw = .ok (record', reply)) :
    record'.schemaVersion = storeSchemaV2 ∧ record'.workspace.isSome = true ∧
    ∃ record, raw = some (.persisted record) ∧ record'.snapshot = record.snapshot := by
  obtain ⟨record, hr, h⟩ := Except.bind_eq_ok h
  obtain ⟨⟨_, _⟩, ha, h⟩ := Except.bind_eq_ok h
  obtain ⟨_, hv, h⟩ := Except.bind_eq_ok h
  cases h
  have ⟨hs, hw⟩ := apply_eq_ok ha
  have hv := PersistedPersonaV2.validate_schemaVersion hv
  exact ⟨hv, hw, record, RawPersona.requiredPersona_eq_ok hr, hs⟩

end WorkspaceCall

namespace PersonaProfile

variable {p p' : PersonaProfile} {id : ClaimId} {statement : String} {kind : ClaimKind}

-- The history of the profile has the correction.
def Retains (p : PersonaProfile) (c : ClaimCorrection) : Prop :=
  ∃ record ∈ p.claims, record.id = c.id ∧
    ∃ revision ∈ record.retainedRevisions,
      revision.claim = OwnerClaimRecord.corrected c.statement c.kind

theorem Corrected.isReviewed (h : p.Corrected id statement kind p') (hr : p.isReviewed = true) :
    p'.isReviewed = true := by
  have ⟨before, r, after, revision, hp, _, _, hp'⟩ := h.claims
  simp only [PersonaProfile.isReviewed, h.identity.right, h.captureState, hp, hp',
    Bool.and_eq_true, decide_eq_true_eq, List.all_append, List.all_cons] at hr ⊢
  exact ⟨⟨hr.left.left, by simp⟩, hr.right.left, rfl, hr.right.right.right⟩

theorem Corrected.retains (h : p.Corrected id statement kind p') {c : ClaimCorrection}
    (hr : p.Retains c) : p'.Retains c := by
  have ⟨before, r, after, revision, hp, _, _, hp'⟩ := h.claims
  have ⟨record, hm, hi, rev, hv, hc⟩ := hr
  obtain hm | rfl | hm : record ∈ before ∨ record = r ∨ record ∈ after := by simpa [hp] using hm
  case inr.inl =>
    have hm' : record.push ⟨revision, OwnerClaimRecord.corrected statement kind⟩ ∈ p'.claims := by
      simp [hp']
    exact ⟨_, hm', hi, rev, OwnerClaimRecord.mem_retainedRevisions_push.mpr (.inl hv), hc⟩
  all_goals exact ⟨record, by simp [hp', hm], hi, rev, hv, hc⟩

theorem Corrected.retains_self {c : ClaimCorrection} (h : p.Corrected c.id c.statement c.kind p') :
    p'.Retains c := by
  have ⟨before, r, after, revision, _, _, hi, hp'⟩ := h.claims
  have hm : r.push ⟨revision, OwnerClaimRecord.corrected c.statement c.kind⟩ ∈ p'.claims := by simp [hp']
  exact ⟨_, hm, hi, _, OwnerClaimRecord.mem_retainedRevisions_push.mpr (.inr rfl), rfl⟩

end PersonaProfile

-- The durable history has the correction.
def DurableReviewedOwnerContextSnapshot.Retains (snapshot : DurableReviewedOwnerContextSnapshot)
    (c : ClaimCorrection) : Prop :=
  ∃ claim ∈ snapshot.claims, claim.claimId = c.id.asStr ∧
    ∃ revision ∈ claim.revisions, revision.statement = c.statement ∧ revision.kind = c.kind.apiLabel

theorem PersonaProfile.Retains.durableSnapshot {p : PersonaProfile} {c : ClaimCorrection}
    (h : p.Retains c) : p.durableSnapshot.Retains c := by
  have ⟨record, hm, hi, revision, hr, hc⟩ := h
  refine ⟨record.durableSnapshot, List.mem_map_of_mem hm, congrArg CanonicalId.asStr hi,
    revision.durableSnapshot, List.mem_map_of_mem hr, ?_, ?_⟩
  · exact congrArg OwnerClaim.statement hc
  · exact congrArg (·.kind.apiLabel) hc

namespace ClaimCorrection

variable {c : ClaimCorrection} {audience : Option LabSessionAudience} {context : Option PersonaProfile}
  {corrected : PersonaProfile} {undo : PersonaProfile.Undo}

theorem prepare_eq_ok (hr : context.all (·.isReviewed) = true)
    (h : c.prepare audience context = .ok (corrected, undo)) :
    ∃ profile, context = some profile ∧ profile.Corrected c.id c.statement c.kind corrected ∧
      corrected.rollback undo = profile := by
  simp only [prepare] at h
  split at h
  case isTrue => cases h
  case isFalse =>
    cases context <;> simp only at h
    case none => cases h
    case some profile =>
      split at h
      case h_1 undo' corrected' hu hc =>
        cases h
        have hs : profile.captureState = .reviewed := by simp_all [PersonaProfile.isReviewed]
        have hp := PersonaProfile.correctClaim_corrected hs hc
        have ⟨u, hu', hb⟩ := hp.rollback
        obtain rfl := Option.some.inj (hu.symm.trans hu')
        exact ⟨profile, rfl, hp, hb⟩
      case h_2 => cases h

end ClaimCorrection

def OwnerCallResult.isOk (r : OwnerCallResult) : Bool :=
  match r.result with
  | .ok _    => true
  | .error _ => false

-- The calls that returned `Ok`.
def succeeded (t : List OwnerCallResult) : List OwnerCall :=
  (t.filter (·.isOk)).map (·.call)

theorem succeeded_append {t t' : List OwnerCallResult} :
    succeeded (t ++ t') = succeeded t ++ succeeded t' := by
  simp [succeeded]

def OwnerCall.commit : OwnerCall → OwnerEvent
  | correct _   => .commitCorrection .committed
  | workspace _ => .commitTransaction .committed

namespace OwnerProcess

variable (sha256 : Digest)

-- Runs a call that meets no other call and no failure of the store.
def alone (s : OwnerProcess) (c : OwnerCall) : Option OwnerProcess :=
  match (machine sha256).replay s [.start c true, c.commit] with
  | some (s', [r]) => if r.isOk then some s' else none
  | _              => none

-- The process as if the calls in it had not begun.
def settled (s : OwnerProcess) : OwnerProcess where
  file        := s.file
  audience    := s.audience
  context     :=
    match s.correction with
    | none   => s.context
    | some c => s.context.map (·.rollback c.undo)
  correction  := none
  transaction := none

-- The calls in the process are where they have got to from their reads.
structure Sound (s : OwnerProcess) : Prop where
  reviewed    : s.settled.context.all (·.isReviewed) = true
  correction  : ∀ {c}, s.correction = some c → ∃ corrected, s.context = some corrected ∧
    c.call.prepare s.audience s.settled.context = .ok (corrected, c.undo) ∧
    PersistedPersonaV2.reconciled corrected.durableSnapshot c.previous = .ok c.record
  transaction : ∀ {c}, s.transaction = some c → c.call.prepare sha256 c.raw = .ok (c.record, c.reply)

variable {sha256 : Digest} {s s' : OwnerProcess} {t o : List OwnerCallResult} {e : OwnerEvent}

theorem startCorrection_sound {c : ClaimCorrection} {readable : Bool} (h : s.Sound sha256)
    (hn : s.correction = none) (hs : s.startCorrection c readable = (s', o)) :
    s'.Sound sha256 ∧ s'.settled = s.settled ∧ succeeded o = [] := by
  have hc : s.settled.context = s.context := by simp [settled, hn]
  simp only [startCorrection] at hs
  cases hp : c.prepare s.audience s.context <;> simp only [hp] at hs
  case error =>
    cases hs
    exact ⟨h, rfl, rfl⟩
  case ok r =>
    have ⟨corrected, undo⟩ := r
    have ⟨profile, hx, _, hb⟩ := ClaimCorrection.prepare_eq_ok (hc ▸ h.reviewed) hp
    have hu : { s with context := some (corrected.rollback undo) } = s := by rw [hb, ← hx]
    rw [hu] at hs
    split at hs
    case isTrue =>
      cases hs
      exact ⟨h, rfl, rfl⟩
    case isFalse =>
      split at hs <;> cases hs
      case h_1 => exact ⟨h, rfl, rfl⟩
      case h_2 record hr =>
        have he : settled { s with
            context := some corrected, correction := some ⟨c, undo, s.file, record⟩ } = s.settled := by
          simp [settled, hn, hb, hx]
        refine ⟨⟨he ▸ h.reviewed, ?_, h.transaction⟩, he, rfl⟩
        rintro _ ⟨⟩
        exact ⟨corrected, rfl, by rw [he, hc]; exact hp, hr⟩

theorem startTransaction_sound {c : WorkspaceCall} {readable : Bool} (h : s.Sound sha256)
    (hs : s.startTransaction sha256 c readable = (s', o)) :
    s'.Sound sha256 ∧ s'.settled = s.settled ∧ succeeded o = [] := by
  simp only [startTransaction] at hs
  split at hs
  case isTrue =>
    cases hs
    exact ⟨h, rfl, rfl⟩
  case isFalse =>
    split at hs <;> cases hs
    case h_1 => exact ⟨h, rfl, rfl⟩
    case h_2 record reply hp =>
      refine ⟨⟨h.reviewed, h.correction, ?_⟩, rfl, rfl⟩
      rintro _ ⟨⟩
      exact hp

-- What a call does to a process that no other call is in.
inductive Update (sha256 : Digest) (s : OwnerProcess) : OwnerProcess → List OwnerCall → Prop
  | unchanged : Update sha256 s s []
  | correct {c corrected undo record} :
    (c.prepare s.audience s.context = .ok (corrected, undo)) →
    (PersistedPersonaV2.reconciled corrected.durableSnapshot s.file = .ok record) →
    Update sha256 s { s with file := some (.persisted record), context := some corrected } [.correct c]
  | workspace {c record reply} :
    (c.prepare sha256 s.file = .ok (record, reply)) →
    Update sha256 s { s with file := some (.persisted record) } [.workspace c]

-- A commit does no harm if the file is what its call has read, and if the call does not report an
-- error for a file that it has replaced.
def keepsUpdate (s : OwnerProcess) : OwnerEvent → Bool
  | .commitCorrection .committed               => s.correction.all (·.previous = s.file)
  | .commitTransaction .committed              => s.transaction.all (·.raw = s.file)
  | .commitCorrection .notFlushed              => false
  | .commitTransaction .notFlushed             => false
  | .commitCorrection _ | .commitTransaction _ => true
  | .start ..                                  => true

theorem commitCorrection_update {c : Correction} {outcome : CommitOutcome} (h : s.Sound sha256)
    (hc : s.correction = some c) (hk : s.keepsUpdate (.commitCorrection outcome) = true)
    (hs : s.commitCorrection c outcome = (s', o)) :
    s'.Sound sha256 ∧ s.settled.Update sha256 s'.settled (succeeded o) := by
  have ⟨corrected, hx, hp, hr⟩ := h.correction hc
  have ⟨profile, hb, hd, hu⟩ := ClaimCorrection.prepare_eq_ok h.reviewed hp
  cases outcome
  case notFlushed => simp [keepsUpdate] at hk
  case notReplaced failure =>
    have he : s'.settled = s.settled := by
      cases hs
      simp [settled, hc, CommitOutcome.file]
    refine ⟨⟨he ▸ h.reviewed, ?_, ?_⟩, ?_⟩
    · cases hs
      simp
    · cases hs
      exact h.transaction
    · rw [he]
      cases hs
      exact .unchanged
  case committed =>
    have hf : c.previous = s.file := by simpa [keepsUpdate, hc] using hk
    have he : s'.settled = { s.settled with
        file := some (.persisted c.record), context := some corrected } := by
      cases hs
      simp [settled, hx, CommitOutcome.file]
    refine ⟨⟨?_, ?_, ?_⟩, ?_⟩
    · simpa [he] using hd.isReviewed (by simpa [hb] using h.reviewed)
    · cases hs
      simp
    · cases hs
      exact h.transaction
    · rw [he]
      cases hs
      exact .correct hp (hf ▸ hr)

theorem commitTransaction_update {c : WorkspaceTransaction} {outcome : CommitOutcome}
    (h : s.Sound sha256) (hc : s.transaction = some c)
    (hk : s.keepsUpdate (.commitTransaction outcome) = true)
    (hs : s.commitTransaction c outcome = (s', o)) :
    s'.Sound sha256 ∧ s.settled.Update sha256 s'.settled (succeeded o) := by
  cases outcome
  case notFlushed => simp [keepsUpdate] at hk
  case notReplaced failure =>
    cases hs
    exact ⟨⟨h.reviewed, h.correction, by simp⟩, .unchanged⟩
  case committed =>
    have hf : c.raw = s.file := by simpa [keepsUpdate, hc] using hk
    cases hs
    refine ⟨⟨h.reviewed, h.correction, by simp⟩, ?_⟩
    exact .workspace (hf ▸ h.transaction hc)

theorem Sound.step (h : s.Sound sha256) (hk : s.keepsUpdate e = true)
    (hs : (machine sha256).step s e = some (s', o)) :
    s'.Sound sha256 ∧ s.settled.Update sha256 s'.settled (succeeded o) := by
  cases e
  case start call readable =>
    cases call <;> simp only [machine, Option.ite_none_left_eq_some] at hs
    case correct c =>
      have ⟨h', he, ho⟩ := startCorrection_sound h (by simpa using hs.left) (Option.some.inj hs.right)
      exact ⟨h', he ▸ ho ▸ .unchanged⟩
    case workspace c =>
      have ⟨h', he, ho⟩ := startTransaction_sound h (Option.some.inj hs.right)
      exact ⟨h', he ▸ ho ▸ .unchanged⟩
  case commitCorrection outcome =>
    obtain ⟨c, hc, hs⟩ := Option.map_eq_some_iff.mp hs
    exact commitCorrection_update h hc hk hs
  case commitTransaction outcome =>
    obtain ⟨c, hc, hs⟩ := Option.map_eq_some_iff.mp hs
    exact commitTransaction_update h hc hk hs

-- A process in which no call has begun.
def Idle (s : OwnerProcess) : Prop :=
  s.correction = none ∧ s.transaction = none

variable {calls : List OwnerCall}

theorem Update.serial (hi : Idle s) (u : s.Update sha256 s' calls) :
    calls.foldlM (alone sha256) s = some s' := by
  have ⟨file, audience, context, correction, transaction⟩ := s
  obtain ⟨rfl, rfl⟩ := hi
  cases u
  case unchanged => rfl
  case correct hp hr =>
    simp only at hp hr
    simp [alone, Machine.replay, machine, startCorrection, hp, hr, OwnerCall.commit, commitCorrection,
      CommitOutcome.result, CommitOutcome.file, OwnerCallResult.isOk]
  case workspace hp =>
    simp only at hp
    simp [alone, Machine.replay, machine, startTransaction, hp, OwnerCall.commit, commitTransaction,
      CommitOutcome.result, CommitOutcome.file, OwnerCallResult.isOk]

-- The canonical record in the file store.
def Holds (s : OwnerProcess) (record : PersistedPersonaV2) : Prop :=
  s.file = some (.persisted record) ∧ record.schemaVersion = storeSchemaV2

-- An update replaces a record by one that has its version, or a later one, and a workspace if there
-- was one.
theorem Update.holds {record : PersistedPersonaV2} (u : s.Update sha256 s' calls) (h : s.Holds record) :
    ∃ record', s'.Holds record' ∧
      record.snapshot.personaVersion ≤ record'.snapshot.personaVersion ∧
      (record.workspace.isSome = true → record'.workspace.isSome = true) := by
  cases u
  case unchanged => exact ⟨record, h, le_refl _, (·)⟩
  case correct hp hr =>
    have ⟨hv, hs, hk⟩ := PersistedPersonaV2.reconciled_eq_ok hr
    have ⟨hl, hw⟩ := hk h.left h.right
    exact ⟨_, ⟨rfl, hv⟩, hs ▸ hl, hw⟩
  case workspace hp =>
    have ⟨hv, hw, old, ho, hs⟩ := WorkspaceCall.prepare_eq_ok hp
    obtain rfl : record = old := by simpa [h.left] using ho
    exact ⟨_, ⟨rfl, hv⟩, le_of_eq (by rw [hs]), fun _ => hw⟩

-- The correction is in the profile, and the profile is in the file store.
def Retains (s : OwnerProcess) (c : ClaimCorrection) : Prop :=
  ∃ profile record, s.context = some profile ∧ profile.Retains c ∧ s.Holds record ∧
    record.snapshot = profile.durableSnapshot

theorem Update.retains {c : ClaimCorrection} (hr : s.context.all (·.isReviewed) = true)
    (u : s.Update sha256 s' calls) (h : s.Retains c ∨ .correct c ∈ calls) : s'.Retains c := by
  cases u
  case unchanged => simpa using h
  case correct c' corrected undo record hp hc =>
    have ⟨profile, hx, hd, _⟩ := ClaimCorrection.prepare_eq_ok hr hp
    have ⟨hv, hs, _⟩ := PersistedPersonaV2.reconciled_eq_ok hc
    refine ⟨corrected, record, rfl, ?_, ⟨rfl, hv⟩, hs⟩
    obtain ⟨profile', _, hx', hp', _⟩ | h := h
    · obtain rfl := Option.some.inj (hx.symm.trans hx')
      exact hd.retains hp'
    · obtain rfl : c = c' := by simpa using h
      exact hd.retains_self
  case workspace hp =>
    obtain ⟨profile, record, hx, hp', hf, hs⟩ : s.Retains c := by simpa using h
    have ⟨hv, _, old, ho, hs'⟩ := WorkspaceCall.prepare_eq_ok hp
    obtain rfl : record = old := by simpa [hf.left] using ho
    exact ⟨profile, _, hx, hp', ⟨rfl, hv⟩, hs'.trans hs⟩

theorem Update.provisioned {random : RandomSource} (u : s.Update sha256 s' calls)
    (h : (∃ record, s.Holds record ∧ record.workspace.isSome = true) ∨
      .workspace (.provisionOwner random) ∈ calls) :
    ∃ record, s'.Holds record ∧ record.workspace.isSome = true := by
  obtain ⟨record, h, hw⟩ | h := h
  case inl =>
    have ⟨record', h', _, hw'⟩ := u.holds h
    exact ⟨record', h', hw' hw⟩
  case inr =>
    cases u
    case workspace hp =>
      have ⟨hv, hw, _⟩ := WorkspaceCall.prepare_eq_ok hp
      exact ⟨_, ⟨rfl, hv⟩, hw⟩
    all_goals simp at h

-- The run of the process so far is a run of the calls that returned `Ok`, in the order of their
-- commits.
structure Serial (sha256 : Digest) (s₀ : OwnerProcess) (t : List OwnerCallResult) (s : OwnerProcess) :
    Prop where
  sound       : s.Sound sha256
  serial      : (succeeded t).foldlM (alone sha256) s₀ = some s.settled
  corrected   : ∀ {c}, .correct c ∈ succeeded t → s.settled.Retains c
  provisioned : ∀ {random}, .workspace (.provisionOwner random) ∈ succeeded t →
    ∃ record, s.settled.Holds record ∧ record.workspace.isSome = true

theorem Serial.step {s₀ : OwnerProcess} (h : Serial sha256 s₀ t s) (hk : s.keepsUpdate e = true)
    (hs : (machine sha256).step s e = some (s', o)) : Serial sha256 s₀ (t ++ o) s' := by
  have ⟨h', u⟩ := h.sound.step hk hs
  refine ⟨h', ?serial, fun {c} hm => ?corrected, fun {random} hm => ?provisioned⟩
  case serial =>
    rw [succeeded_append, List.foldlM_append, h.serial]
    exact u.serial ⟨rfl, rfl⟩
  case corrected =>
    rw [succeeded_append, List.mem_append] at hm
    exact u.retains h.sound.reviewed (hm.imp_left h.corrected)
  case provisioned =>
    rw [succeeded_append, List.mem_append] at hm
    exact u.provisioned (hm.imp_left h.provisioned)

-- The owner's updates up to this point of a run of `m`.
structure NoLostUpdate (sha256 : Digest) (m : Machine OwnerProcess OwnerEvent OwnerCallResult)
    (s₀ : OwnerProcess) (t : List OwnerCallResult) (s : OwnerProcess) : Prop where
  serial      : ∃ (calls : List OwnerCall) (s' : OwnerProcess), calls.Perm (succeeded t) ∧
    calls.foldlM (alone sha256) s₀ = some s' ∧ s'.file = s.file
  version     : ∀ {record e s' o}, s.Holds record → m.step s e = some (s', o) →
    ∃ record', s'.Holds record' ∧ record.snapshot.personaVersion ≤ record'.snapshot.personaVersion
  corrected   : ∀ {c}, .correct c ∈ succeeded t → ∃ record, s.Holds record ∧ record.snapshot.Retains c
  provisioned : ∀ {random}, .workspace (.provisionOwner random) ∈ succeeded t →
    ∃ record, s.Holds record ∧ record.workspace.isSome = true

theorem Serial.noLostUpdate {s₀ : OwnerProcess} (h : Serial sha256 s₀ t s) :
    NoLostUpdate sha256 ((machine sha256).guarded keepsUpdate) s₀ t s where
  serial      := ⟨_, _, .refl _, h.serial, rfl⟩
  version {record e s' o} hr hs := by
    have ⟨hk, hs⟩ := Machine.guarded_step_iff.mp hs
    have ⟨_, u⟩ := h.sound.step hk hs
    have ⟨record', hr', hv, _⟩ := u.holds hr
    exact ⟨record', hr', hv⟩
  corrected hm := by
    have ⟨profile, record, _, hp, hr, hs⟩ := h.corrected hm
    exact ⟨record, hr, hs ▸ hp.durableSnapshot⟩
  provisioned := h.provisioned

theorem steps_noLostUpdate {s₀ : OwnerProcess} (i : (machine sha256).init s₀)
    (r : ((machine sha256).guarded keepsUpdate).Steps s₀ t s) :
    NoLostUpdate sha256 ((machine sha256).guarded keepsUpdate) s₀ t s := by
  have ⟨hc, ht, hr⟩ := i
  have hc : s₀.correction = none := by simpa using hc
  have ht : s₀.transaction = none := by simpa using ht
  have hs : s₀.settled = s₀ := by
    have ⟨_, _, _, _, _⟩ := s₀
    simp_all [settled]
  have h₀ : Serial sha256 s₀ [] s₀ :=
    ⟨⟨by rw [hs]; exact hr, by simp [hc], by simp [ht]⟩, by rw [hs]; rfl, by simp [succeeded],
      by simp [succeeded]⟩
  have h : Serial sha256 s₀ ([] ++ t) s := r.preserves (fun h hs =>
    have ⟨hk, hs⟩ := Machine.guarded_step_iff.mp hs
    h.step hk hs) h₀
  exact h.noLostUpdate

def reviewedProfile : PersonaProfile where
  identity     := ⟨⟨"persona", by decide, by decide⟩, ⟨2, by decide⟩, .digitalTwin⟩
  captureState := .reviewed
  claims       := [{
    id                := ⟨"claim", by decide, by decide⟩
    previousRevisions := []
    current           := ⟨⟨2, by decide⟩, OwnerClaimRecord.corrected "before" .opinion⟩ }]

-- The process after it has restored the reviewed Persona.
def restored : OwnerProcess where
  file        := some (.persisted (.new reviewedProfile.durableSnapshot))
  audience    := none
  context     := some reviewedProfile
  correction  := none
  transaction := none

def restatement : ClaimCorrection where
  id        := ⟨"claim", by decide, by decide⟩
  statement := "after"
  kind      := .opinion

theorem restored_init : (machine zeroDigest).init restored :=
  ⟨rfl, rfl, by decide⟩

-- The owner corrects a claim and then provisions the workspace.
theorem steps_noLostUpdate_provisioned : ∃ t s, (machine zeroDigest).init restored ∧
    ((machine zeroDigest).guarded keepsUpdate).Steps restored t s ∧
    succeeded t = [.correct restatement, .workspace (.provisionOwner zeros)] ∧
    NoLostUpdate zeroDigest ((machine zeroDigest).guarded keepsUpdate) restored t s := by
  obtain ⟨t, s, r, hm⟩ : ∃ t s, ((machine zeroDigest).guarded keepsUpdate).Steps restored t s ∧
      succeeded t = [.correct restatement, .workspace (.provisionOwner zeros)] :=
    ⟨_, _, .of_replay [.start (.correct restatement) true, .commitCorrection .committed,
      .start (.workspace (.provisionOwner zeros)) true, .commitTransaction .committed] rfl, rfl⟩
  exact ⟨t, s, restored_init, r, hm, steps_noLostUpdate restored_init r⟩

-- The correction reads the file before the workspace is provisioned and commits it afterwards.
theorem not_noLostUpdate_stale : ¬∀ s₀ t s, (machine zeroDigest).init s₀ →
    (machine zeroDigest).Steps s₀ t s → NoLostUpdate zeroDigest (machine zeroDigest) s₀ t s := by
  intro h
  obtain ⟨t, s, r, hm, record, hr, hw⟩ : ∃ t s, (machine zeroDigest).Steps restored t s ∧
      succeeded t = [.workspace (.provisionOwner zeros), .correct restatement] ∧
      ∃ record, s.file = some (.persisted record) ∧ record.workspace = none :=
    ⟨_, _, .of_replay [.start (.correct restatement) true,
      .start (.workspace (.provisionOwner zeros)) true, .commitTransaction .committed,
      .commitCorrection .committed] rfl, rfl, _, rfl, rfl⟩
  have hp : .workspace (.provisionOwner zeros) ∈ succeeded t := by simp [hm]
  have ⟨record', hr', hs⟩ := (h restored t s restored_init r).provisioned hp
  obtain rfl : record = record' := by simpa using hr.symm.trans hr'.left
  simp [hw] at hs

end OwnerProcess
