import PersonaRuntime.Machine.Triple
import PersonaRuntime.OwnerLab.Migration
import PersonaRuntime.OwnerLab.Theorems.OwnerContext
import PersonaRuntime.OwnerLab.Theorems.Workspace

open ReviewedOwnerContext

section

variable {c : ReviewedOwnerClaimSnapshot} {s : ReviewedOwnerContextSnapshot}

theorem migrateClaims_eq_ok {cs : List ReviewedOwnerClaimSnapshot} {ds : List DurableReviewedOwnerClaimSnapshot}
    (h : migrateClaims cs = .ok ds) : ds = cs.map migrateClaim := by
  induction cs generalizing ds
  case nil =>
    cases h
    rfl
  case cons c cs hi =>
    unfold migrateClaims at h
    split at h
    case isTrue => cases h
    case isFalse =>
      obtain ⟨rest, hr, h⟩ := Except.bind_eq_ok h
      cases h
      rw [List.map_cons, ← hi hr]

-- The one revision that is known is the current one.
theorem reviewed_of_migrateClaim {r : OwnerClaimRecord} (h : r.durableSnapshot = migrateClaim c) :
    r.id.asStr = c.claimId ∧ r.current.claim.statement = c.statement ∧
      r.current.claim.kind.apiLabel = c.kind ∧ r.current.revision.get = c.revision := by
  simp only [OwnerClaimRecord.durableSnapshot, migrateClaim, OwnerClaimRecord.retainedRevisions, List.map_append,
    List.map_cons, List.map_nil, DurableReviewedOwnerClaimSnapshot.mk.injEq] at h
  obtain ⟨hi, -, hr⟩ := h
  have hc := (List.append_inj' (hr.trans (List.nil_append _).symm) rfl).right
  simp only [OwnerClaimRevision.durableSnapshot, List.cons.injEq, DurableOwnerClaimRevisionSnapshot.mk.injEq] at hc
  exact ⟨hi, hc.left.right.left, hc.left.right.right.left, hc.left.left⟩

theorem reviewedSnapshot_of_migrated {p : PersonaProfile}
    (h : p.durableSnapshot = ⟨s.personaId, s.personaVersion, s.claims.map migrateClaim⟩) :
    p.reviewedSnapshot = s := by
  have hl {rs : List OwnerClaimRecord} {cs : List ReviewedOwnerClaimSnapshot}
      (h : rs.map (·.durableSnapshot) = cs.map migrateClaim) :
      (rs.map fun r => (⟨r.id.asStr, r.current.claim.statement, r.current.claim.kind.apiLabel,
        r.current.revision.get⟩ : ReviewedOwnerClaimSnapshot)) = cs := by
    induction rs generalizing cs
    case nil => simpa using h
    case cons r rs hi =>
      cases cs
      case nil => cases h
      case cons c cs =>
        simp only [List.map_cons, List.cons.injEq] at h
        obtain ⟨h₁, h₂, h₃, h₄⟩ := reviewed_of_migrateClaim h.left
        rw [List.map_cons, hi h.right, h₁, h₂, h₃, h₄]
  simp only [PersonaProfile.durableSnapshot, DurableReviewedOwnerContextSnapshot.mk.injEq] at h
  rw [PersonaProfile.reviewedSnapshot, h.left, h.right.left, hl h.right.right]

theorem migrateV1Snapshot_eq_ok {d : DurableReviewedOwnerContextSnapshot} (h : migrateV1Snapshot s = .ok d) :
    ∃ p, fromDurableSnapshot d = .ok p ∧ p.reviewedSnapshot = s := by
  unfold migrateV1Snapshot at h
  split at h
  case isTrue => cases h
  case isFalse =>
    obtain ⟨claims, hc, h⟩ := Except.bind_eq_ok h
    obtain rfl := migrateClaims_eq_ok hc
    obtain ⟨p, hp, h⟩ := Except.bind_eq_ok h
    have hp := Except.orMessage_eq_ok hp
    -- `from_durable_snapshot` compares what it restores with what it was given.
    obtain ⟨-, -, -, -, -, -, -, -, -, hd⟩ := decode_eq_some_iff.mp (fromDurableSnapshot_eq_ok_iff.mp hp)
    cases h
    rw [hd]
    exact ⟨p, hp, reviewedSnapshot_of_migrated hd⟩

end

namespace StoredPersona

variable {content : StoredPersona} {r : PersistedPersonaV1} {d : DurableReviewedOwnerContextSnapshot}

theorem raw_probe : content.raw.probe = content.probe := by
  unfold raw
  split
  case h_1 record h => exact (content.v2_probe record h).symm
  case h_2 => rfl

theorem decode_v1 (hv : content.v1 = some r) (hs : r.schemaVersion = storeSchemaV1) :
    decodePersisted content = (migrateV1Snapshot r.snapshot).map (⟨·, true⟩) := by
  have hp := content.v1_probe r hv
  have hn : storeSchemaV1 ≠ storeSchemaV2 := by decide
  simp only [decodePersisted, hp, hs, hv, Option.okOr, Except.ok_bind, hn, if_false, if_true, ne_eq,
    not_true_eq_false]
  cases migrateV1Snapshot r.snapshot <;> rfl

theorem decode_ofRecord : decodePersisted (ofRecord (.new d)) = .ok ⟨d, false⟩ :=
  rfl

-- What is saved over a v1 record has no workspace.
theorem reconciled_v1 (hv : content.v1 = some r) (hs : r.schemaVersion = storeSchemaV1) :
    PersistedPersonaV2.reconciled d (some content.raw) = .ok (.new d) := by
  have hp : content.raw.probe = some storeSchemaV1 := by rw [raw_probe, content.v1_probe r hv, hs]
  have hn : storeSchemaV1 ≠ storeSchemaV2 := by decide
  simp only [PersistedPersonaV2.reconciled, PersistedPersonaV2.merged, hp, hn, if_false, ne_eq, not_true_eq_false]
  rfl

end StoredPersona

namespace PersonaFiles

open EStateM StoredPersona

variable {P Q R : PersonaFiles → Prop} {content : StoredPersona} {record : PersistedPersonaV2}

-- A property that does not depend on the answers.
def Steady (P : PersonaFiles → Prop) : Prop :=
  ∀ {s : PersonaFiles} answers, P s → P { s with answers }

theorem answer_triple (hp : Steady P) : Triple P answer (fun _ => P) R :=
  fun _ hs => hp _ hs

theorem primitive_triple {message : String} {effect : PersonaFiles → PersonaFiles} (hp : Steady P)
    (he : ∀ s, P s → Q (effect s)) (hr : ∀ s, P s → R s) (hq : ∀ s, Q s → R s) :
    Triple P (primitive message effect) (fun _ => Q) R := by
  apply Triple.bind (answer_triple hp)
  intro a
  cases a
  case done => exact he
  case cut applied =>
    cases applied
    case false => exact hr
    case true  => exact fun s hs => hq _ (he s hs)
  case alreadyExists => exact hr
  case failed        => exact hr

-- The file has one content or the other.
def Holds (content : StoredPersona) (s : PersonaFiles) : Prop :=
  s.file = some content

def Staged (content : StoredPersona) (record : PersistedPersonaV2) (s : PersonaFiles) : Prop :=
  s.file = some content ∧ s.staged = some (.ofRecord record)

def OldOrNew (content : StoredPersona) (record : PersistedPersonaV2) (s : PersonaFiles) : Prop :=
  s.file = some content ∨ s.file = some (.ofRecord record)

theorem readRaw_triple : Triple (Holds content) readRaw (fun raw s => raw = some content ∧ Holds content s)
    (Holds content) := by
  apply Triple.bind (primitive_triple (fun _ h => h) (fun _ h => h) (fun _ h => h) (fun _ h => h))
  intro _ s hs
  exact ⟨hs, hs⟩

theorem stage_triple (n : Nat) : Triple (Holds content) (stage n) (fun _ => Holds content) (Holds content) := by
  induction n
  case zero => exact fun _ h => h
  case succ n hi =>
    apply Triple.bind (primitive_triple (fun _ h => h) (fun _ h => h) (fun _ h => h) (fun _ h => h))
    intro _
    apply Triple.bind (answer_triple fun _ h => h)
    intro a
    cases a
    case done          => exact fun _ h => h
    case alreadyExists => exact hi
    case failed        => exact fun _ h => h
    case cut applied   => cases applied <;> exact fun _ h => h

-- The file is replaced at once, by a record that is written to its end.
theorem commit_triple : Triple (Holds content) (commit record) (fun _ => Holds (.ofRecord record))
    (OldOrNew content record) := by
  apply Triple.bind (Q := fun _ => Staged content record)
  · exact primitive_triple (fun _ h => h) (fun _ h => ⟨h, rfl⟩) (fun _ h => .inl h) (fun _ h => .inl h.left)
  intro _
  apply Triple.bind (Q := fun _ => Staged content record)
  · exact primitive_triple (fun _ h => h) (fun _ h => h) (fun _ h => .inl h.left) (fun _ h => .inl h.left)
  intro _
  apply Triple.bind (Q := fun _ => Holds (.ofRecord record))
  · refine primitive_triple (fun _ h => h) (fun s h => ?_) (fun _ h => .inl h.left) (fun _ h => .inr h)
    simp [rename, h.right, Holds]
  intro _
  exact primitive_triple (fun _ h => h) (fun _ h => h) (fun _ h => .inr h) (fun _ h => .inr h)

theorem removeStaged_triple : Triple (OldOrNew content record) removeStaged
    (fun _ => OldOrNew content record) (OldOrNew content record) := by
  apply Triple.bind (answer_triple fun _ h => h)
  intro a
  cases a
  case cut applied => cases applied <;> exact fun _ h => h
  all_goals exact fun _ h => h

theorem commitRaw_triple : Triple (Holds content) (commitRaw record) (fun _ => Holds (.ofRecord record))
    (OldOrNew content record) := by
  apply Triple.bind (Q := fun _ => Holds content)
  · exact primitive_triple (fun _ h => h) (fun _ h => h) (fun _ h => .inl h) (fun _ h => .inl h)
  intro _
  apply Triple.bind (Q := fun _ => Holds content)
  · exact (stage_triple 16).weaken (fun _ h => h) (fun _ _ h => h) fun _ h => .inl h
  intro _
  apply commit_triple.tryCatch
  intro e
  cases e
  case ended => exact fun _ h => h
  case error message =>
    apply removeStaged_triple.bind
    exact fun _ _ h => h

variable {r : PersistedPersonaV1} {d : DurableReviewedOwnerContextSnapshot}

theorem saveFile_triple (hr : PersistedPersonaV2.reconciled d (some content.raw) = .ok record) :
    Triple (Holds content) (saveFile d) (fun _ => Holds (.ofRecord record)) (OldOrNew content record) := by
  apply Triple.bind (readRaw_triple.weaken (fun _ h => h) (fun _ _ h => h) fun _ h => .inl h)
  intro raw
  apply Triple.bind (Q := fun x s => x = record ∧ Holds content s)
  · apply Triple.check
    · rintro x hx s ⟨rfl, hs⟩
      rw [Option.map_some, hr] at hx
      cases hx
      exact ⟨rfl, hs⟩
    · exact fun _ h => .inl h.right
  intro x s h
  obtain ⟨rfl, hs⟩ := h
  exact commitRaw_triple s hs

-- A load of a record that has to be migrated.
theorem loadFile_triple (hd : decodePersisted content = .ok ⟨d, true⟩)
    (hr : PersistedPersonaV2.reconciled d (some content.raw) = .ok record) :
    Triple (Holds content) loadFile (fun x s => x = some d ∧ Holds (.ofRecord record) s)
      (OldOrNew content record) := by
  apply Triple.bind (readRaw_triple.weaken (fun _ h => h) (fun _ _ h => h) fun _ h => .inl h)
  intro raw
  cases raw
  case none => exact fun _ h => nomatch h.left
  case some raw =>
    apply Triple.bind (Q := fun x s => x = ⟨d, true⟩ ∧ Holds content s)
    · apply Triple.check
      · intro x hx s h
        cases h.left
        rw [hd] at hx
        cases hx
        exact ⟨rfl, h.right⟩
      · exact fun _ h => .inl h.right
    intro x s h
    obtain ⟨rfl, hs⟩ := h
    refine Triple.bind (P := Holds content) (saveFile_triple hr) (fun _ => ?_) s hs
    exact Triple.pure fun _ h => ⟨rfl, h⟩

-- A load that fails to decode, or has nothing to migrate, writes nothing.
theorem loadFile_reads {decoded : Except String DecodedPersona} (hd : decodePersisted content = decoded)
    (hn : ∀ x, decoded = .ok x → x.migratedLegacy = false) :
    Triple (fun s => s.file = some content ∧ s.staged = none) loadFile
      (fun a s => (∃ x, decoded = .ok x ∧ a = some x.snapshot) ∧ s.file = some content ∧ s.staged = none)
      (fun s => s.file = some content ∧ s.staged = none) := by
  apply Triple.bind (Q := fun raw s => raw = some content ∧ s.file = some content ∧ s.staged = none)
  · apply Triple.bind (primitive_triple (fun _ h => h) (fun _ h => h) (fun _ h => h) (fun _ h => h))
    intro _ s hs
    exact ⟨hs.left, hs⟩
  intro raw
  cases raw
  case none => exact fun _ h => nomatch h.left
  case some raw =>
    apply Triple.bind (Q := fun x s => decoded = .ok x ∧ s.file = some content ∧ s.staged = none)
    · apply Triple.check
      · intro x hx s h
        cases h.left
        exact ⟨hd.symm.trans hx, h.right⟩
      · exact fun _ h => h.right
    intro x s h
    have hx := hn x h.left
    simp only [hx, Bool.false_eq_true, if_false]
    exact ⟨⟨x, h.left, rfl⟩, h.right⟩

-- The loads in which every primitive succeeds.
theorem loadFile_undisturbed (hd : decodePersisted content = .ok ⟨d, true⟩)
    (hr : PersistedPersonaV2.reconciled d (some content.raw) = .ok record) :
    loadFile.run ⟨some content, none, []⟩ = .ok (some d) ⟨some (.ofRecord record), none, []⟩ := by
  have hs : (saveFile d).run ⟨some content, none, []⟩ = .ok () ⟨some (.ofRecord record), none, []⟩ := by
    have hq : readRaw.run ⟨some content, none, []⟩ = .ok (some content) ⟨some content, none, []⟩ := rfl
    have hc : (commitRaw record).run ⟨some content, none, []⟩ = .ok () ⟨some (.ofRecord record), none, []⟩ := rfl
    simp only [saveFile, EStateM.run_bind, hq, Option.map_some, hr, check_ok_run, hc]
  have hq : readRaw.run ⟨some content, none, []⟩ = .ok (some content) ⟨some content, none, []⟩ := rfl
  simp only [loadFile, EStateM.run_bind, hq, hd, check_ok_run, if_true, hs, EStateM.run_pure]

theorem loadFile_again : loadFile.run ⟨some (.ofRecord (.new d)), none, []⟩ =
    .ok (some d) ⟨some (.ofRecord (.new d)), none, []⟩ :=
  rfl

-- What becomes of a v1 record that can be decoded, whatever the primitives of the file system answer.
structure MigratesOnce (content : StoredPersona) (v1 : ReviewedOwnerContextSnapshot)
    (d : DurableReviewedOwnerContextSnapshot) : Prop where
  restores : ∃ profile, fromDurableSnapshot d = .ok profile ∧ profile.reviewedSnapshot = v1
  loads    : loadFile.run ⟨some content, none, []⟩ = .ok (some d) ⟨some (.ofRecord (.new d)), none, []⟩
  again    : loadFile.run ⟨some (.ofRecord (.new d)), none, []⟩ =
    .ok (some d) ⟨some (.ofRecord (.new d)), none, []⟩
  settled  : ∀ answers, Triple (fun s => s = ⟨some (.ofRecord (.new d)), none, answers⟩) loadFile
    (fun a s => a = some d ∧ s.file = some (.ofRecord (.new d)) ∧ s.staged = none)
    (fun s => s.file = some (.ofRecord (.new d)) ∧ s.staged = none)
  -- A call that fails or is cut off leaves a file from which the next load gets the same.
  cutOff   : ∀ answers, ∃ file, (loadFile.run ⟨some content, none, answers⟩).state.file = some file ∧
    (file = content ∨ file = .ofRecord (.new d)) ∧
    loadFile.run ⟨some file, none, []⟩ = .ok (some d) ⟨some (.ofRecord (.new d)), none, []⟩

theorem loadFile_migrates (hv : content.v1 = some r) (hs : r.schemaVersion = storeSchemaV1) :
    (∀ x, decodePersisted content = .ok x → MigratesOnce content r.snapshot x.snapshot) ∧
    ∀ e, decodePersisted content = .error e →
      ∀ answers, (loadFile.run ⟨some content, none, answers⟩).state.file = some content := by
  constructor
  case left =>
    intro x hx
    have hm := hx
    rw [decode_v1 hv hs] at hm
    cases hd : migrateV1Snapshot r.snapshot <;> rw [hd] at hm <;> cases hm
    case ok.refl d =>
      have hr : PersistedPersonaV2.reconciled d (some content.raw) = .ok (.new d) := reconciled_v1 hv hs
      have hu := loadFile_undisturbed hx hr
      refine ⟨migrateV1Snapshot_eq_ok hd, hu, loadFile_again, fun answers => ?_, fun answers => ?_⟩
      case refine_1 =>
        refine (loadFile_reads decode_ofRecord ?_).weaken ?_ ?_ fun _ h => h
        · rintro _ ⟨⟩
          rfl
        · rintro _ rfl
          exact ⟨rfl, rfl⟩
        · rintro a s ⟨⟨x, hx, ha⟩, hf⟩
          cases hx
          exact ⟨ha, hf⟩
      case refine_2 =>
        have ht := ((loadFile_triple hx hr).weaken (fun _ h => h) (fun _ _ h => .inr h.right) fun _ h => h).state
          (s := ⟨some content, none, answers⟩) rfl
        obtain hf | hf := ht
        · exact ⟨_, hf, .inl rfl, hu⟩
        · exact ⟨_, hf, .inr rfl, loadFile_again⟩
  case right =>
    intro e he answers
    have ht := (loadFile_reads he nofun).weaken (fun _ h => h) (fun _ _ h => h.right) fun _ h => h
    exact (ht.state (s := ⟨some content, none, answers⟩) ⟨rfl, rfl⟩).left

def legacyContext : ReviewedOwnerContextSnapshot where
  personaId      := "legacy-owner"
  personaVersion := 7
  claims         := [⟨"legacy-opinion", "Tea is better than coffee", "opinion", 7⟩]

def legacyContent : StoredPersona where
  probe    := some storeSchemaV1
  v1       := some ⟨storeSchemaV1, legacyContext⟩
  v2       := none
  v1_probe := fun _ h => congrArg (Option.map PersistedPersonaV1.schemaVersion) h
  v2_probe := nofun

theorem decode_legacyContent : decodePersisted legacyContent =
    .ok ⟨⟨"legacy-owner", 7, legacyContext.claims.map migrateClaim⟩, true⟩ := by
  decide +kernel

theorem loadFile_migrates_legacyContent : MigratesOnce legacyContent legacyContext
    ⟨"legacy-owner", 7, legacyContext.claims.map migrateClaim⟩ :=
  (loadFile_migrates rfl rfl).left _ decode_legacyContent

end PersonaFiles
