import PersonaRuntime.Evaluation.AutomationCapture
import PersonaRuntime.Evaluation.Theorems.CaptureScope

open Device Device.Program FileProgram CaptureProgram

namespace AutomationCaptureTransaction

variable {codec : JournalCodec AutomationJournal} {c : AutomationCaptureTransaction} {p : CaptureProcess}
  {s : CaptureScope} {dir dir' : Directory CaptureFile} {bytes : List UInt8} {b : Bool}

-- What `run` builds for its transaction, and what `serde_json` promises of its journal.
structure Canonical (codec : JournalCodec AutomationJournal) (c : AutomationCaptureTransaction) : Prop where
  scaffold  : c.scaffold.map Prod.fst = automationFiles
  artifacts : c.artifacts.map Prod.fst = automationFiles
  decode    : codec.decode (codec.encode c.journal ++ [newline]) = some c.journal

def Canonical.scope (hc : Canonical codec c) : CaptureScope where
  files          := automationFiles
  journal        := codec.encode c.journal ++ [newline]
  scaffold       := c.scaffold
  artifacts      := c.artifacts
  nodup          := by decide
  scaffold_files := hc.scaffold
  artifact_files := hc.artifacts

theorem Canonical.sound (hc : Canonical codec c) (i : c.Scaffolded dir) : hc.scope.Sound dir :=
  CaptureScope.sound_of_scaffold i.scaffold i.lock i.marker

theorem Canonical.isStaged (hc : Canonical codec c) {path : CaptureFile} (h : hc.scope.Lasting path) :
    names.isStaged path = false := by
  cases path
  case target name =>
    have h : name ∈ automationFiles := h
    simp only [automationFiles, List.mem_cons, List.not_mem_nil, or_false] at h
    obtain rfl | rfl := h <;> exact CaptureNames.isStaged_eq_false rfl rfl (by decide)
  case lock    => exact CaptureNames.isStaged_eq_false rfl rfl (by decide)
  case marker  => exact CaptureNames.isStaged_eq_false rfl rfl (by decide)
  case stage   => cases h
  case journal => cases h

-- No target was left cut short.
def Intact (pairs : List ((String × List UInt8) × (String × List UInt8))) (dir : Directory CaptureFile) : Prop :=
  ∀ x ∈ pairs, dir.lookup (.target x.1.1) = some (.file x.1.2) ∨ dir.lookup (.target x.1.1) = some (.file x.2.2)

theorem zip_names {scaffold artifacts : ArtifactSet} (h : scaffold.map Prod.fst = artifacts.map Prod.fst)
    {x : (String × List UInt8) × (String × List UInt8)} (hx : x ∈ scaffold.zip artifacts) : x.1.1 = x.2.1 := by
  have hl : scaffold.length = artifacts.length := by simpa using congrArg List.length h
  obtain ⟨i, hi, rfl⟩ := List.mem_iff_getElem.mp hx
  have hi : i < scaffold.length := by simpa [hl] using hi
  have hn := List.getElem_of_eq h (i := i) (by rwa [List.length_map])
  rw [List.getElem_map, List.getElem_map] at hn
  rw [List.getElem_zip]
  exact hn

section Restore

variable {G : FileOp CaptureFile → Directory CaptureFile → Prop}

theorem wp_restorePairs {P : Directory CaptureFile → Prop}
    (pairs : List ((String × List UInt8) × (String × List UInt8)))
    {Q : Bool → Except IoErrorKind Unit → Directory CaptureFile → Prop}
    (hx : ∀ x ∈ pairs, x.1.1 = x.2.1) (hn : (pairs.map (·.1.1)).Nodup)
    (hr : ∀ d, P d → ∀ x ∈ pairs, ∃ bytes, d.lookup (.target x.1.1) = some (.file bytes))
    (hw : ∀ d₁ d₂ part, ∀ x ∈ pairs, P d₁ → d₁.Wrote (.target x.1.1) part d₂ → P d₂)
    (hg : ∀ o d, P d → G o d) (hp : P dir)
    (ho : ∀ dir', P dir' → Intact pairs dir → ArtifactSet.In (pairs.map Prod.fst) dir' →
      dir.AgreeOn (fun path => ∀ x ∈ pairs, path ≠ .target x.1.1) dir' → Q b (.ok ()) dir')
    (he : ∀ b' k dir', P dir' → (b' = true → b = true ∧ ¬Intact pairs dir) → Q b' (.error k) dir') :
    wp G Q b (restorePairs pairs).run dir := by
  induction pairs generalizing dir
  case nil => exact ho dir hp (by simp [Intact]) (by simp [ArtifactSet.In]) .refl
  case cons x rest hi =>
    obtain ⟨⟨name, scaffold⟩, ⟨name', artifact⟩⟩ := x
    obtain rfl : name = name' := hx _ List.mem_cons_self
    obtain ⟨hf, hn⟩ := List.nodup_cons.mp hn
    obtain ⟨actual, ha⟩ := hr dir hp _ List.mem_cons_self
    have hne {x} (hx : x ∈ rest) : CaptureFile.target x.1.1 ≠ .target name :=
      fun he => hf (List.mem_map.mpr ⟨x, hx, CaptureFile.target.inj he⟩)
    -- The files after the first, once the first holds its scaffold.
    have hrest {d₁ : Directory CaptureFile} (w : dir.Wrote (.target name) scaffold d₁) (hp₁ : P d₁)
        (hfirst : actual = scaffold ∨ actual = artifact) : wp G Q b (restorePairs rest).run d₁ := by
      have hint : Intact rest d₁ ↔ Intact rest dir :=
        forall₂_congr fun x hx => by rw [w.agree _ (hne hx)]
      refine hi (fun x h => hx x (by simp [h])) hn (fun d h x hx => hr d h x (by simp [hx]))
        (fun d d' part x hx => hw d d' part x (by simp [hx])) hp₁ (fun d₂ h₂ hi hs hag => ?_)
        fun b' k d₂ h₂ hb => ?_
      case refine_1 =>
        have hl : d₂.lookup (.target name) = some (.file scaffold) :=
          (hag _ fun x hx => (hne hx).symm).trans w.holds
        refine ho d₂ h₂ (List.forall_mem_cons.mpr ⟨?_, hint.mp hi⟩) (ArtifactSet.in_cons.mpr ⟨hl, hs⟩) ?_
        · obtain rfl | rfl := hfirst
          · exact .inl ha
          · exact .inr ha
        · exact fun path hp => (hag path fun x hx => hp x (by simp [hx])).trans
            (w.agree path (hp _ List.mem_cons_self))
      case refine_2 =>
        exact he b' k d₂ h₂ fun ht => (hb ht).imp_right fun hn hi =>
          hn (hint.mpr (List.forall_mem_cons.mp hi).2)
    rw [restorePairs, if_neg (by simp), wp_bindExcept]
    refine wp_read (hg _ dir hp) (fun read hr' => ?_) (fun hn => absurd ha (hn _))
      fun k => he false k dir hp (by simp)
    obtain rfl : actual = read := by simpa [ha] using hr'
    simp only [Except.either_ok]
    split
    case isTrue h => exact hrest (.refl (h ▸ ha)) hp (.inl h)
    case isFalse h =>
      split
      case isTrue h' =>
        refine he b _ dir hp fun ht => ⟨ht, fun hi => ?_⟩
        obtain hl | hl := hi _ List.mem_cons_self
        · exact h (by simpa [ha] using hl)
        · exact h' (by simpa [ha] using hl)
      case isFalse h' =>
        have hwf {d₁ part} (w : dir.Wrote (.target name) part d₁) : P d₁ :=
          hw dir d₁ part _ List.mem_cons_self hp w
        rw [wp_bindExcept]
        refine wp_overwriteSynced ha (hg _ dir hp) (hg _ dir hp) (fun d₁ w => hg _ d₁ (hwf w))
          (fun d₁ w => hg _ d₁ (hwf w)) (fun d₁ w => hrest w (hwf w) (.inr (not_not.mp h'))) ?_
        exact fun k part d₁ _ w => he false k d₁ (hwf w) (by simp)

end Restore

section Recover

theorem wp_restoreTransactionOwned (hc : Canonical codec c) {scaffold artifacts : ArtifactSet}
    (hs : scaffold.Sublist c.scaffold) (hn : scaffold.map Prod.fst = artifacts.map Prod.fst)
    (h : hc.scope.Replacing dir) {Q : Bool → Except IoErrorKind Unit → Directory CaptureFile → Prop}
    (ho : ∀ dir', hc.scope.Replacing dir' → Kept dir dir' → Intact (scaffold.zip artifacts) dir →
      scaffold.In dir' → Q b (.ok ()) dir')
    (he : ∀ b' k dir', hc.scope.Replacing dir' → Kept dir dir' →
      (b' = true → b = true ∧ ¬Intact (scaffold.zip artifacts) dir) → Q b' (.error k) dir') :
    wp (fun _ => hc.scope.Sound) Q b (restoreTransactionOwned scaffold artifacts).run dir := by
  have hl : scaffold.length = artifacts.length := by simpa using congrArg List.length hn
  have hfst : (scaffold.zip artifacts).map Prod.fst = scaffold := List.map_fst_zip (Nat.le_of_eq hl)
  have hmem {x} (hx : x ∈ scaffold.zip artifacts) : x.1.1 ∈ automationFiles :=
    hc.scope.scaffold_mem x.1 (hs.subset (List.of_mem_zip hx).1)
  let P (d : Directory CaptureFile) : Prop := hc.scope.Replacing d ∧ Kept dir d
  rw [restoreTransactionOwned, if_neg (by simpa using hl)]
  refine wp_restorePairs (P := P) (scaffold.zip artifacts) ?_ ?_ (fun d hp x hx => hp.1.regular _ (hmem hx)) ?_
    (fun _ _ hp => hp.1.sound) ⟨h, .refl⟩ (fun d hp hi hd _ => ho d hp.1 hp.2 hi (hfst ▸ hd))
    fun b' k d hp hb => he b' k d hp.1 hp.2 hb
  case refine_1 => exact fun x => zip_names hn
  case refine_2 =>
    have hm : (scaffold.zip artifacts).map (·.1.1) = scaffold.map Prod.fst := by
      rw [← hfst, List.map_map, hfst]
      rfl
    rw [hm]
    exact (hs.map Prod.fst).nodup hc.scope.nodup_scaffold
  case refine_3 =>
    exact fun d₁ d₂ part x hx hp w => ⟨hp.1.wrote w, hp.2.trans
      (.of_agreeOn (s := hc.scope) (.target x.1.1) (hmem hx) (by simp) w.agree)⟩

theorem Canonical.intact_of_artifacts (hc : Canonical codec c) (h : c.artifacts.In dir) :
    Intact (c.scaffold.zip c.artifacts) dir := by
  refine fun x hx => .inr ?_
  rw [zip_names (hc.scaffold.trans hc.artifacts.symm) hx]
  exact h x.2 (List.of_mem_zip hx).2

theorem intact_of_scaffold {scaffold artifacts : ArtifactSet} (h : scaffold.In dir) :
    Intact (scaffold.zip artifacts) dir :=
  fun x hx => .inl (h x.1 (List.of_mem_zip hx).1)

theorem Canonical.intact_agree (hc : Canonical codec c) (ha : dir.AgreeOn hc.scope.Lasting dir') :
    Intact (c.scaffold.zip c.artifacts) dir' ↔ Intact (c.scaffold.zip c.artifacts) dir :=
  forall₂_congr fun x hx => by rw [ha (.target x.1.1) (hc.scope.scaffold_mem x.1 (List.of_mem_zip hx).1)]

theorem wp_readJournal_bind (hc : Canonical codec c) (h : hc.scope.Replacing dir)
    {Q : Bool → Except String Unit → Directory CaptureFile → Prop}
    {f : AutomationJournal → ExceptT String CaptureProgram Unit}
    (he : ∀ code, Q false (.error code) dir)
    (hf : wp (fun _ => hc.scope.Sound) Q b (f c.journal).run dir) :
    wp (fun _ => hc.scope.Sound) Q b (readJournal codec >>= f).run dir := by
  rw [wp_bindExcept, readJournal, wp_orFail_bind]
  refine wp_read h.sound (fun bytes hb => ?_) (fun hn => absurd h.marker (hn _)) fun _ => he _
  obtain rfl : codec.encode c.journal ++ [newline] = bytes :=
    DirEntry.file.inj (Option.some.inj (h.marker.symm.trans hb))
  simp only [Except.either_ok, hc.decode]
  exact hf

-- Recovery fails only over a target that was cut short.
theorem wp_recoverIfNeeded (hc : Canonical codec c) (h : hc.scope.Sound dir)
    {Q : Bool → Except String Unit → Directory CaptureFile → Prop}
    (hq : ∀ b' r dir', hc.scope.Sound dir' → NothingNew dir dir' →
      (r = .ok () → Intact (c.scaffold.zip c.artifacts) dir ∨ dir.AgreeOn hc.scope.Lasting dir') →
      (b' = true → b = true ∧ (Intact (c.scaffold.zip c.artifacts) dir →
        r = .ok () ∧ dir'.lookup .marker = none)) → Q b' r dir') :
    wp (fun _ => hc.scope.Sound) Q b (c.recoverIfNeeded codec).run dir := by
  have hfail {code : String} : Q false (.error code) dir := hq false _ dir h .refl (by simp) (by simp)
  have hunmarked {b' : Bool} (hb : b' = true → b = true ∧ dir.lookup .marker = none) :
      wp (fun _ => hc.scope.Sound) Q b' (liftM (cleanupStaged names) : ExceptT String CaptureProgram Unit).run dir := by
    rw [wp_lift]
    refine wp_cleanupStaged (fun _ => hc.isStaged) (fun _ d₁ _ ha => h.agree ha) fun b₁ d₁ hb₁ ha hs => ?_
    refine hq b₁ _ d₁ (h.agree ha) (.of_shrank hs) (fun _ => .inr ha) fun ht => ?_
    exact (hb (hb₁ ht)).imp_right fun hm _ => ⟨rfl, (ha .marker trivial).trans hm⟩
  unfold recoverIfNeeded
  rw [wp_lift_bind]
  refine wp_pathExists.mpr ⟨h, ?_, fun _ => hunmarked (by simp)⟩
  cases hm : dir.lookup .marker
  case none => exact hunmarked fun hb => ⟨hb, hm⟩
  case some entry =>
    obtain ⟨rfl⟩ : some entry = some (.file hc.scope.journal) :=
      hm ▸ h.marker.resolve_right fun hn => by simp [hm] at hn
    have ho : hc.scope.Replacing dir := ⟨h.regular, h.lock, hm⟩
    -- The end of both branches.
    have hfinish {b₁ : Bool} {d₁ : Directory CaptureFile} (h₁ : hc.scope.Replacing d₁) (hn : NothingNew dir d₁)
        (hi : Intact (c.scaffold.zip c.artifacts) dir) (hs : c.scaffold.In d₁ ∨ c.artifacts.In d₁)
        (hb : b₁ = true → b = true) :
        wp (fun _ => hc.scope.Sound) Q b₁ (do
          cleanupStaged names
          orFail "AUTOMATION_CAPTURE_RECOVERY_FAILED" (edit (.removeFile .marker)) :
            ExceptT String CaptureProgram Unit).run d₁ := by
      rw [wp_lift_bind]
      refine wp_cleanupStaged (fun _ => hc.isStaged) (fun _ d₂ _ ha => (h₁.agree ha).sound) fun b₂ d₂ hb₂ ha hs₂ => ?_
      have hn : NothingNew dir d₂ := hn.trans (.of_shrank hs₂)
      rw [wp_orFail]
      refine CaptureScope.wp_removeMarker (h₁.agree ha) ?_ (fun d₃ h₃ hr => ?_) fun _ d₃ h₃ hk => ?_
      · exact hs.imp (·.agree ha hc.scope.scaffold_mem) (·.agree ha hc.scope.artifacts_mem)
      · exact hq b₂ _ d₃ h₃ (hn.trans (.of_agreeOn (s := hc.scope) .marker trivial hr.agree)) (fun _ => .inl hi)
          fun ht => ⟨hb (hb₂ ht), fun _ => ⟨rfl, hr.gone⟩⟩
      · exact hq false _ d₃ h₃ (hn.trans hk.nothingNew) (by simp) (by simp)
    have hrestore {b₁ : Bool} (hb : b₁ = true → b = true) :
        wp (fun _ => hc.scope.Sound) Q b₁ (do
          orFail "STALE_AUTOMATION_CAPTURE_AMBIGUOUS" (restoreTransactionOwned c.scaffold c.artifacts)
          cleanupStaged names
          orFail "AUTOMATION_CAPTURE_RECOVERY_FAILED" (edit (.removeFile .marker)) :
            ExceptT String CaptureProgram Unit).run dir := by
      rw [wp_orFail_bind]
      refine wp_restoreTransactionOwned hc (List.Sublist.refl _) (hc.scaffold.trans hc.artifacts.symm) ho
        (fun d₁ h₁ hk hi hs => hfinish h₁ hk.nothingNew hi (.inl hs) hb) fun b₂ k d₁ h₁ hk hb₂ => ?_
      exact hq b₂ _ d₁ h₁.sound hk.nothingNew (by simp) fun ht =>
        ⟨hb (hb₂ ht).1, fun hi => absurd hi (hb₂ ht).2⟩
    simp only [Option.isSome_some, if_true]
    refine wp_readJournal_bind hc ho (fun _ => hfail) ?_
    rw [if_neg (by simp), wp_lift_bind]
    exact wp_artifactsMatch c.artifacts (fun _ => h)
      (fun ha => hfinish ho .refl (hc.intact_of_artifacts ha) (.inr ha) id) (fun _ => hrestore id) (hrestore (by simp))

end Recover

section Write

theorem writesNew : WritesNew writeNewSynced := by
  intro G Q keep b dir path bytes hp hg ho he
  have hg' {d : Directory CaptureFile} (ha : dir.AgreeOn (· ≠ path) d) : dir.AgreeOn keep d :=
    ha.mono fun _ hk he => hp (he ▸ hk)
  rw [writeNewSynced, wp_attempt_bind]
  refine wp_writeNewSyncedIo hg hp ho fun b' k d₁ hb ha => ?_
  rw [wp_lift_bind]
  refine wp_keep (· ≠ path) (only_removeFile fun q hq => ?_) (fun o d₂ hw h₂ => ?_) fun b'' _ d₂ hb' h₂ => ?_
  · simpa using (Option.some.inj hq).symm
  · exact hg o d₂ (fun q hq hk => hp (not_not.mp (hw q hq) ▸ hk)) (hg' (ha.trans h₂))
  · exact he b'' _ d₂ (fun ht => hb (hb' ht)) (ha.trans h₂)

theorem Canonical.scaffold_getElem? (hc : Canonical codec c) {before rest : ArtifactSet} {name : String}
    (h : before ++ (name, bytes) :: rest <+: c.artifacts) : ∃ scaffold,
      c.scaffold[before.length]? = some (name, scaffold) ∧
      ((name, scaffold), (name, bytes)) ∈ c.scaffold.zip c.artifacts := by
  have ha : c.artifacts[before.length]? = some (name, bytes) := by
    obtain ⟨after, h⟩ := h
    simp [← h]
  have hn : (c.scaffold[before.length]?).map Prod.fst = (c.artifacts[before.length]?).map Prod.fst := by
    rw [← List.getElem?_map, ← List.getElem?_map, hc.scaffold, hc.artifacts]
  rw [ha] at hn
  obtain ⟨⟨_, scaffold⟩, hs, rfl⟩ := Option.map_eq_some_iff.mp hn
  exact ⟨scaffold, hs, List.mem_of_getElem? (List.getElem?_zip_eq_some.mpr ⟨hs, ha⟩)⟩

theorem wp_rollBack (hc : Canonical codec c) (h : hc.scope.Replacing dir) (index : Nat) {code : String}
    {Q : Bool → Except String Unit → Directory CaptureFile → Prop}
    (he : ∀ code dir', hc.scope.Replacing dir' → Q false (.error code) dir') :
    wp (fun _ => hc.scope.Sound) Q false (c.rollBack index code).run dir := by
  have hn : (c.scaffold.take index).map Prod.fst = (c.artifacts.take index).map Prod.fst := by
    rw [List.map_take, List.map_take, hc.scaffold, hc.artifacts]
  rw [rollBack, wp_orFail_bind]
  refine wp_restoreTransactionOwned hc (List.take_sublist index c.scaffold) hn h (fun d₁ h₁ _ _ _ => he code d₁ h₁)
    fun b' k d₁ h₁ _ hb => ?_
  obtain rfl : b' = false := by simpa using fun ht => (hb ht).1
  exact he _ d₁ h₁

-- The targets before `rest` hold their artifacts and the others still hold the scaffold.
theorem wp_replaceArtifacts (hc : Canonical codec c) (before : ArtifactSet)
    (rest : List ((String × List UInt8) × CaptureFile)) (hs : c.artifacts = before ++ rest.map Prod.fst)
    (h : hc.scope.Replacing dir) (hb : before.In dir) (hr : ArtifactSet.In (c.scaffold.drop before.length) dir)
    (hp : ∀ x ∈ rest, dir.lookup x.2 = some (.file x.1.2) ∧ ¬hc.scope.Lasting x.2)
    {Q : Bool → Except String Unit → Directory CaptureFile → Prop}
    (ho : ∀ dir', hc.scope.Replacing dir' → c.artifacts.In dir' → Q b (.ok ()) dir')
    (he : ∀ code dir', hc.scope.Replacing dir' → Q false (.error code) dir') :
    wp (fun _ => hc.scope.Sound) Q b (c.replaceArtifacts before.length rest).run dir := by
  induction rest generalizing before dir
  case nil => exact ho dir h (by simpa [hs] using hb)
  case cons x rest hi =>
    obtain ⟨⟨name, bytes⟩, path⟩ := x
    obtain ⟨⟨hl, hu⟩, hp⟩ := List.forall_mem_cons.mp hp
    have hx : (name, bytes) ∈ c.artifacts := hs ▸ by simp
    have hm : name ∈ automationFiles := hc.scope.artifacts_mem (name, bytes) hx
    have hnames : c.scaffold.map Prod.fst = before.map Prod.fst ++ name :: (rest.map Prod.fst).map Prod.fst := by
      rw [hc.scaffold, ← hc.artifacts, hs]
      simp
    have hnodup : (c.scaffold.map Prod.fst).Nodup := hc.scope.nodup_scaffold
    obtain ⟨scaffold, hscaffold, -⟩ := hc.scaffold_getElem? ⟨[], (List.append_nil _).trans hs.symm⟩
    have hl₀ : dir.lookup (.target name) = some (.file scaffold) :=
      hr (name, scaffold) (List.mem_of_getElem? (i := 0) (by simpa using hscaffold))
    have hrest : ArtifactSet.In (c.scaffold.drop (before.length + 1)) dir :=
      fun f hf => hr f ((List.drop_sublist_drop_left _ (Nat.le_succ _)).subset hf)
    rw [hnames] at hnodup
    have hdrop : name ∉ (c.scaffold.drop (before.length + 1)).map Prod.fst := by
      rw [List.map_drop, hnames, List.append_cons, List.drop_left' (by simp)]
      exact (List.nodup_cons.mp (List.nodup_append.mp hnodup).2.1).1
    have hbefore : name ∉ before.map Prod.fst := fun hn =>
      List.disjoint_of_nodup_append hnodup hn (by simp)
    rw [replaceArtifacts]
    simp only [hscaffold]
    rw [wp_lift_bind]
    refine wp_holds h.sound (fun _ => ?_) (fun hn => absurd hl₀ hn) (wp_rollBack hc h _ he)
    simp only [if_true, wp_orFail_bind]
    refine wp_read h.sound (fun read hr' => ?_) (fun hn => absurd hl (hn _)) fun _ => he _ dir h
    obtain rfl : bytes = read := by simpa [hl] using hr'
    simp only [Except.either_ok, wp_attempt_bind]
    refine wp_overwriteSynced hl₀ h.sound h.sound (fun _ w => (h.wrote w).sound) (fun _ w => (h.wrote w).sound)
      (fun d₁ w => ?_) fun _ _ d₁ _ w => wp_rollBack hc (h.wrote w) _ he
    have hl₁ : ArtifactSet.In (before ++ [(name, bytes)]) d₁ :=
      ArtifactSet.in_append.mpr ⟨hb.wrote w hbefore, ArtifactSet.in_cons.mpr ⟨w.holds, by simp [ArtifactSet.In]⟩⟩
    have hi := hi (before ++ [(name, bytes)]) (by simp [hs]) (h.wrote w) hl₁ (by simpa using hrest.wrote w hdrop)
      fun y hy => ⟨?_, (hp y hy).2⟩
    · simpa using hi
    · have hn : y.2 ≠ .target name := fun hn => (hp y hy).2 (hn ▸ hm)
      exact (w.agree y.2 hn).trans (hp y hy).1

theorem wp_writeStaged (hc : Canonical codec c) (h : hc.scope.Sound dir) (hx : c.scaffold.In dir)
    {new : List CaptureFile} (hf : List.Forall₂ (fun f path => dir.lookup path = some (.file f.2)) c.artifacts new)
    (hu : ∀ path ∈ new, ¬hc.scope.Lasting path ∧ path ≠ .journal p.pid p.journalNonce)
    {Q : Bool → Except String CaptureOutcome → Directory CaptureFile → Prop}
    (hq : ∀ b' r dir', hc.scope.Sound dir' →
      (b' = true → b = true ∧ (dir.lookup (.journal p.pid p.journalNonce) = none → dir.lookup .marker = none →
        r = .ok .committed ∧ c.artifacts.In dir' ∧ dir'.lookup .marker = none)) → Q b' r dir') :
    wp (fun _ => hc.scope.Sound) Q b (c.writeStaged codec p new).run dir := by
  have hjournal {path : CaptureFile} (hl : hc.scope.Lasting path) : path ≠ .journal p.pid p.journalNonce := by
    rintro rfl
    exact hl
  have hnew (path : CaptureFile) (hp : path ∈ new) : ¬hc.scope.Lasting path := (hu path hp).1
  unfold writeStaged
  rw [wp_lift_bind]
  refine wp_createJournal (· ≠ .journal p.pid p.journalNonce) (by simp) (by simp) (fun _ d₂ _ hd => ?_)
    (fun b₂ d₂ hb₂ hm => ?_) fun b₂ k d₂ hb₂ hd => ?_
  case refine_1 =>
    exact hd.elim (fun ha => h.agree (ha.mono fun _ => hjournal))
      fun hm => (h.marked (fun _ => hjournal) hm).sound
  case refine_3 =>
    have h₂ : hc.scope.Sound d₂ := hd.elim (fun ha => h.agree (ha.mono fun _ => hjournal))
      fun hm => (h.marked (fun _ => hjournal) hm).sound
    simp only [wp_lift_bind]
    refine wp_cleanup hnew (fun _ d₃ _ ha => h₂.agree ha) fun b₃ d₃ hb₃ ha₃ => ?_
    refine hq b₃ _ d₃ (h₂.agree ha₃) fun ht => ?_
    obtain ⟨hb, hn⟩ := hb₂ (hb₃ ht)
    refine ⟨hb, fun hj hm => ?_⟩
    obtain hn | hn := hn
    · exact absurd hj hn
    · exact absurd hm hn
  have h₂ : hc.scope.Replacing d₂ := h.marked (fun _ => hjournal) hm
  have hstaged : ∀ x ∈ c.artifacts.zip new, d₂.lookup x.2 = some (.file x.1.2) ∧ ¬hc.scope.Lasting x.2 := by
    intro x hx
    obtain ⟨hl, hj⟩ := hu x.2 (List.of_mem_zip hx).2
    have hne : x.2 ≠ .marker := fun hm => hl (hm ▸ trivial)
    exact ⟨(hm.agree x.2 ⟨hj, hne⟩).trans ((List.forall₂_iff_zip.mp hf).2 hx), hl⟩
  simp only [wp_attempt_bind]
  refine wp_replaceArtifacts hc [] (c.artifacts.zip new) ?_ h₂ (by simp [ArtifactSet.In])
    (hx.agree hm.agree fun _ _ => by simp) hstaged (fun d₃ h₃ ha₃ => ?_) fun code d₃ h₃ => ?_
  case refine_1 => simpa using (List.map_fst_zip (Nat.le_of_eq (List.Forall₂.length_eq hf))).symm
  case refine_3 =>
    rw [wp_lift_bind]
    refine wp_cleanup hnew (fun _ d₄ _ ha => (h₃.agree ha).sound) fun b₄ d₄ hb₄ ha₄ => ?_
    exact hq b₄ _ d₄ (h₃.agree ha₄).sound fun ht => by simpa using hb₄ ht
  rw [wp_lift_bind]
  refine wp_cleanup hnew (fun _ d₄ _ ha => (h₃.agree ha).sound) fun b₄ d₄ hb₄ ha₄ => ?_
  have ha₄' : c.artifacts.In d₄ := ha₃.agree ha₄ hc.scope.artifacts_mem
  simp only [wp_orFail_bind]
  refine CaptureScope.wp_removeMarker (h₃.agree ha₄) (.inr ha₄') (fun d₅ h₅ hr => ?_)
    fun _ d₅ h₅ _ => hq false _ d₅ h₅ (by simp)
  exact hq b₄ _ d₅ h₅ fun ht => ⟨hb₂ (hb₄ ht), fun _ _ => ⟨rfl, ha₄'.agree hr.agree (by simp), hr.gone⟩⟩

end Write

section Commit

theorem wp_acquireLock_bind {α : Type} (h : s.Sound dir) {Q : Bool → Except String α → Directory CaptureFile → Prop}
    {f : Unit → ExceptT String CaptureProgram α} (he : ∀ code dir', s.Sound dir' → Q false (.error code) dir')
    (hf : ∀ dir', s.Sound dir' → dir.AgreeOn (· ≠ .lock) dir' → wp (fun _ => s.Sound) Q b (f ()).run dir') :
    wp (fun _ => s.Sound) Q b (acquireLock >>= f).run dir := by
  rw [wp_bindExcept, acquireLock, wp_orFail_bind]
  refine wp_create h.lock h (fun part d₁ w₁ => ?_) fun _ d₁ ha hl => he _ d₁ (h.lock_agree ha hl)
  have h₁ : s.Sound d₁ := h.lock_agree w₁.agree (by simp [w₁.holds])
  simp only [Except.either_ok, wp_attempt_bind]
  refine wp_tryLock h₁ (hf d₁ h₁ w₁.agree) fun k => ?_
  cases k <;> exact he _ d₁ h₁

-- A commit that succeeds found every target intact, and one that finds that succeeds if nothing fails.
structure Attempted (hc : Canonical codec c) (p : CaptureProcess) (dir : Directory CaptureFile) (b : Bool)
    (r : Except String CaptureOutcome) (dir' : Directory CaptureFile) : Prop where
  sound  : hc.scope.Sound dir'
  intact : ∀ outcome, r = .ok outcome → Intact (c.scaffold.zip c.artifacts) dir
  done   : b = true → p.Fresh dir → Intact (c.scaffold.zip c.artifacts) dir →
    (∃ outcome, r = .ok outcome) ∧ c.artifacts.In dir' ∧ dir'.lookup .marker = none

theorem wp_commit (hc : Canonical codec c) (h : hc.scope.Sound dir) :
    wp (fun _ => hc.scope.Sound) (Attempted hc p dir) true (c.commit codec p).run dir := by
  unfold commit
  refine wp_acquireLock_bind h (fun code d₁ h₁ => ⟨h₁, by simp, by simp⟩) fun d₁ h₁ ha₁ => ?_
  have hi₁ : Intact (c.scaffold.zip c.artifacts) d₁ ↔ Intact (c.scaffold.zip c.artifacts) dir :=
    forall₂_congr fun x _ => by rw [ha₁ _ (by simp)]
  have hn₁ : NothingNew dir d₁ := .of_agreeOn (s := hc.scope) .lock trivial ha₁
  rw [wp_bindExcept]
  refine wp_recoverIfNeeded hc h₁ fun b₂ r d₂ h₂ hn₂ hi₂ hb₂ => ?_
  cases r
  case error code => exact ⟨h₂, by simp, fun ht _ hi => by simpa using (hb₂ ht).2 (hi₁.mpr hi)⟩
  -- The targets hold all of the scaffold or all of the artifacts here, and the same before recovery.
  have hi {files : ArtifactSet} (hf : files.In d₂) (h : files.In d₂ → Intact (c.scaffold.zip c.artifacts) d₂) :
      Intact (c.scaffold.zip c.artifacts) dir :=
    hi₁.mp ((hi₂ rfl).elim id fun ha => (hc.intact_agree ha).mp (h hf))
  have hm (ht : b₂ = true) (hi : Intact (c.scaffold.zip c.artifacts) dir) : d₂.lookup .marker = none :=
    ((hb₂ ht).2 (hi₁.mpr hi)).2
  have hscaffold {b' : Bool} (hb : b' = true → b₂ = true ∧ ¬c.artifacts.In d₂) :
      wp (fun _ => hc.scope.Sound) (Attempted hc p dir) b' (do
        if ← artifactsMatch c.scaffold then
          let staged ← stageArtifacts p c.artifacts
          c.writeStaged codec p staged
        else
          throw "AUTOMATION_CAPTURE_AMBIGUOUS" : ExceptT String CaptureProgram CaptureOutcome).run d₂ := by
    rw [wp_lift_bind]
    refine wp_artifactsMatch c.scaffold (fun _ => h₂) (fun hx => ?_) (fun hx => ⟨h₂, by simp, fun ht _ hi => ?_⟩)
      ⟨h₂, by simp, by simp⟩
    case refine_2 =>
      exact absurd ((h₂.marker.resolve_left (by simp [hm (hb ht).1 hi])).2.resolve_right (hb ht).2) hx
    have hstage {path : CaptureFile} (hl : hc.scope.Lasting path) : ∀ i, path ≠ .stage p.pid p.stageNonce i := by
      rintro i rfl
      exact hl
    simp only [if_true]
    rw [wp_bindExcept, stageArtifacts]
    refine wp_stageArtifacts writesNew (fun path => ∀ i, path ≠ .stage p.pid p.stageNonce i) c.artifacts
      (fun i hi => hi i rfl) (by simp) (fun _ d₃ _ ha => h₂.agree (ha.mono fun _ => hstage))
      (fun new d₃ ha hf hu => ?_) fun b₃ code d₃ hb₃ ha => ?_
    case refine_2 =>
      refine ⟨h₂.agree (ha.mono fun _ => hstage), by simp, fun ht hfr _ => ?_⟩
      obtain ⟨f, _, hn⟩ | ⟨i, _, hn⟩ := (hb₃ ht).2
      · simp at hn
      · exact absurd ((hn₂ p (hn₁ p hfr)).stage i) hn
    have ha : d₂.AgreeOn (fun path => ∀ i, path ≠ .stage p.pid p.stageNonce i) d₃ := by simpa using ha
    have hl : d₂.AgreeOn hc.scope.Lasting d₃ := ha.mono fun _ => hstage
    have hnew : ∀ path ∈ new, ¬hc.scope.Lasting path ∧ path ≠ .journal p.pid p.journalNonce := by
      refine fun path hp => ⟨fun hl => hu path hp (hstage hl), ?_⟩
      rintro rfl
      exact hu _ hp (by simp)
    simp only [List.nil_append, Except.either_ok]
    refine wp_writeStaged hc (h₂.agree hl) (hx.agree hl hc.scope.scaffold_mem) hf hnew fun b₄ r d₄ h₄ hb₄ =>
      ⟨h₄, fun _ _ => hi hx intact_of_scaffold, fun ht hfr hi => ?_⟩
    have hj : d₃.lookup (.journal p.pid p.journalNonce) = none :=
      (ha _ (by simp)).trans (hn₂ p (hn₁ p hfr)).journal
    obtain ⟨rfl, ha, hm⟩ := (hb₄ ht).2 hj ((hl .marker trivial).trans (hm (hb (hb₄ ht).1).1 hi))
    exact ⟨⟨_, rfl⟩, ha, hm⟩
  simp only [Except.either_ok]
  rw [wp_lift_bind]
  refine wp_artifactsMatch c.artifacts (fun _ => h₂) (fun ha => ?_) (fun hn => hscaffold fun ht => ⟨ht, hn⟩)
    (hscaffold (by simp))
  exact ⟨h₂, fun _ _ => hi ha hc.intact_of_artifacts, fun ht _ hi => ⟨⟨_, rfl⟩, ha, hm ht hi⟩⟩

end Commit

section Careful

-- The target holds what one of its two versions is.
def Recognised (c : AutomationCaptureTransaction) (name : String) (dir : Directory CaptureFile) : Prop :=
  ∃ x ∈ c.scaffold.zip c.artifacts, x.1.1 = name ∧
    (dir.lookup (.target name) = some (.file x.1.2) ∨ dir.lookup (.target name) = some (.file x.2.2))

-- What is written to a target, if it was not cut short just before, is written over what is recognised.
def Careful (c : AutomationCaptureTransaction) (o : FileOp CaptureFile) (dir : Directory CaptureFile) : Prop :=
  ∀ name ∈ automationFiles, o.writes = some (.target name) → c.Recognised name dir ∨
    dir.lookup (.target name) = some (.file []) ∧ ∃ bytes, o = .edit (.writeAll (.target name) bytes)

variable {α β : Type}

def Cautious (c : AutomationCaptureTransaction) (q : CaptureProgram α) : Prop :=
  ∀ b dir, wp c.Careful (fun _ _ _ => True) b q dir

-- It writes to no target.
def Aside (o : FileOp CaptureFile) : Prop :=
  ∀ name ∈ automationFiles, o.writes ≠ some (.target name)

theorem cautious_of_only {q : CaptureProgram α} (h : q.Only Aside) : c.Cautious q :=
  fun _ _ => wp_only (R := fun _ _ => True) (fun _ => trivial) (fun _ _ => trivial) (fun _ _ _ => trivial)
    (fun _ _ _ _ => trivial) h (fun _ _ ho _ name hm hw => absurd hw (ho name hm)) fun _ _ _ _ _ => trivial

theorem cautious_bind {q : CaptureProgram β} {f : β → CaptureProgram α} (h : c.Cautious q)
    (hf : ∀ a, c.Cautious (f a)) : c.Cautious (q >>= f) :=
  fun b dir => wp_bind.mpr (wp_mono (h b dir) fun _ => hf _ _ _)

theorem cautious_bindExcept {ε : Type} {x : ExceptT ε CaptureProgram β} {f : β → ExceptT ε CaptureProgram α}
    (h : c.Cautious x.run) (hf : ∀ a, c.Cautious (f a).run) : c.Cautious (x >>= f).run := by
  refine fun b dir => wp_bindExcept.mpr (wp_mono (h b dir) fun {b r dir} _ => ?_)
  cases r
  case error => trivial
  case ok a  => exact hf a b dir

theorem aside_edit {e : FileEdit CaptureFile} (h : ∀ name ∈ automationFiles, e.writes ≠ some (.target name)) :
    (edit e).run.Only Aside :=
  ⟨h, fun _ => trivial⟩

theorem aside_read (path : CaptureFile) : (read path).run.Only Aside :=
  ⟨by simp [Aside, FileOp.writes], fun _ => trivial⟩

theorem aside_artifactsMatch (files : ArtifactSet) : (artifactsMatch files).Only Aside :=
  only_artifactsMatch (by simp [Aside, FileOp.writes]) files

theorem Canonical.aside_cleanupStaged (hc : Canonical codec c) : (cleanupStaged names).Only Aside := by
  refine only_bind ⟨by simp [Aside, FileOp.writes], fun _ => trivial⟩ fun entries => only_cleanup ?_
  intro path hp name hm hw
  obtain rfl : path = .target name := Option.some.inj hw
  have hs : names.isStaged (.target name) = false := hc.isStaged hm
  simp [hs] at hp

theorem wp_overwriteRecognised {name : String} (h : c.Recognised name dir) :
    wp c.Careful (fun _ _ _ => True) b (overwriteSynced (.target name) bytes).run dir := by
  have hold : ∃ old, dir.lookup (.target name) = some (.file old) := by
    obtain ⟨x, -, -, h | h⟩ := h
    · exact ⟨_, h⟩
    · exact ⟨_, h⟩
  obtain ⟨old, ho⟩ := hold
  refine wp_overwriteSynced ho (by simp [Careful, FileOp.writes]) (fun _ _ hw => .inl ?_)
    (fun d₁ w _ _ hw => .inr ?_)
    (by simp [Careful, FileOp.writes, FileEdit.writes]) (fun _ _ => trivial) fun _ _ _ _ _ => trivial
  · obtain rfl := CaptureFile.target.inj (Option.some.inj hw)
    exact h
  · obtain rfl := CaptureFile.target.inj (Option.some.inj hw)
    exact ⟨w.holds, _, rfl⟩

theorem cautious_restorePairs (pairs : List ((String × List UInt8) × (String × List UInt8)))
    (hs : pairs ⊆ c.scaffold.zip c.artifacts) : c.Cautious (restorePairs pairs).run := by
  induction pairs
  case nil => exact fun _ _ => trivial
  case cons x rest hi =>
    obtain ⟨⟨name, scaffold⟩, ⟨name', artifact⟩⟩ := x
    obtain ⟨hx, hr⟩ := List.cons_subset.mp hs
    intro b dir
    rw [restorePairs]
    split
    case isTrue => trivial
    rw [wp_bindExcept]
    refine wp_read (by simp [Careful, FileOp.writes]) (fun actual ha => ?_) (fun _ _ => trivial) fun _ => trivial
    simp only [Except.either_ok]
    split
    case isTrue => exact hi hr b dir
    split
    case isTrue => trivial
    case isFalse _ h =>
      obtain rfl := not_not.mp h
      rw [wp_bindExcept]
      refine wp_mono (wp_overwriteRecognised ⟨_, hx, rfl, .inr ha⟩) fun {b r dir} _ => ?_
      cases r
      case error => trivial
      case ok    => exact hi hr b dir

theorem cautious_restoreTransactionOwned {scaffold artifacts : ArtifactSet}
    (hs : scaffold.zip artifacts ⊆ c.scaffold.zip c.artifacts) :
    c.Cautious (restoreTransactionOwned scaffold artifacts).run := by
  rw [restoreTransactionOwned]
  split
  case isTrue  => exact fun _ _ => trivial
  case isFalse => exact cautious_restorePairs _ hs

theorem cautious_attempt {ε ε' : Type} {x : ExceptT ε CaptureProgram α} (h : c.Cautious x.run) :
    c.Cautious (attempt x : ExceptT ε' CaptureProgram (Except ε α)).run :=
  cautious_bind h fun _ _ _ => trivial

theorem cautious_orFail {x : ExceptT IoErrorKind CaptureProgram α} {code : String} (h : c.Cautious x.run) :
    c.Cautious (orFail code x).run := by
  refine cautious_bindExcept (cautious_attempt h) fun r => ?_
  cases r <;> exact fun _ _ => trivial

theorem cautious_rollBack (index : Nat) (code : String) : c.Cautious (c.rollBack index code).run := by
  refine cautious_bindExcept (cautious_orFail (cautious_restoreTransactionOwned ?_)) fun _ _ _ => trivial
  rw [List.zip, ← List.take_zipWith]
  exact List.take_subset _ _

theorem cautious_replaceArtifacts (hc : Canonical codec c) (before : ArtifactSet)
    (rest : List ((String × List UInt8) × CaptureFile)) (hs : before ++ rest.map Prod.fst <+: c.artifacts) :
    c.Cautious (c.replaceArtifacts before.length rest).run := by
  induction rest generalizing before
  case nil => exact fun _ _ => trivial
  case cons x rest hi =>
    obtain ⟨⟨name, bytes⟩, path⟩ := x
    obtain ⟨scaffold, hscaffold, hx⟩ := hc.scaffold_getElem? hs
    have hi := hi (before ++ [(name, bytes)]) (by simpa using hs)
    rw [List.length_append, List.length_singleton] at hi
    intro b dir
    rw [replaceArtifacts]
    simp only [hscaffold]
    rw [wp_lift_bind]
    have hback {b : Bool} {dir : Directory CaptureFile} {code : String} :
        wp c.Careful (fun _ _ _ => True) b (c.rollBack before.length code).run dir :=
      cautious_rollBack before.length code b dir
    refine wp_holds (by simp [Careful, FileOp.writes]) (fun ha => ?_) (fun _ => hback) hback
    simp only [if_true, wp_orFail_bind]
    refine wp_read (by simp [Careful, FileOp.writes]) (fun read _ => ?_) (fun _ _ => trivial) fun _ => trivial
    simp only [Except.either_ok, wp_attempt_bind]
    refine wp_mono (wp_overwriteRecognised ⟨_, hx, rfl, .inl ha⟩) fun {b r dir} _ => ?_
    cases r
    case error => exact hback
    case ok    => exact hi b dir

theorem aside_path {path : CaptureFile} (h : ∀ name, path ≠ .target name) :
    ∀ name ∈ automationFiles, some path ≠ some (.target name) :=
  fun name _ he => h name (Option.some.inj he)

theorem cautious_acquireLock : c.Cautious acquireLock.run := by
  refine cautious_of_only (only_bindExcept (only_orFail (aside_edit (aside_path (by simp)))) fun _ => ?_)
  refine only_bindExcept (only_attempt (aside_edit (by simp [FileEdit.writes]))) fun r => ?_
  cases r
  case error k => cases k <;> trivial
  case ok      => trivial

theorem cautious_removeMarker {code : String} : c.Cautious (orFail code (edit (.removeFile .marker))).run :=
  cautious_of_only (only_orFail (aside_edit (aside_path (by simp))))

theorem cautious_lift {ε : Type} {q : CaptureProgram α} (h : c.Cautious q) :
    c.Cautious (liftM q : ExceptT ε CaptureProgram α).run :=
  cautious_bind h fun _ _ _ => trivial

theorem cautious_recoverIfNeeded (hc : Canonical codec c) : c.Cautious (c.recoverIfNeeded codec).run := by
  have hfinish : c.Cautious (do
      cleanupStaged names
      orFail "AUTOMATION_CAPTURE_RECOVERY_FAILED" (edit (.removeFile .marker)) :
        ExceptT String CaptureProgram Unit).run :=
    cautious_bindExcept (cautious_lift (cautious_of_only hc.aside_cleanupStaged)) fun _ => cautious_removeMarker
  have hexists : (markerExists).Only Aside := ⟨by simp [Aside, FileOp.writes], fun _ => trivial⟩
  refine cautious_bindExcept (cautious_lift (cautious_of_only hexists)) fun marked => ?_
  cases marked
  case false => exact cautious_lift (cautious_of_only hc.aside_cleanupStaged)
  refine cautious_bindExcept (cautious_of_only ?_) fun previous => ?_
  · refine only_bindExcept (only_orFail (aside_read _)) fun bytes => ?_
    split <;> trivial
  split
  case isTrue => exact fun _ _ => trivial
  refine cautious_bindExcept (cautious_lift (cautious_of_only (aside_artifactsMatch _))) fun held => ?_
  cases held
  case true => exact hfinish
  case false =>
    refine cautious_bindExcept (cautious_orFail ?_) fun _ => hfinish
    exact cautious_restoreTransactionOwned (List.Subset.refl _)

theorem cautious_writeStaged (hc : Canonical codec c) {staged : List CaptureFile}
    (hl : c.artifacts.length = staged.length)
    (hs : ∀ path ∈ staged, ∀ name ∈ automationFiles, path ≠ .target name) :
    c.Cautious (c.writeStaged codec p staged).run := by
  have hcleanup : c.Cautious (liftM (cleanup staged) : ExceptT String CaptureProgram Unit).run := by
    refine cautious_lift (cautious_of_only (only_cleanup fun path hp name hm hw => ?_))
    exact hs path hp name hm (Option.some.inj hw)
  have hjournal : (createJournal codec p c.journal).Only Aside := by
    have hn : ∀ name ∈ automationFiles, some (CaptureFile.journal p.pid p.journalNonce) ≠ some (.target name) :=
      aside_path (by simp)
    refine only_bind (only_bindExcept ?_ fun _ => aside_edit (aside_path (by simp))) fun r => ?_
    · exact only_bindExcept (aside_edit hn) fun _ => only_bindExcept (aside_edit hn) fun _ =>
        aside_edit (by simp [FileEdit.writes])
    · exact only_bind (only_removeFile hn) fun _ => trivial
  refine cautious_bindExcept (cautious_lift (cautious_of_only hjournal)) fun r => ?_
  cases r
  case error k => exact cautious_bindExcept hcleanup fun _ _ _ => trivial
  case ok =>
    refine cautious_bindExcept (cautious_attempt (cautious_replaceArtifacts hc [] _ ?_)) fun result => ?_
    · exact ⟨[], by rw [List.append_nil, List.nil_append, List.map_fst_zip (Nat.le_of_eq hl)]⟩
    refine cautious_bindExcept hcleanup fun _ => ?_
    cases result
    case error => exact fun _ _ => trivial
    case ok    => exact cautious_bindExcept cautious_removeMarker fun _ _ _ => trivial

theorem cautious_commit (hc : Canonical codec c) : c.Cautious (c.commit codec p).run := by
  refine cautious_bindExcept cautious_acquireLock fun _ => cautious_bindExcept (cautious_recoverIfNeeded hc) fun _ => ?_
  refine cautious_bindExcept (cautious_lift (cautious_of_only (aside_artifactsMatch _))) fun held => ?_
  cases held
  case true => exact fun _ _ => trivial
  refine cautious_bindExcept (cautious_lift (cautious_of_only (aside_artifactsMatch _))) fun held => ?_
  cases held
  case false => exact fun _ _ => trivial
  intro b dir
  simp only [if_true]
  rw [wp_bindExcept, stageArtifacts]
  refine wp_stageArtifacts writesNew (fun path => ∃ name ∈ automationFiles, path = .target name) c.artifacts
    (by simp) (by simp) (fun o d ho _ name hm hw => absurd ⟨name, hm, rfl⟩ (ho _ hw)) (fun new d _ hf hu => ?_)
    fun _ _ _ _ _ => trivial
  exact cautious_writeStaged hc hf.length_eq (fun path hp name hm he => hu path hp ⟨name, hm, he⟩) b d

end Careful

theorem step_sound (hc : Canonical codec c) (h : hc.scope.Sound dir)
    {call : CaptureProcess × List (Option IoFault)} {o : List (Option (Except String CaptureOutcome))}
    (hs : (c.attempts codec).step dir call = some (dir', o)) : hc.scope.Sound dir' := by
  simp only [attempts, Option.some.injEq, Prod.mk.injEq] at hs
  obtain ⟨rfl, -⟩ := hs
  have h := (wp_exec (wp_commit (p := call.1) hc h) call.2).2
  split at h
  · exact h.choose_spec.sound
  · exact h.choose_spec

theorem run_sound (hc : Canonical codec c) {t : List (Option (Except String CaptureOutcome))}
    (r : (c.attempts codec).Run t dir) : hc.scope.Sound dir :=
  r.state_invariant (fun i => hc.sound i) fun h hs => step_sound hc h hs

def exampleJournal : AutomationJournal :=
  ⟨"rt0-automation-supporting-capture-journal-0.1", "", "", "", ""⟩

def exampleCodec : JournalCodec AutomationJournal :=
  let text := "\x7b\"schema_version\":\"rt0-automation-supporting-capture-journal-0.1\",\"candidate_sha\":\"\"," ++
    "\"input_sha256\":\"\",\"ci_sha256\":\"\",\"e2e_sha256\":\"\"\x7d"
  let bytes := text.toList.map (·.toNat.toUInt8)
  { encode := fun journal => if journal = exampleJournal then bytes else []
    decode := fun read => if read = bytes ++ [newline] then some exampleJournal else none }

def exampleTransaction : AutomationCaptureTransaction where
  journal   := exampleJournal
  scaffold  := automationFiles.map (·, [0, 0])
  artifacts := automationFiles.map (·, [1, 1])

def exampleDirectory : Directory CaptureFile :=
  (exampleTransaction.scaffold.map fun f => ⟨.target f.1, .file f.2⟩).toAList

theorem exampleTransaction_canonical : Canonical exampleCodec exampleTransaction :=
  ⟨rfl, rfl, JournalCodec.decode_encode exampleJournal _⟩

theorem exampleTransaction_scaffolded : exampleTransaction.Scaffolded exampleDirectory :=
  ⟨by decide +kernel, by decide +kernel, by decide +kernel⟩

-- If nothing fails and a commit is done in the end, it has found every target intact.
theorem Intact.of_complete (hc : Canonical codec c) (h : hc.scope.Sound dir) {n : Nat}
    (ho : ∀ m, n ≤ m → ∃ outcome,
      ((c.commit codec p).run.exec (List.replicate m none) dir).result = some (.ok outcome)) :
    Intact (c.scaffold.zip c.artifacts) dir := by
  obtain ⟨n', he⟩ := exec_finish (c.commit codec p).run dir
  obtain ⟨outcome, ho⟩ := ho (max n n') (Nat.le_max_left n n')
  rw [(he _ (Nat.le_max_right n n')).1] at ho
  exact (wp_finish (wp_commit (p := p) hc h)).intact outcome (Option.some.inj ho)

theorem attempts_complete_iff (hc : Canonical codec c) {t : List (Option (Except String CaptureOutcome))}
    (r : (c.attempts codec).Run t dir) :
    (∀ p : CaptureProcess, p.Fresh dir →
      ((∃ n, ∀ m, n ≤ m →
        let e := (c.commit codec p).run.exec (List.replicate m none) dir
        (∃ outcome, e.result = some (.ok outcome)) ∧ c.artifacts.In e.state ∧ e.state.lookup .marker = none) ↔
      Intact (c.scaffold.zip c.artifacts) dir)) ∧
    ∀ (p : CaptureProcess) (faults : List (Option IoFault)) (dir' : Directory CaptureFile),
      ∀ x ∈ ((c.commit codec p).run.exec faults dir').started, c.Careful x.1 x.2 := by
  have h := run_sound hc r
  refine ⟨fun p hf => ?_, fun p faults dir' => (wp_exec (cautious_commit hc true dir') faults).1⟩
  constructor
  case mp =>
    rintro ⟨n, h'⟩
    exact .of_complete hc h fun m hm => (h' m hm).left
  case mpr =>
    intro hi
    obtain ⟨n, he⟩ := exec_finish (c.commit codec p).run dir
    obtain ⟨⟨outcome, ho⟩, ha, hm⟩ := (wp_finish (wp_commit (p := p) hc h)).done rfl hf hi
    refine ⟨n, fun m hn => ?_⟩
    obtain ⟨he, hs⟩ := he m hn
    exact ⟨⟨outcome, by rw [he, ho]⟩, by rwa [hs], by rwa [hs]⟩

-- Cut off between the two targets.
theorem attempts_complete_between : ∃ t dir, (exampleTransaction.attempts exampleCodec).Run t dir ∧
    dir.lookup (.target "ci-evidence.json") = some (.file [1, 1]) ∧
    dir.lookup (.target "e2e-evidence.json") = some (.file [0, 0]) ∧
    ∃ n, ∀ m, n ≤ m →
      let e := (exampleTransaction.commit exampleCodec ⟨2, 20, 21⟩).run.exec (List.replicate m none) dir
      (∃ outcome, e.result = some (.ok outcome)) ∧ exampleTransaction.artifacts.In e.state ∧
      e.state.lookup .marker = none := by
  let calls : List (CaptureProcess × List (Option IoFault)) := [(⟨1, 10, 11⟩, List.replicate 24 none)]
  let cutOff (dir : Directory CaptureFile) (_ : List (Option (Except String CaptureOutcome))) : Bool :=
    dir.lookup (.target "ci-evidence.json") = some (.file [1, 1]) ∧
    dir.lookup (.target "e2e-evidence.json") = some (.file [0, 0]) ∧ (⟨2, 20, 21⟩ : CaptureProcess).Fresh dir
  have hr : ((exampleTransaction.attempts exampleCodec).replay exampleDirectory calls).any
      (fun r => cutOff r.1 r.2) = true := by
    decide +kernel
  obtain ⟨t, dir, e, h⟩ := Machine.Steps.exists_of_replay_any (p := cutOff) calls hr
  obtain ⟨h₁, h₂, hf⟩ := of_decide_eq_true h
  refine ⟨t, dir, ⟨exampleTransaction_scaffolded, e⟩, h₁, h₂, ?_⟩
  refine ((attempts_complete_iff exampleTransaction_canonical ⟨exampleTransaction_scaffolded, e⟩).1 _ hf).mpr ?_
  intro x hx
  obtain rfl | rfl : x = (("ci-evidence.json", [0, 0]), ("ci-evidence.json", [1, 1])) ∨
      x = (("e2e-evidence.json", [0, 0]), ("e2e-evidence.json", [1, 1])) := by
    simpa [exampleTransaction, automationFiles] using hx
  · exact .inr h₁
  · exact .inl h₂

-- Cut off after the first of two bytes.
theorem attempts_incomplete : ∃ t dir, Canonical exampleCodec exampleTransaction ∧
    (exampleTransaction.attempts exampleCodec).Run t dir ∧
    dir.lookup (.target "ci-evidence.json") = some (.file [1]) ∧ (⟨2, 20, 21⟩ : CaptureProcess).Fresh dir ∧
    ¬∃ n, ∀ m, n ≤ m → ∃ outcome, ((exampleTransaction.commit exampleCodec ⟨2, 20, 21⟩).run.exec
      (List.replicate m none) dir).result = some (.ok outcome) := by
  let calls : List (CaptureProcess × List (Option IoFault)) :=
    [(⟨1, 10, 11⟩, List.replicate 22 none ++ [some ⟨.other, 1⟩])]
  let cutOff (dir : Directory CaptureFile) (_ : List (Option (Except String CaptureOutcome))) : Bool :=
    dir.lookup (.target "ci-evidence.json") = some (.file [1]) ∧ (⟨2, 20, 21⟩ : CaptureProcess).Fresh dir
  have hr : ((exampleTransaction.attempts exampleCodec).replay exampleDirectory calls).any
      (fun r => cutOff r.1 r.2) = true := by
    decide +kernel
  obtain ⟨t, dir, e, h⟩ := Machine.Steps.exists_of_replay_any (p := cutOff) calls hr
  obtain ⟨hl, hf⟩ := of_decide_eq_true h
  have r : (exampleTransaction.attempts exampleCodec).Run t dir := ⟨exampleTransaction_scaffolded, e⟩
  refine ⟨t, dir, exampleTransaction_canonical, r, hl, hf, ?_⟩
  rintro ⟨n, ho⟩
  have hi := Intact.of_complete exampleTransaction_canonical (run_sound exampleTransaction_canonical r) ho
  -- The target is neither its scaffold nor its artifact.
  have hi := hi (("ci-evidence.json", [0, 0]), ("ci-evidence.json", [1, 1])) (.head _)
  rw [hl] at hi
  simp at hi

end AutomationCaptureTransaction
