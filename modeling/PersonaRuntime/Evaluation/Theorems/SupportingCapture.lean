import PersonaRuntime.Evaluation.SupportingCapture
import PersonaRuntime.Evaluation.Theorems.CaptureScope

open Device Device.Program FileProgram CaptureProgram

namespace SupportingCapture

variable {codec : JournalCodec SupportingJournal} {c : SupportingCapture} {p : CaptureProcess}
  {s : CaptureScope} {dir dir' : Directory CaptureFile} {bytes : List UInt8}

-- What `run` builds for its capture, and what `serde_json` promises of its journal.
structure Canonical (codec : JournalCodec SupportingJournal) (c : SupportingCapture) : Prop where
  expected  : c.expected.map Prod.fst = rt0ManualSupportingFiles
  artifacts : c.artifacts.map Prod.fst = rt0ManualSupportingFiles
  decode    : codec.decode (codec.encode c.journal ++ [newline]) = some c.journal

def Canonical.scope (hc : Canonical codec c) : CaptureScope where
  files          := rt0ManualSupportingFiles
  journal        := codec.encode c.journal ++ [newline]
  scaffold       := c.expected
  artifacts      := c.artifacts
  nodup          := by decide
  scaffold_files := hc.expected
  artifact_files := hc.artifacts

theorem Canonical.sound (hc : Canonical codec c) (i : c.Scaffolded dir) : hc.scope.Sound dir :=
  CaptureScope.sound_of_scaffold i.expected i.lock i.marker

theorem isStaged_target {name : String} (h : name ∈ rt0ManualSupportingFiles) :
    names.isStaged (.target name) = false := by
  simp only [rt0ManualSupportingFiles, List.mem_cons, List.not_mem_nil, or_false] at h
  obtain rfl | rfl | rfl | rfl | rfl := h <;> exact CaptureNames.isStaged_eq_false rfl rfl (by decide)

theorem Canonical.isStaged (hc : Canonical codec c) {path : CaptureFile} (h : hc.scope.Lasting path) :
    names.isStaged path = false := by
  cases path
  case target  => exact isStaged_target h
  case lock    => exact CaptureNames.isStaged_eq_false rfl rfl (by decide)
  case marker  => exact CaptureNames.isStaged_eq_false rfl rfl (by decide)
  case stage   => cases h
  case journal => cases h

section Restore

variable {G : FileOp CaptureFile → Directory CaptureFile → Prop} {b : Bool}

theorem wp_restoreSynced {Q : Bool → Except IoErrorKind Unit → Directory CaptureFile → Prop}
    {path : CaptureFile} {old : List UInt8} (h : dir.lookup path = some (.file old))
    (hg : ∀ o part dir', dir.Wrote path part dir' → G o dir')
    (ho : ∀ b' dir', (b' = true → b = true) → dir.Wrote path bytes dir' → Q b' (.ok ()) dir')
    (he : ∀ k part dir', dir.Wrote path part dir' → Q false (.error k) dir') :
    wp G Q b (restoreSynced path bytes).run dir := by
  have hw {b' : Bool} (hb : b' = true → b = true) :
      wp G Q b' (do
        edit (.createTruncate path)
        edit (.writeAll path bytes)
        edit (.syncAll path) : ExceptT IoErrorKind CaptureProgram Unit).run dir := by
    simp only [wp_bindExcept]
    refine wp_createTruncate (by simp [h]) (hg _ old dir (.refl h)) (fun d₁ w₁ => ?_) ?_
    case refine_2 =>
      rintro k d₁ (rfl | w₁)
      · exact he k old _ (.refl h)
      · exact he k [] d₁ w₁
    simp only [Except.either_ok]
    refine wp_writeAll w₁.holds (hg _ [] d₁ w₁) (fun d₂ w₂ => ?_) fun k part d₂ _ w₂ =>
      he k part d₂ (w₁.trans w₂)
    have w := w₁.trans w₂
    exact wp_syncAll (hg _ bytes d₂ w) (ho b' d₂ hb w) fun k => he k bytes d₂ w
  rw [restoreSynced, wp_bindExcept, wp_attempt]
  refine wp_isFile (hg _ old dir (.refl h)) (fun _ => hw id) (by simp [h]) (by simp [h]) fun k => ?_
  exact hw (by simp)

theorem wp_restoreScaffold {P : Directory CaptureFile → Prop} (files : ArtifactSet)
    {Q : Bool → Bool → Directory CaptureFile → Prop} (hn : (files.map Prod.fst).Nodup)
    (hr : ∀ dir', P dir' → ∀ f ∈ files, ∃ bytes, dir'.lookup (.target f.1) = some (.file bytes))
    (hw : ∀ d₁ d₂ part, ∀ f ∈ files, P d₁ → d₁.Wrote (.target f.1) part d₂ → P d₂)
    (hg : ∀ o dir', P dir' → G o dir') (hp : P dir)
    (hq : ∀ b' restored dir', (b' = true → b = true ∧ restored = true) → P dir' →
      dir.AgreeOn (fun path => ∀ f ∈ files, path ≠ .target f.1) dir' →
      (restored = true → files.In dir') → Q b' restored dir') :
    wp G Q b (restoreScaffold files) dir := by
  induction files generalizing b dir Q
  case nil => exact hq b true dir (fun h => ⟨h, rfl⟩) hp .refl fun _ => by simp [ArtifactSet.In]
  case cons f rest hi =>
    obtain ⟨hf, hn⟩ := List.nodup_cons.mp hn
    obtain ⟨old, ho⟩ := hr dir hp f (by simp)
    have hwf {d₁ part} (w : dir.Wrote (.target f.1) part d₁) : P d₁ := hw dir d₁ part f (by simp) hp w
    -- What is restored of `f` is not touched again.
    have hrest {b₁ : Bool} {part : List UInt8} {d₁ : Directory CaptureFile} {r : Except IoErrorKind Unit}
        (hb : b₁ = true → b = true ∧ r.isOk = true) (w : dir.Wrote (.target f.1) part d₁)
        (hr' : r.isOk = true → part = f.2) :
        wp G (fun b' restored dir' => Q b' (r.isOk && restored) dir') b₁ (restoreScaffold rest) d₁ := by
      refine hi hn (fun d h g hg => hr d h g (by simp [hg]))
        (fun d d' part g hg => hw d d' part g (by simp [hg])) (hwf w) ?_
      intro b' restored d₂ hb' h₂ ha hd
      refine hq b' _ d₂ ?_ h₂ ?_ ?_
      · intro h
        obtain ⟨h₁, h₂⟩ := hb' h
        exact ⟨(hb h₁).1, by simp [(hb h₁).2, h₂]⟩
      · intro path h
        exact (ha path fun g hg => h g (by simp [hg])).trans (w.agree path (h f (by simp)))
      · intro h
        obtain ⟨h₁, h₂⟩ := Bool.and_eq_true_iff.mp h
        refine ArtifactSet.in_cons.mpr ⟨?_, hd h₂⟩
        have hl : d₂.lookup (.target f.1) = d₁.lookup (.target f.1) := by
          refine ha _ fun g hg he => hf ?_
          exact CaptureFile.target.inj he ▸ List.mem_map_of_mem hg
        rw [hl, w.holds, hr' h₁]
    rw [restoreScaffold, wp_bind]
    refine wp_restoreSynced ho (fun o part d₁ w => hg o d₁ (hwf w)) (fun b' d₁ hb w => ?_)
      fun k part d₁ w => ?_
    · exact wp_bind.mpr (hrest (fun h => ⟨hb h, rfl⟩) w fun _ => rfl)
    · exact wp_bind.mpr (hrest (by simp) w (by simp [Except.isOk, Except.toBool]))

end Restore

section Acquire

variable {b : Bool}

theorem wp_recoverUnmarked (hc : Canonical codec c) (h : hc.scope.Sound dir) (previous : PreviousJournal)
    {Q : Bool → Except String Unit → Directory CaptureFile → Prop}
    (hq : ∀ b' r dir', hc.scope.Sound dir' → Kept dir dir' →
      (b' = true → b = true ∧
        (dir.lookup .marker = none → r = .ok () ∧ dir'.lookup .marker = none)) → Q b' r dir') :
    wp (fun _ => hc.scope.Sound) Q b (c.recoverUnmarked previous).run dir := by
  have hcleanup {b' : Bool} (hb : b' = true → b = true) :
      wp (fun _ => hc.scope.Sound) Q b'
        (liftM (cleanupStaged names) : ExceptT String CaptureProgram Unit).run dir := by
    rw [wp_lift]
    refine wp_cleanupStaged (fun _ => hc.isStaged) (fun _ d₁ _ ha => h.agree ha)
      fun b₁ d₁ hb₁ ha hs => ?_
    exact hq b₁ _ d₁ (h.agree ha) (Kept.of_shrank (s := hc.scope) ha hs)
      fun ht => ⟨hb (hb₁ ht), fun hm => ⟨rfl, (ha .marker trivial).trans hm⟩⟩
  have hfail {b' : Bool} (hb : b' = true → b = true ∧ ¬c.artifacts.In dir ∧ ¬c.expected.In dir)
      (code : String) : Q b' (.error code) dir := by
    refine hq b' _ dir h .refl fun ht => ⟨(hb ht).1, fun hm => ?_⟩
    obtain he | ha := (h.marker.resolve_left (by simp [hm])).2
    · exact absurd he (hb ht).2.2
    · exact absurd ha (hb ht).2.1
  have hexpected {b' : Bool} {x : ExceptT String CaptureProgram Unit} (hb : b' = true → b = true ∧ ¬c.artifacts.In dir)
      (hx : ∀ b'', (b'' = true → b = true ∧ ¬c.artifacts.In dir ∧ ¬c.expected.In dir) →
        wp (fun _ => hc.scope.Sound) Q b'' x.run dir) :
      wp (fun _ => hc.scope.Sound) Q b' (do
        if ← artifactsMatch c.expected then
          cleanupStaged names
        else
          x : ExceptT String CaptureProgram Unit).run dir := by
    rw [wp_lift_bind]
    exact wp_artifactsMatch c.expected (fun _ => h) (fun _ => hcleanup fun ht => (hb ht).1)
      (fun hn => hx b' fun ht => ⟨(hb ht).1, (hb ht).2, hn⟩) (hx false (by simp))
  unfold recoverUnmarked
  rw [wp_lift_bind]
  refine wp_artifactsMatch c.artifacts (fun _ => h) (fun _ => hcleanup id) (fun hn => hexpected (fun ht => ⟨ht, hn⟩) ?_)
    (hexpected (by simp) ?_)
  all_goals
    intro b'' hb
    cases previous <;> exact hfail hb _

theorem wp_restoreExpected (hc : Canonical codec c) {files : ArtifactSet} (hf : files.Sublist c.expected)
    (h : hc.scope.Replacing dir) {Q : Bool → Bool → Directory CaptureFile → Prop}
    (hq : ∀ b' restored dir', (b' = true → b = true ∧ restored = true) → hc.scope.Replacing dir' →
      Kept dir dir' → dir.AgreeOn (fun path => ∀ f ∈ files, path ≠ .target f.1) dir' →
      (restored = true → files.In dir') → Q b' restored dir') :
    wp (fun _ => hc.scope.Sound) Q b (restoreScaffold files) dir := by
  have hm {f} (h : f ∈ files) : f.1 ∈ rt0ManualSupportingFiles := hc.scope.scaffold_mem f (hf.subset h)
  let P (d : Directory CaptureFile) : Prop := hc.scope.Replacing d ∧ Kept dir d
  have hw (d₁ d₂ : Directory CaptureFile) (part : List UInt8) (f : String × List UInt8) (hf : f ∈ files)
      (hp : P d₁) (w : d₁.Wrote (.target f.1) part d₂) : P d₂ :=
    ⟨hp.1.wrote w, hp.2.trans (.of_agreeOn (s := hc.scope) (.target f.1) (hm hf) (by simp) w.agree)⟩
  exact wp_restoreScaffold (P := P) files ((hf.map Prod.fst).nodup hc.scope.nodup_scaffold)
    (fun d hp f hf => hp.1.regular f.1 (hm hf)) hw (fun _ _ hp => hp.1.sound) ⟨h, .refl⟩
    fun b' restored d hb hp => hq b' restored d hb hp.1 hp.2

theorem wp_readJournal_bind (hc : Canonical codec c) (h : hc.scope.Replacing dir)
    {Q : Bool → Except String Unit → Directory CaptureFile → Prop}
    {f : SupportingJournal → ExceptT String CaptureProgram Unit}
    (he : ∀ code, Q false (.error code) dir)
    (hf : wp (fun _ => hc.scope.Sound) Q b (f c.journal).run dir) :
    wp (fun _ => hc.scope.Sound) Q b (readJournal codec .marker >>= f).run dir := by
  rw [wp_bindExcept, readJournal, wp_orFail_bind]
  refine wp_read h.sound (fun bytes hb => ?_) (fun hn => absurd h.marker (hn _)) fun _ => he _
  obtain rfl : codec.encode c.journal ++ [newline] = bytes :=
    DirEntry.file.inj (Option.some.inj (h.marker.symm.trans hb))
  simp only [Except.either_ok, hc.decode]
  exact hf

-- A marker is left from a capture that was cut off. Otherwise the targets are settled.
theorem wp_recoverUnderLock (hc : Canonical codec c) (h : hc.scope.Sound dir) (previous : PreviousJournal)
    {Q : Bool → Except String Unit → Directory CaptureFile → Prop}
    (hq : ∀ b' r dir', hc.scope.Sound dir' → Kept dir dir' →
      (b' = true → b = true ∧ r = .ok () ∧ dir'.lookup .marker = none) → Q b' r dir') :
    wp (fun _ => hc.scope.Sound) Q b (c.recoverUnderLock codec previous).run dir := by
  unfold recoverUnderLock
  rw [wp_lift_bind]
  refine wp_pathExists.mpr ⟨h, ?_, fun _ => ?_⟩
  case refine_2 =>
    exact wp_recoverUnmarked (b := false) hc h previous fun b' r d₁ hs hn hb =>
      hq b' r d₁ hs hn fun ht => by simpa using (hb ht).1
  cases hm : dir.lookup .marker
  case none =>
    exact wp_recoverUnmarked hc h previous fun b' r d₁ hs hn hb =>
      hq b' r d₁ hs hn fun ht => (hb ht).imp_right fun h => h hm
  case some entry =>
    obtain ⟨rfl⟩ : some entry = some (.file (codec.encode c.journal ++ [newline])) :=
      hm ▸ h.marker.resolve_right fun hn => by simp [hm] at hn
    have ho : hc.scope.Replacing dir := ⟨h.regular, h.lock, hm⟩
    simp only [Option.isSome_some, if_true]
    refine wp_readJournal_bind hc ho (fun code => hq false _ dir h .refl (by simp)) ?_
    rw [if_neg (by simp), wp_lift_bind]
    refine wp_restoreExpected hc (List.Sublist.refl _) ho fun b₁ restored d₁ hb h₁ hn _ hr => ?_
    cases restored
    case false => exact hq b₁ _ d₁ h₁.sound hn fun ht => by simpa using (hb ht).2
    case true =>
      simp only [if_true, wp_lift_bind, wp_orFail]
      refine wp_cleanupStaged (fun _ => hc.isStaged) (fun _ d₂ _ ha => (h₁.agree ha).sound)
        fun b₂ d₂ hb₂ ha hs => ?_
      have hn : Kept dir d₂ := hn.trans (.of_shrank (s := hc.scope) ha hs)
      refine CaptureScope.wp_removeMarker (h₁.agree ha) (.inl ((hr rfl).agree ha hc.scope.scaffold_mem)) (fun d₃ h₃ hr => ?_)
        fun _ d₃ h₃ hn₃ => hq false _ d₃ h₃ (hn.trans hn₃) (by simp)
      exact hq b₂ _ d₃ h₃ (hn.trans (.of_agreeOn (s := hc.scope) .marker trivial (by simp) hr.agree))
        fun ht => ⟨(hb (hb₂ ht)).1, rfl, hr.gone⟩

theorem wp_readLockJournal_bind (h : s.Sound dir) (hl : dir.lookup .lock = some (.file bytes))
    {α : Type} {Q : Bool → Except String α → Directory CaptureFile → Prop}
    {f : PreviousJournal → ExceptT String CaptureProgram α} (he : ∀ code, Q false (.error code) dir)
    (hf : ∀ previous, wp (fun _ => s.Sound) Q b (f previous).run dir) :
    wp (fun _ => s.Sound) Q b (readLockJournal codec >>= f).run dir := by
  rw [wp_bindExcept, readLockJournal, wp_orFail_bind]
  refine wp_read h (fun bytes' _ => ?_) (fun hn => absurd hl (hn _)) fun _ => he _
  simp only [Except.either_ok]
  split
  case isTrue  => exact hf _
  case isFalse => cases codec.decode bytes' <;> exact hf _

theorem wp_writeLockJournal_bind (h : s.Sound dir) (hl : dir.lookup .lock = some (.file bytes))
    {α : Type} {Q : Bool → Except String α → Directory CaptureFile → Prop}
    {f : Unit → ExceptT String CaptureProgram α}
    (he : ∀ code dir', s.Sound dir' → dir.AgreeOn (· ≠ .lock) dir' → Q false (.error code) dir')
    (hf : ∀ dir', s.Sound dir' → dir.AgreeOn (· ≠ .lock) dir' →
      wp (fun _ => s.Sound) Q b (f ()).run dir') :
    wp (fun _ => s.Sound) Q b (c.writeLockJournal codec >>= f).run dir := by
  have hs {part : List UInt8} {d : Directory CaptureFile} (w : dir.Wrote .lock part d) : s.Sound d :=
    h.lock_agree w.agree (by simp [w.holds])
  rw [wp_bindExcept, writeLockJournal]
  simp only [wp_orFail_bind, wp_orFail]
  refine wp_truncate hl h (fun d₁ w₁ => ?_) ?_
  case refine_2 =>
    rintro _ d₁ (rfl | w₁)
    · exact he _ _ h .refl
    · exact he _ d₁ (hs w₁) w₁.agree
  simp only [Except.either_ok]
  refine wp_writeAll w₁.holds (hs w₁) (fun d₂ w₂ => ?_) fun _ part d₂ _ w₂ =>
    he _ d₂ (hs (w₁.trans w₂)) (w₁.trans w₂).agree
  have w := w₁.trans w₂
  simp only [Except.either_ok]
  refine wp_syncAll (hs w) ?_ fun _ => ?_
  · exact hf d₂ (hs w) w.agree
  · exact he _ d₂ (hs w) w.agree

theorem wp_acquire (hc : Canonical codec c) (h : hc.scope.Sound dir)
    {Q : Bool → Except String LockOutcome → Directory CaptureFile → Prop}
    (hq : ∀ b' r dir', hc.scope.Sound dir' → NothingNew dir dir' →
      (b' = true → b = true ∧ dir'.lookup .marker = none ∧
        (r = .ok .alreadyCommitted ∧ c.artifacts.In dir' ∨ r = .ok .acquired ∧ c.expected.In dir')) →
      Q b' r dir') :
    wp (fun _ => hc.scope.Sound) Q b (c.acquire codec).run dir := by
  have hfail {d : Directory CaptureFile} (code : String) (h : hc.scope.Sound d) (hn : NothingNew dir d) :
      Q false (.error code) d :=
    hq false _ d h hn (by simp)
  unfold acquire
  rw [wp_orFail_bind]
  refine wp_create h.lock h (fun part d₁ w₁ => ?_) fun _ d₁ ha hl =>
    hfail _ (h.lock_agree ha hl) (.of_agreeOn (s := hc.scope) .lock trivial ha)
  have h₁ : hc.scope.Sound d₁ := h.lock_agree w₁.agree (by simp [w₁.holds])
  have hn₁ : NothingNew dir d₁ := .of_agreeOn (s := hc.scope) .lock trivial w₁.agree
  simp only [Except.either_ok, wp_attempt_bind]
  refine wp_tryLock h₁ ?_ fun k => ?_
  case refine_2 => cases k <;> exact hfail _ h₁ hn₁
  refine wp_readLockJournal_bind h₁ w₁.holds (fun _ => hfail _ h₁ hn₁) fun previous => ?_
  rw [wp_bindExcept]
  refine wp_recoverUnderLock hc h₁ previous fun b₂ r d₂ h₂ hk hb₂ => ?_
  have hn₂ : NothingNew dir d₂ := hn₁.trans hk.nothingNew
  cases r
  case error code => exact hq b₂ _ d₂ h₂ hn₂ fun ht => by simpa using hb₂ ht
  simp only [Except.either_ok]
  refine wp_writeLockJournal_bind h₂ (hk.lock.trans w₁.holds)
    (fun code d₃ h₃ ha => hfail code h₃ (hn₂.trans (.of_agreeOn (s := hc.scope) .lock trivial ha))) fun d₃ h₃ ha => ?_
  have hn₃ : NothingNew dir d₃ := hn₂.trans (.of_agreeOn (s := hc.scope) .lock trivial ha)
  have hm (ht : b₂ = true) : d₃.lookup .marker = none := (ha .marker (by simp)).trans (hb₂ ht).2.2
  rw [wp_lift_bind]
  refine wp_artifactsMatch c.artifacts (fun _ => h₃) (fun hi => ?_) (fun hi => ?_) ?_
  · exact hq b₂ _ d₃ h₃ hn₃ fun ht => ⟨(hb₂ ht).1, hm ht, .inl ⟨rfl, hi⟩⟩
  · refine hq b₂ _ d₃ h₃ hn₃ fun ht => ⟨(hb₂ ht).1, hm ht, .inr ⟨rfl, ?_⟩⟩
    exact (h₃.marker.resolve_left (by simp [hm ht])).2.resolve_right hi
  · exact hq false _ d₃ h₃ hn₃ (by simp)

end Acquire

section Write

variable {b : Bool}

theorem writesNew : WritesNew writeNewSynced := by
  intro G Q keep b dir path bytes hp hg ho he
  have hg' {e : FileEdit CaptureFile} {d : Directory CaptureFile} (hw : ∀ q, e.writes = some q → q = path)
      (ha : dir.AgreeOn (· ≠ path) d) : G (.edit e) d :=
    hg _ d (fun q hq => hw q hq ▸ hp) (ha.mono fun _ hk he => hp (he ▸ hk))
  have hfail (d : Directory CaptureFile) (ha : dir.AgreeOn (· ≠ path) d) :
      wp G Q false (do ignore (edit (.removeFile path)); throw "OUTPUT_STAGE_FAILED" :
        ExceptT String CaptureProgram Unit).run d := by
    rw [wp_lift_bind]
    refine wp_keep (· ≠ path) (only_removeFile fun q hq => ?_) (fun o d₁ hw h₁ => ?_) fun b' _ d₁ hb h₁ => ?_
    · simpa using (Option.some.inj hq).symm
    · exact hg o d₁ (fun q hq hk => hp (not_not.mp (hw q hq) ▸ hk)) ((ha.trans h₁).mono fun _ hk he => hp (he ▸ hk))
    · exact he b' _ d₁ (fun ht => by simpa using hb ht) (ha.trans h₁)
  rw [writeNewSynced, wp_orFail_bind]
  refine wp_createNew (hg' (by simp [FileEdit.writes]) .refl) (fun _ d₁ w₁ => ?_)
    (fun hn => he b _ dir (fun ht => ⟨ht, hn⟩) .refl) fun k d₁ ha => he false _ d₁ (by simp) ha
  rw [Except.either_ok, wp_attempt_bind, wp_bindExcept]
  refine wp_writeAll w₁.holds (hg' (by simp [FileEdit.writes]) w₁.agree) (fun d₂ w₂ => ?_)
    fun k part d₂ _ w₂ => hfail d₂ (w₁.trans w₂).agree
  have w := w₁.trans w₂
  simp only [Except.either_ok]
  exact wp_syncAll (hg' (by simp [FileEdit.writes]) w.agree) (ho d₂ w) fun k => hfail d₂ w.agree

theorem wp_validateExactPlaceholders (files : ArtifactSet) (h : s.Sound dir)
    {Q : Bool → Except String Unit → Directory CaptureFile → Prop} (ho : files.In dir → Q b (.ok ()) dir)
    (he : ∀ b' code, (b' = true → b = true ∧ ¬files.In dir) → Q b' (.error code) dir) :
    wp (fun _ => s.Sound) Q b (validateExactPlaceholders files).run dir := by
  induction files
  case nil => exact ho (by simp [ArtifactSet.In])
  case cons f rest hi =>
    have hfail {b' : Bool} (code : String)
        (hn : b' = true → b = true ∧ dir.lookup (.target f.1) ≠ some (.file f.2)) :
        Q b' (.error code) dir :=
      he b' code fun ht => (hn ht).imp_right fun hn hi => hn (ArtifactSet.in_cons.mp hi).1
    rw [validateExactPlaceholders, wp_orFail_bind]
    refine wp_isFile h (fun _ => ?_) (fun hl => ?_) (fun hl => ?_) fun _ => hfail _ (by simp)
    case refine_2 => exact hfail _ fun ht => ⟨ht, by simp [hl]⟩
    case refine_3 => exact hfail _ fun ht => ⟨ht, by simp [hl]⟩
    simp only [Except.either_ok, if_true, wp_orFail_bind]
    refine wp_read h (fun bytes hl => ?_) (fun hn _ => hfail _ fun ht => ⟨ht, hn _⟩) fun _ => hfail _ (by simp)
    simp only [Except.either_ok]
    by_cases hb : bytes = f.2
    case pos =>
      obtain rfl := hb
      simp only [ne_eq, not_true, if_false]
      exact hi (fun hr => ho (ArtifactSet.in_cons.mpr ⟨hl, hr⟩)) fun b' code hb => he b' code fun ht =>
        (hb ht).imp_right fun hn hi => hn (ArtifactSet.in_cons.mp hi).2
    case neg =>
      simp only [ne_eq, hb, not_false_eq_true, if_true]
      exact hfail _ fun ht => ⟨ht, by simp [hl, hb]⟩

theorem wp_rollBack (hc : Canonical codec c) (h : hc.scope.Replacing dir) {done rest : ArtifactSet}
    {staged : List CaptureFile} {code : String} (hs : c.expected = done ++ rest) (hr : rest.In dir)
    (hst : ∀ path ∈ staged, ¬hc.scope.Lasting path) {Q : Bool → Except String Unit → Directory CaptureFile → Prop}
    (hq : ∀ code dir', hc.scope.Sound dir' → Q false (.error code) dir') :
    wp (fun _ => hc.scope.Sound) Q false (rollBack done staged code).run dir := by
  have hn : ∀ g ∈ rest, ∀ f ∈ done, CaptureFile.target g.1 ≠ .target f.1 := by
    intro g hg f hf he
    have : (c.expected.map Prod.fst).Nodup := hc.scope.nodup_scaffold
    rw [hs, List.map_append] at this
    exact List.disjoint_of_nodup_append this (List.mem_map_of_mem hf)
      (CaptureFile.target.inj he ▸ List.mem_map_of_mem hg)
  rw [rollBack, wp_lift_bind]
  refine wp_restoreExpected hc (hs ▸ List.sublist_append_left done rest) h fun b₁ restored d₁ hb h₁ _ ha hd => ?_
  have hb₁ : b₁ = false := by simpa using fun ht => (hb ht).1
  rw [wp_lift_bind]
  refine wp_cleanup hst (fun _ d₂ _ ha₂ => (h₁.agree ha₂).sound) fun b₂ d₂ hb₂ ha₂ => ?_
  obtain rfl : b₂ = false := by simpa [hb₁] using hb₂
  cases restored
  case false => exact hq _ d₂ (h₁.agree ha₂).sound
  have he : c.expected.In d₂ := by
    rw [hs]
    exact (ArtifactSet.in_append.mpr ⟨hd rfl, hr.agree ha hn⟩).agree ha₂ (hs ▸ hc.scope.scaffold_mem)
  simp only [if_true, wp_lift_bind, wp_ignore]
  exact CaptureScope.wp_removeMarker (h₁.agree ha₂) (.inl he) (fun d₃ h₃ _ => hq _ d₃ h₃) fun _ d₃ h₃ _ => hq _ d₃ h₃

-- The targets before `rest` hold their artifacts and the others still hold the scaffold.
theorem wp_replaceArtifacts (hc : Canonical codec c) {staged : List CaptureFile}
    (hst : ∀ path ∈ staged, ¬hc.scope.Lasting path) (before : ArtifactSet)
    (rest : List ((String × List UInt8) × CaptureFile)) (hs : c.artifacts = before ++ rest.map Prod.fst)
    (h : hc.scope.Replacing dir) (hb : before.In dir) (hr : ArtifactSet.In (c.expected.drop before.length) dir)
    (hp : ∀ x ∈ rest, dir.lookup x.2 = some (.file x.1.2) ∧ ¬hc.scope.Lasting x.2)
    {Q : Bool → Except String Unit → Directory CaptureFile → Prop}
    (ho : ∀ dir', hc.scope.Replacing dir' → c.artifacts.In dir' → Q b (.ok ()) dir')
    (he : ∀ code dir', hc.scope.Sound dir' → Q false (.error code) dir') :
    wp (fun _ => hc.scope.Sound) Q b (c.replaceArtifacts staged before.length rest).run dir := by
  induction rest generalizing before dir
  case nil => exact ho dir h (by simpa [hs] using hb)
  case cons x rest hi =>
    obtain ⟨⟨name, bytes⟩, path⟩ := x
    obtain ⟨⟨hl, hu⟩, hp⟩ := List.forall_mem_cons.mp hp
    have hx : (name, bytes) ∈ c.artifacts := hs ▸ by simp
    have hm : name ∈ rt0ManualSupportingFiles := hc.scope.artifacts_mem (name, bytes) hx
    have hnames : c.expected.map Prod.fst = before.map Prod.fst ++ name :: (rest.map Prod.fst).map Prod.fst := by
      rw [hc.expected, ← hc.artifacts, hs]
      simp
    have hnodup : (c.expected.map Prod.fst).Nodup := hc.scope.nodup_scaffold
    rw [hnames] at hnodup
    -- The scaffold of this target is the first of those that are left.
    have hdrop : name ∉ (c.expected.drop (before.length + 1)).map Prod.fst := by
      rw [List.map_drop, hnames, List.append_cons, List.drop_left' (by simp)]
      exact (List.nodup_cons.mp (List.nodup_append.mp hnodup).2.1).1
    have hrest : ArtifactSet.In (c.expected.drop (before.length + 1)) dir :=
      fun f hf => hr f ((List.drop_sublist_drop_left _ (Nat.le_succ _)).subset hf)
    have hbefore : name ∉ before.map Prod.fst := fun hn =>
      List.disjoint_of_nodup_append hnodup hn (by simp)
    rw [replaceArtifacts, wp_attempt_bind]
    refine wp_read h.sound (fun read hr' => ?_) (fun hn => absurd hl (hn _)) fun _ => ?_
    case refine_2 =>
      exact wp_rollBack hc h (List.take_append_drop before.length c.expected).symm hr hst he
    obtain rfl : bytes = read := by simpa [hl] using hr'
    obtain ⟨old, ho'⟩ := h.regular name hm
    rw [wp_attempt_bind]
    refine wp_overwriteSynced ho' h.sound h.sound (fun _ w => (h.wrote w).sound) (fun _ w => (h.wrote w).sound)
      (fun d₁ w => ?_) fun _ part d₁ _ w => ?_
    case refine_2 =>
      exact wp_rollBack hc (h.wrote w) (List.take_append_drop (before.length + 1) c.expected).symm
        (hrest.wrote w hdrop) hst he
    have hl₁ : ArtifactSet.In (before ++ [(name, bytes)]) d₁ :=
      ArtifactSet.in_append.mpr ⟨hb.wrote w hbefore, ArtifactSet.in_cons.mpr ⟨w.holds, by simp [ArtifactSet.In]⟩⟩
    have hi := hi (before ++ [(name, bytes)]) (by simp [hs]) (h.wrote w) hl₁
      (by simpa using hrest.wrote w hdrop) fun y hy => ⟨?_, (hp y hy).2⟩
    · simpa using hi
    · have hn : y.2 ≠ .target name := fun hn => (hp y hy).2 (hn ▸ hm)
      exact (w.agree y.2 hn).trans (hp y hy).1

theorem wp_writeArtifactsTransactional (hc : Canonical codec c) (h : hc.scope.Sound dir)
    (hx : c.expected.In dir) {Q : Bool → Except String Unit → Directory CaptureFile → Prop}
    (hq : ∀ b' r dir', hc.scope.Sound dir' →
      (b' = true → b = true ∧ (p.Fresh dir → dir.lookup .marker = none →
        r = .ok () ∧ c.artifacts.In dir' ∧ dir'.lookup .marker = none)) → Q b' r dir') :
    wp (fun _ => hc.scope.Sound) Q b (c.writeArtifactsTransactional codec p).run dir := by
  have hfail (code : String) (d : Directory CaptureFile) (h : hc.scope.Sound d) : Q false (.error code) d :=
    hq false _ d h (by simp)
  have hstage {path : CaptureFile} (hl : hc.scope.Lasting path) : ∀ i, path ≠ .stage p.pid p.stageNonce i := by
    rintro i rfl
    exact hl
  have hjournal {path : CaptureFile} (hl : hc.scope.Lasting path) : path ≠ .journal p.pid p.journalNonce := by
    rintro rfl
    exact hl
  unfold writeArtifactsTransactional
  rw [wp_bindExcept, stageArtifacts]
  refine wp_stageArtifacts writesNew (fun path => ∀ i, path ≠ .stage p.pid p.stageNonce i) c.artifacts
    (fun i hi => hi i rfl) (by simp)
    (fun _ d₁ _ ha => h.agree (ha.mono fun _ => hstage)) (fun new d₁ ha hf hu => ?_) fun b₁ code d₁ hb ha => ?_
  case refine_2 =>
    refine hq b₁ _ d₁ (h.agree (ha.mono fun _ => hstage)) fun ht => ⟨(hb ht).1, fun hfr _ => ?_⟩
    obtain ⟨f, hf, hn⟩ | ⟨i, _, hn⟩ := (hb ht).2
    · have hm : f.1 ∈ rt0ManualSupportingFiles := hc.scope.artifacts_mem f hf
      simp [hm] at hn
    · exact absurd (hfr.stage i) hn
  have ha : dir.AgreeOn (fun path => ∀ i, path ≠ .stage p.pid p.stageNonce i) d₁ := by simpa using ha
  have hl₁ : dir.AgreeOn hc.scope.Lasting d₁ := ha.mono fun _ => hstage
  have h₁ := h.agree hl₁
  have hnew (path : CaptureFile) (hp : path ∈ new) : ¬hc.scope.Lasting path := fun hl => hu path hp (hstage hl)
  simp only [List.nil_append, Except.either_ok]
  rw [wp_lift_bind]
  refine wp_createJournal (· ≠ .journal p.pid p.journalNonce) (by simp) (by simp) (fun _ d₂ _ hd => ?_)
    (fun b₂ d₂ hb₂ hm => ?_) fun b₂ k d₂ hb₂ hd => ?_
  case refine_1 =>
    exact hd.elim (fun ha => h₁.agree (ha.mono fun _ => hjournal))
      fun hm => (h₁.marked (fun _ => hjournal) hm).sound
  case refine_3 =>
    have h₂ : hc.scope.Sound d₂ := hd.elim (fun ha => h₁.agree (ha.mono fun _ => hjournal))
      fun hm => (h₁.marked (fun _ => hjournal) hm).sound
    simp only [wp_lift_bind]
    refine wp_cleanup hnew (fun _ d₃ _ ha => h₂.agree ha) fun b₃ d₃ hb₃ ha₃ => ?_
    refine hq b₃ _ d₃ (h₂.agree ha₃) fun ht => ?_
    obtain ⟨hb, hn⟩ := hb₂ (hb₃ ht)
    refine ⟨hb, fun hfr hm => ?_⟩
    obtain hn | hn := hn
    · exact absurd ((ha _ (by simp)).trans hfr.journal) hn
    · exact absurd ((hl₁ .marker trivial).trans hm) hn
  have h₂ : hc.scope.Replacing d₂ := h₁.marked (fun _ => hjournal) hm
  have hx₂ : c.expected.In d₂ :=
    (hx.agree hl₁ hc.scope.scaffold_mem).agree hm.agree fun _ _ => by simp
  have hstaged : ∀ x ∈ c.artifacts.zip new, d₂.lookup x.2 = some (.file x.1.2) ∧ ¬hc.scope.Lasting x.2 := by
    intro x hx
    have hmem : x.2 ∈ new := (List.of_mem_zip hx).2
    have hj : x.2 ≠ .journal p.pid p.journalNonce := by
      intro hj
      exact hu x.2 hmem fun i hi => by simp [hj] at hi
    have hne : x.2 ≠ .marker := fun hm => hnew x.2 hmem (hm ▸ trivial)
    exact ⟨(hm.agree x.2 ⟨hj, hne⟩).trans ((List.forall₂_iff_zip.mp hf).2 hx), hnew x.2 hmem⟩
  rw [wp_bindExcept]
  refine wp_replaceArtifacts hc hnew [] (c.artifacts.zip new) ?_ h₂ (by simp [ArtifactSet.In]) hx₂ hstaged
    (fun d₃ h₃ ha₃ => ?_) hfail
  case refine_1 => simpa using (List.map_fst_zip (Nat.le_of_eq (List.Forall₂.length_eq hf))).symm
  simp only [Except.either_ok, wp_lift_bind, wp_orFail]
  refine wp_cleanup hnew (fun _ d₄ _ ha => (h₃.agree ha).sound) fun b₄ d₄ hb₄ ha₄ => ?_
  have ha₄' : c.artifacts.In d₄ := ha₃.agree ha₄ hc.scope.artifacts_mem
  refine CaptureScope.wp_removeMarker (h₃.agree ha₄) (.inr ha₄') (fun d₅ h₅ hr => ?_) fun _ d₅ h₅ _ => hfail _ d₅ h₅
  exact hq b₄ _ d₅ h₅ fun ht => ⟨hb₂ (hb₄ ht), fun _ _ => ⟨rfl, ha₄'.agree hr.agree (by simp), hr.gone⟩⟩

end Write

-- Every capture keeps the directory sound, and one of which nothing fails completes.
theorem wp_run (hc : Canonical codec c) (h : hc.scope.Sound dir) :
    wp (fun _ => hc.scope.Sound) (fun b r dir' => hc.scope.Sound dir' ∧ (b = true → p.Fresh dir →
      r = .ok () ∧ c.artifacts.In dir' ∧ dir'.lookup .marker = none)) true (c.run codec p).run dir := by
  unfold run
  rw [wp_bindExcept]
  refine wp_acquire hc h fun b₁ r d₁ h₁ hn hb₁ => ?_
  have hlength : c.expected.length = rt0ManualSupportingFiles.length := by simp [← hc.expected]
  cases r
  case error code => exact ⟨h₁, fun ht => by simpa using (hb₁ ht).2.2⟩
  case ok outcome =>
    cases outcome
    case alreadyCommitted => exact ⟨h₁, fun ht _ => ⟨rfl, by simpa using (hb₁ ht).2.2, (hb₁ ht).2.1⟩⟩
    case acquired =>
      simp only [Except.either_ok, hlength, ne_eq, not_true, if_false]
      rw [wp_bindExcept]
      refine wp_validateExactPlaceholders c.expected h₁ (fun hx => ?_) fun b₂ code hb₂ => ?_
      case refine_1 =>
        refine wp_writeArtifactsTransactional hc h₁ hx fun b₃ r d₃ h₃ hb₃ => ⟨h₃, fun ht hfr => ?_⟩
        obtain ⟨ht, hr⟩ := hb₃ ht
        exact hr (hn p hfr) (hb₁ ht).2.1
      case refine_2 =>
        refine ⟨h₁, fun ht _ => ?_⟩
        obtain ⟨ht, hn⟩ := hb₂ ht
        exact absurd (by simpa using (hb₁ ht).2.2) hn

section Other

-- What a capture of another journal leaves as it is.
def Held : CaptureFile → Prop
  | .target name => name ∈ rt0ManualSupportingFiles
  | .marker      => True
  | _            => False

theorem Held.isStaged {path : CaptureFile} (h : Held path) : names.isStaged path = false := by
  cases path
  case target => exact isStaged_target h
  case marker => exact CaptureNames.isStaged_eq_false rfl rfl (by decide)
  all_goals cases h

def Spares (o : FileOp CaptureFile) : Prop :=
  ∀ path, o.writes = some path → ¬Held path

variable {d : Directory CaptureFile} {b : Bool} {α : Type}

theorem wp_spares {q : FileProgram CaptureFile α} {Q : Bool → α → Directory CaptureFile → Prop}
    (h : q.Only Spares) (ha : dir.AgreeOn Held d) (hq : ∀ b r d', dir.AgreeOn Held d' → Q b r d') :
    wp (fun _ d' => dir.AgreeOn Held d') Q b q d :=
  wp_keep Held h (fun _ _ _ h' => ha.trans h') fun b' r d' _ h' => hq b' r d' (ha.trans h')

theorem wp_spares_bind {β : Type} {x : ExceptT String CaptureProgram β} {f : β → ExceptT String CaptureProgram α}
    {Q : Bool → Except String α → Directory CaptureFile → Prop} (h : x.run.Only Spares) (ha : dir.AgreeOn Held d)
    (he : ∀ b code d', dir.AgreeOn Held d' → Q b (.error code) d')
    (hf : ∀ b a d', dir.AgreeOn Held d' → wp (fun _ d' => dir.AgreeOn Held d') Q b (f a).run d') :
    wp (fun _ d' => dir.AgreeOn Held d') Q b (x >>= f).run d := by
  rw [wp_bindExcept]
  refine wp_spares h ha fun b r d' h' => ?_
  cases r
  case error code => exact he b code d' h'
  case ok a       => exact hf b a d' h'

theorem only_spares_lock {e : FileEdit CaptureFile} (h : ∀ path, e.writes = some path → path = .lock) :
    (edit e).run.Only Spares :=
  ⟨fun path hp hh => by rw [h path hp] at hh; exact hh, fun _ => trivial⟩

theorem only_spares_read (path : CaptureFile) : (read path).run.Only Spares :=
  ⟨by simp [Spares, FileOp.writes], fun _ => trivial⟩

theorem only_spares_cleanupStaged : (cleanupStaged names).Only Spares := by
  refine only_bind ⟨by simp [Spares, FileOp.writes], fun _ => trivial⟩ fun entries => only_cleanup ?_
  intro path hm q hq hh
  obtain rfl := Option.some.inj hq
  simp [hh.isStaged] at hm

theorem only_spares_recoverUnmarked (previous : PreviousJournal) :
    (c.recoverUnmarked previous).run.Only Spares := by
  have hr (path : CaptureFile) : Spares (.read path) := by simp [Spares, FileOp.writes]
  have hcleanup : (liftM (cleanupStaged names) : ExceptT String CaptureProgram Unit).run.Only Spares :=
    only_bind only_spares_cleanupStaged fun _ => trivial
  refine only_bindExcept (only_bind (only_artifactsMatch hr _) fun _ => trivial) fun held => ?_
  cases held
  case true => exact hcleanup
  case false =>
    refine only_bindExcept (only_bind (only_artifactsMatch hr _) fun _ => trivial) fun held => ?_
    cases held
    case true  => exact hcleanup
    case false => cases previous <;> trivial

theorem only_spares_readLockJournal : (readLockJournal codec).run.Only Spares := by
  refine only_bindExcept (only_orFail (only_spares_read _)) fun bytes => ?_
  split
  case isTrue  => trivial
  case isFalse => cases codec.decode bytes <;> trivial

theorem only_spares_writeLockJournal : (c.writeLockJournal codec).run.Only Spares :=
  only_bindExcept (only_orFail (only_spares_lock (by simp [FileEdit.writes]))) fun _ =>
    only_bindExcept (only_orFail (only_spares_lock (by simp [FileEdit.writes]))) fun _ =>
      only_orFail (only_spares_lock (by simp [FileEdit.writes]))

theorem only_spares_validateExactPlaceholders (files : ArtifactSet) :
    (validateExactPlaceholders files).run.Only Spares := by
  induction files
  case nil => trivial
  case cons f rest hi =>
    refine only_bindExcept (only_orFail ⟨by simp [Spares, FileOp.writes], fun _ => trivial⟩) fun file => ?_
    cases file
    case false => trivial
    case true =>
      refine only_bindExcept (only_orFail (only_spares_read _)) fun existing => ?_
      dsimp only
      split
      case isTrue  => trivial
      case isFalse => exact hi

-- The marker of another journal keeps a capture from all that could change a target.
variable (hm : dir.lookup .marker = some (.file bytes)) (hj : codec.decode bytes ≠ some c.journal)

include hm hj in
theorem wp_recoverUnderLock_other (ha : dir.AgreeOn Held d) (previous : PreviousJournal)
    {Q : Bool → Except String Unit → Directory CaptureFile → Prop}
    (hq : ∀ b r d', dir.AgreeOn Held d' → Q b r d') :
    wp (fun _ d' => dir.AgreeOn Held d') Q b (c.recoverUnderLock codec previous).run d := by
  have hm : d.lookup .marker = some (.file bytes) := (ha .marker trivial).trans hm
  unfold recoverUnderLock
  rw [wp_lift_bind]
  refine wp_pathExists.mpr ⟨ha, ?_, fun _ => wp_spares (only_spares_recoverUnmarked previous) ha hq⟩
  simp only [hm, Option.isSome_some, if_true]
  rw [wp_bindExcept, readJournal, wp_orFail_bind]
  refine wp_read ha (fun bytes' hb => ?_) (fun hn => absurd hm (hn _)) fun _ => hq _ _ d ha
  obtain rfl : bytes = bytes' := by simpa [hm] using hb
  simp only [Except.either_ok]
  cases hd : codec.decode bytes
  case none => exact hq _ _ d ha
  case some journal =>
    have hne : journal ≠ c.journal := fun he => hj (he ▸ hd)
    change wp _ _ _ (ExceptT.run (if journal ≠ c.journal then _ else _)) d
    rw [if_pos hne]
    exact hq _ _ d ha

include hm hj in
theorem wp_acquire_other {Q : Bool → Except String LockOutcome → Directory CaptureFile → Prop}
    (ha : dir.AgreeOn Held d) (hq : ∀ b r d', dir.AgreeOn Held d' → Q b r d') :
    wp (fun _ d' => dir.AgreeOn Held d') Q b (c.acquire codec).run d := by
  have he (b : Bool) (code : String) (d' : Directory CaptureFile) (h : dir.AgreeOn Held d') :
      Q b (.error code) d' :=
    hq b _ d' h
  unfold acquire
  refine wp_spares_bind (only_orFail (only_spares_lock (by simp [FileEdit.writes]))) ha he fun b _ d₁ h₁ => ?_
  refine wp_spares_bind (only_attempt (only_spares_lock (by simp [FileEdit.writes]))) h₁ he fun b r d₂ h₂ => ?_
  cases r
  case error k => cases k <;> exact hq b _ d₂ h₂
  case ok =>
    refine wp_spares_bind only_spares_readLockJournal h₂ he fun b previous d₃ h₃ => ?_
    rw [wp_bindExcept]
    refine wp_recoverUnderLock_other hm hj h₃ previous fun b r d₄ h₄ => ?_
    cases r
    case error code => exact hq b _ d₄ h₄
    refine wp_spares_bind only_spares_writeLockJournal h₄ he fun b _ d₅ h₅ => ?_
    rw [wp_lift_bind]
    refine wp_spares (only_artifactsMatch (fun _ => by simp [Spares, FileOp.writes]) _) h₅ fun b held d₆ h₆ => ?_
    cases held <;> exact hq b _ d₆ h₆

include hm in
theorem wp_writeArtifactsTransactional_other (ha : dir.AgreeOn Held d) :
    wp (fun _ d' => dir.AgreeOn Held d') (fun _ _ d' => dir.AgreeOn Held d') b
      (c.writeArtifactsTransactional codec p).run d := by
  unfold writeArtifactsTransactional
  rw [wp_bindExcept, stageArtifacts]
  refine wp_stageArtifacts writesNew Held c.artifacts (fun _ => id) (by simp)
    (fun _ _ _ h => ha.trans h) (fun new d₁ h₁ _ hu => ?_) fun _ _ d₁ _ h₁ => ha.trans h₁
  have h₁ : dir.AgreeOn Held d₁ := ha.trans (h₁.mono fun path hh i _ he => by rw [he] at hh; exact hh)
  have hm₁ {bytes' : List UInt8} {d' : Directory CaptureFile} (h : Marked Held bytes' d₁ d') : False := by
    simpa [(h₁ .marker trivial).trans hm] using h.unmarked
  simp only [List.nil_append, Except.either_ok]
  rw [wp_lift_bind]
  refine wp_createJournal Held trivial id (fun _ d₂ _ h => ?_) (fun _ d₂ _ h => (hm₁ h).elim)
    fun b₂ k d₂ _ h => ?_
  case refine_1 => exact h.elim h₁.trans fun h => (hm₁ h).elim
  have h₂ : dir.AgreeOn Held d₂ := h.elim h₁.trans fun h => (hm₁ h).elim
  simp only [wp_lift_bind]
  exact wp_cleanup (fun path hp => hu path (by simpa using hp)) (fun _ _ _ h => h₂.trans h) fun _ _ _ h => h₂.trans h

include hm hj in
theorem wp_run_other : wp (fun _ d => dir.AgreeOn Held d) (fun _ _ d => dir.AgreeOn Held d) b
    (c.run codec p).run dir := by
  unfold run
  rw [wp_bindExcept]
  refine wp_acquire_other hm hj .refl fun b r d₁ h₁ => ?_
  cases r
  case error => exact h₁
  case ok outcome =>
    cases outcome
    case alreadyCommitted => exact h₁
    case acquired =>
      simp only [Except.either_ok]
      split
      case isTrue => exact h₁
      case isFalse =>
        refine wp_spares_bind (only_spares_validateExactPlaceholders _) h₁ (fun _ _ _ h => h) fun b _ d₂ h₂ => ?_
        exact wp_writeArtifactsTransactional_other hm h₂

end Other

theorem step_sound (hc : Canonical codec c) (h : hc.scope.Sound dir)
    {call : CaptureProcess × List (Option IoFault)} {o : List (Option (Except String Unit))}
    (hs : (c.captures (c.run codec)).step dir call = some (dir', o)) : hc.scope.Sound dir' := by
  simp only [captures, Option.some.injEq, Prod.mk.injEq] at hs
  obtain ⟨rfl, -⟩ := hs
  have h := (wp_exec (wp_run (p := call.1) hc h) call.2).2
  split at h
  · exact h.choose_spec.1
  · exact h.choose_spec

theorem run_sound (hc : Canonical codec c) {t : List (Option (Except String Unit))}
    (r : (c.captures (c.run codec)).Run t dir) : hc.scope.Sound dir :=
  r.state_invariant (fun i => hc.sound i) fun h hs => step_sound hc h hs

def exampleJournal : SupportingJournal :=
  ⟨"rt0-manual-supporting-capture-journal-0.1", "", "", "", []⟩

def exampleCodec : JournalCodec SupportingJournal :=
  let text := "\x7b\"schema_version\":\"rt0-manual-supporting-capture-journal-0.1\",\"candidate_sha\":\"\"," ++
    "\"provider_state_sha256\":\"\",\"input_sha256\":\"\",\"artifact_sha256\":\x7b\x7d\x7d"
  let bytes := text.toList.map (·.toNat.toUInt8)
  { encode := fun journal => if journal = exampleJournal then bytes else []
    decode := fun read => if read = bytes ++ [newline] then some exampleJournal else none }

def exampleCapture : SupportingCapture where
  journal   := exampleJournal
  expected  := rt0ManualSupportingFiles.map (·, [0])
  artifacts := rt0ManualSupportingFiles.map (·, [1])

def otherCapture : SupportingCapture :=
  { exampleCapture with journal := ⟨"rt0-manual-supporting-capture-journal-0.1", "", "", "other", []⟩ }

def exampleDirectory : Directory CaptureFile :=
  (exampleCapture.expected.map fun f => ⟨.target f.1, .file f.2⟩).toAList

def exampleFault : Option IoFault := some ⟨.other, 0⟩

theorem exampleCapture_canonical : Canonical exampleCodec exampleCapture :=
  ⟨rfl, rfl, JournalCodec.decode_encode exampleJournal _⟩

theorem exampleCapture_scaffolded : exampleCapture.Scaffolded exampleDirectory :=
  ⟨by decide +kernel, by decide +kernel, by decide +kernel⟩

theorem run_consistent (hc : Canonical codec c) {t : List (Option (Except String Unit))}
    (r : (c.captures (c.run codec)).Run t dir) :
    (dir.lookup .marker = none → c.expected.In dir ∨ c.artifacts.In dir) ∧
    (∀ p : CaptureProcess, p.Fresh dir → ∃ n, ∀ m, n ≤ m →
      let e := (c.run codec p).run.exec (List.replicate m none) dir
      e.result = some (.ok ()) ∧ c.artifacts.In e.state ∧ e.state.lookup .marker = none) ∧
    ∀ (c' : SupportingCapture) (p : CaptureProcess) (faults : List (Option IoFault)),
      dir.lookup .marker ≠ none → c'.journal ≠ c.journal → ∀ name ∈ rt0ManualSupportingFiles,
        ((c'.run codec p).run.exec faults dir).state.lookup (.target name) = dir.lookup (.target name) := by
  have h := run_sound hc r
  refine ⟨fun hm => (h.marker.resolve_left (by simp [hm])).2, fun p hf => ?retry, fun c' p faults hm hj name hn => ?_⟩
  case retry =>
    obtain ⟨n, he⟩ := exec_finish (c.run codec p).run dir
    obtain ⟨hr, ha, hm⟩ := (wp_finish (wp_run hc h)).2 rfl hf
    refine ⟨n, fun m hn => ?_⟩
    obtain ⟨he, hs⟩ := he m hn
    exact ⟨by rw [he, hr], by rwa [hs], by rwa [hs]⟩
  have hm := h.marker.resolve_right fun hn => hm hn.1
  have hd : codec.decode (codec.encode c.journal ++ [newline]) ≠ some c'.journal := by
    rw [hc.decode]
    exact fun he => hj (Option.some.inj he).symm
  have hs := (wp_exec (wp_run_other (b := true) (p := p) hm hd) faults).2
  split at hs
  · exact hs.choose_spec (.target name) hn
  · exact hs.choose_spec (.target name) hn

-- The second file was cut short and the marker is still there.
theorem run_consistent_interrupted : ∃ t dir,
    (exampleCapture.captures (exampleCapture.run exampleCodec)).Run t dir ∧
    dir.lookup (.target "cost.json") = some (.file []) ∧
    (∃ n, ∀ m, n ≤ m →
      let e := (exampleCapture.run exampleCodec ⟨2, 20, 21⟩).run.exec (List.replicate m none) dir
      e.result = some (.ok ()) ∧ exampleCapture.artifacts.In e.state ∧ e.state.lookup .marker = none) ∧
    ∀ faults, ((otherCapture.run exampleCodec ⟨2, 20, 21⟩).run.exec
      faults dir).state.lookup (CaptureFile.target "cost.json") = some (.file []) := by
  let calls : List (CaptureProcess × List (Option IoFault)) := [(⟨1, 10, 11⟩, List.replicate 53 none)]
  let cutOff (dir : Directory CaptureFile) (_ : List (Option (Except String Unit))) : Bool :=
    dir.lookup (.target "cost.json") = some (.file []) ∧ dir.lookup .marker ≠ none ∧
    (⟨2, 20, 21⟩ : CaptureProcess).Fresh dir
  have hr : ((exampleCapture.captures (exampleCapture.run exampleCodec)).replay exampleDirectory calls).any
      (fun r => cutOff r.1 r.2) = true := by
    decide +kernel
  obtain ⟨t, dir, e, h⟩ := Machine.Steps.exists_of_replay_any (p := cutOff) calls hr
  obtain ⟨hl, hm, hk⟩ := of_decide_eq_true h
  obtain ⟨_, hretry, hother⟩ := run_consistent exampleCapture_canonical ⟨exampleCapture_scaffolded, e⟩
  refine ⟨t, dir, ⟨exampleCapture_scaffolded, e⟩, hl, hretry _ hk, fun faults => ?_⟩
  exact (hother otherCapture _ faults hm (by decide) "cost.json" (by decide)).trans hl

-- Without `validate_exact_placeholders` between the two.
def writeUnvalidated (codec : JournalCodec SupportingJournal) (c : SupportingCapture) (p : CaptureProcess) :
    ExceptT String CaptureProgram Unit := do
  match ← c.acquire codec with
  | .alreadyCommitted => return
  | .acquired         => c.writeArtifactsTransactional codec p

-- The second capture finds the artifacts of the first, but a read fails and they seem not to match. When
-- the second staged file cannot be read, only the first target gets its scaffold back.
theorem writeUnvalidated_inconsistent : ∃ t dir, Canonical exampleCodec exampleCapture ∧
    (exampleCapture.captures (exampleCapture.writeUnvalidated exampleCodec)).Run t dir ∧
    dir.lookup .marker = none ∧ ¬exampleCapture.expected.In dir ∧ ¬exampleCapture.artifacts.In dir := by
  let calls : List (CaptureProcess × List (Option IoFault)) :=
    [(⟨1, 10, 11⟩, List.replicate 100 none),
     (⟨2, 20, 21⟩, List.replicate 13 none ++ exampleFault :: List.replicate 25 none ++
        exampleFault :: List.replicate 20 none)]
  let inconsistent (dir : Directory CaptureFile) (_ : List (Option (Except String Unit))) : Bool :=
    dir.lookup .marker = none ∧ ¬exampleCapture.expected.In dir ∧ ¬exampleCapture.artifacts.In dir
  have hr : ((exampleCapture.captures (exampleCapture.writeUnvalidated exampleCodec)).replay exampleDirectory
      calls).any (fun r => inconsistent r.1 r.2) = true := by
    -- The characters of the journal are those of its literals, which the kernel need not decode.
    rw [exampleCodec, String.toList_append, String.toList_ofList, String.toList_ofList]
    decide +kernel
  obtain ⟨t, dir, e, h⟩ := Machine.Steps.exists_of_replay_any (p := inconsistent) calls hr
  exact ⟨t, dir, exampleCapture_canonical, ⟨exampleCapture_scaffolded, e⟩, of_decide_eq_true h⟩

end SupportingCapture
