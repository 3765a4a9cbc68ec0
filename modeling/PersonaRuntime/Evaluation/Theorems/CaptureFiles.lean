import PersonaRuntime.Evaluation.CaptureFiles

open Device Device.Program FileProgram

-- Whether a name is one that the process makes up.
def CaptureFile.isOf (p : CaptureProcess) : CaptureFile → Bool
  | .stage pid nonce _ => pid = p.pid ∧ nonce = p.stageNonce
  | .journal pid nonce => pid = p.pid ∧ nonce = p.journalNonce
  | _                  => false

theorem CaptureProcess.fresh_iff {p : CaptureProcess} {dir : Directory CaptureFile} :
    p.Fresh dir ↔ ∀ path ∈ dir.keys, path.isOf p = false := by
  constructor
  case mp =>
    intro h path hm
    refine Bool.eq_false_iff.mpr fun hp => ?_
    have hn : dir.lookup path ≠ none := fun hn => AList.lookup_eq_none.mp hn (AList.mem_keys.mpr hm)
    cases path <;> simp only [CaptureFile.isOf, decide_eq_true_eq, Bool.false_eq_true] at hp
    case stage   => exact hn (hp.1 ▸ hp.2 ▸ h.stage _)
    case journal => exact hn (hp.1 ▸ hp.2 ▸ h.journal)
  case mpr =>
    intro h
    have hn {path : CaptureFile} (hp : path.isOf p = true) : dir.lookup path = none :=
      AList.lookup_eq_none.mpr fun hm => by simp [h path (AList.mem_keys.mp hm)] at hp
    exact ⟨fun i => hn (by simp [CaptureFile.isOf]), hn (by simp [CaptureFile.isOf])⟩

instance {p : CaptureProcess} {dir : Directory CaptureFile} : Decidable (p.Fresh dir) :=
  decidable_of_iff _ CaptureProcess.fresh_iff.symm

namespace ArtifactSet

variable {files : ArtifactSet} {dir dir' : Directory CaptureFile} {keep : CaptureFile → Prop}

theorem In.agree (h : files.In dir) (ha : dir.AgreeOn keep dir') (hk : ∀ f ∈ files, keep (.target f.1)) :
    files.In dir' :=
  fun f hf => (ha _ (hk f hf)).trans (h f hf)

theorem in_cons {name : String} {bytes : List UInt8} :
    In ((name, bytes) :: files) dir ↔ dir.lookup (.target name) = some (.file bytes) ∧ files.In dir :=
  List.forall_mem_cons

theorem in_append {files' : ArtifactSet} : In (files ++ files') dir ↔ files.In dir ∧ files'.In dir :=
  List.forall_mem_append

theorem In.wrote {name : String} {bytes : List UInt8} (h : files.In dir)
    (w : dir.Wrote (.target name) bytes dir') (hn : name ∉ files.map Prod.fst) : files.In dir' := by
  refine h.agree w.agree fun f hf he => hn ?_
  exact CaptureFile.target.inj he ▸ List.mem_map_of_mem hf

end ArtifactSet

namespace CaptureProgram

variable {G : FileOp CaptureFile → Directory CaptureFile → Prop} {b : Bool} {ε ε' α : Type}
  {dir : Directory CaptureFile} {path : CaptureFile} {bytes : List UInt8}

@[simp]
theorem wp_attempt {Q : Bool → Except ε' (Except ε α) → Directory CaptureFile → Prop}
    {x : ExceptT ε CaptureProgram α} :
    wp G Q b (attempt x : ExceptT ε' CaptureProgram (Except ε α)).run dir ↔
    wp G (fun b r dir => Q b (.ok r) dir) b x.run dir :=
  wp_lift

theorem wp_attempt_bind {β : Type} {Q : Bool → Except ε' β → Directory CaptureFile → Prop}
    {x : ExceptT ε CaptureProgram α} {f : Except ε α → ExceptT ε' CaptureProgram β} :
    wp G Q b (attempt x >>= f).run dir ↔ wp G (fun b r dir => wp G Q b (f r).run dir) b x.run dir :=
  wp_lift_bind

theorem wp_orFail {Q : Bool → Except String α → Directory CaptureFile → Prop} {code : String}
    {x : ExceptT IoErrorKind CaptureProgram α} :
    wp G Q b (orFail code x).run dir ↔
    wp G (fun b r dir => r.either (fun _ => Q b (.error code) dir) (fun a => Q b (.ok a) dir)) b x.run dir := by
  rw [orFail, wp_attempt_bind]
  refine ⟨fun h => wp_mono h ?_, fun h => wp_mono h ?_⟩
  all_goals
    intro _ r _ h
    cases r <;> exact h

theorem wp_orFail_bind {β : Type} {Q : Bool → Except String β → Directory CaptureFile → Prop} {code : String}
    {x : ExceptT IoErrorKind CaptureProgram α} {f : α → ExceptT String CaptureProgram β} :
    wp G Q b (orFail code x >>= f).run dir ↔
    wp G (fun b r dir => r.either (fun _ => Q b (.error code) dir) (fun a => wp G Q b (f a).run dir))
      b x.run dir := by
  rw [wp_bindExcept, wp_orFail]
  refine ⟨fun h => wp_mono h ?_, fun h => wp_mono h ?_⟩
  all_goals
    intro _ r _ h
    cases r <;> exact h

theorem wp_ignore {Q : Bool → Unit → Directory CaptureFile → Prop}
    {x : ExceptT IoErrorKind CaptureProgram Unit} :
    wp G Q b (ignore x) dir ↔ wp G (fun b _ dir => Q b () dir) b x.run dir :=
  wp_bind

theorem only_attempt {P : FileOp CaptureFile → Prop} {x : ExceptT ε CaptureProgram α} (h : x.run.Only P) :
    (attempt x : ExceptT ε' CaptureProgram (Except ε α)).run.Only P :=
  only_bind h fun _ => trivial

theorem only_orFail {P : FileOp CaptureFile → Prop} {x : ExceptT IoErrorKind CaptureProgram α} {code : String}
    (h : x.run.Only P) : (orFail code x).run.Only P := by
  refine only_bindExcept (only_attempt h) fun r => ?_
  cases r <;> trivial

theorem only_artifactsMatch {P : FileOp CaptureFile → Prop} (hr : ∀ path, P (.read path)) (files : ArtifactSet) :
    (artifactsMatch files).Only P := by
  induction files
  case nil => trivial
  case cons f rest hi =>
    refine only_bind (only_bind ⟨hr _, fun _ => trivial⟩ fun r => ?_) fun held => ?_
    · cases r <;> trivial
    · cases held
      case false => trivial
      case true  => exact hi

theorem wp_holds {Q : Bool → Bool → Directory CaptureFile → Prop} (hg : G (.read path) dir)
    (ht : dir.lookup path = some (.file bytes) → Q b true dir)
    (hn : dir.lookup path ≠ some (.file bytes) → Q b false dir) (hf : Q false false dir) :
    wp G Q b (holds path bytes) dir := by
  rw [holds, wp_bind]
  refine wp_read hg (fun actual h => ?_) (fun h k => hn (h bytes)) fun _ => hf
  by_cases he : actual = bytes
  · simpa [he] using ht (he ▸ h)
  · simpa [he] using hn (by simpa [h] using he)

theorem wp_artifactsMatch {Q : Bool → Bool → Directory CaptureFile → Prop} (files : ArtifactSet)
    (hg : ∀ path, G (.read path) dir) (ht : files.In dir → Q b true dir)
    (hn : ¬files.In dir → Q b false dir) (hf : Q false false dir) :
    wp G Q b (artifactsMatch files) dir := by
  induction files
  case nil => exact ht (by simp [ArtifactSet.In])
  case cons f rest hi =>
    rw [artifactsMatch, wp_bind]
    refine wp_holds (hg _) (fun h => ?_) (fun h => ?_) hf
    · simp only [if_true]
      exact hi (fun hr => ht (ArtifactSet.in_cons.mpr ⟨h, hr⟩))
        fun hr => hn fun hc => hr (ArtifactSet.in_cons.mp hc).2
    · exact hn fun hc => h (ArtifactSet.in_cons.mp hc).1

-- A write that stops leaves the old content or a part of the new one.
theorem wp_overwriteSynced {Q : Bool → Except IoErrorKind Unit → Directory CaptureFile → Prop}
    {old : List UInt8} (h : dir.lookup path = some (.file old))
    (hi : G (.isFile path) dir) (ht : G (.edit (.truncate path)) dir)
    (hw : ∀ dir', dir.Wrote path [] dir' → G (.edit (.writeAll path bytes)) dir')
    (hs : ∀ dir', dir.Wrote path bytes dir' → G (.edit (.syncAll path)) dir')
    (ho : ∀ dir', dir.Wrote path bytes dir' → Q b (.ok ()) dir')
    (he : ∀ k part dir', part = old ∨ part <+: bytes → dir.Wrote path part dir' → Q false (.error k) dir') :
    wp G Q b (overwriteSynced path bytes).run dir := by
  rw [overwriteSynced, wp_bindExcept]
  refine wp_isFile hi ?file (by simp [h]) (by simp [h]) fun k => he k old dir (.inl rfl) (.refl h)
  intro _
  simp only [Except.either_ok, if_true, wp_bindExcept]
  refine wp_truncate h ht (fun d₁ w₁ => ?_) ?_
  case refine_2 =>
    rintro k d₁ (rfl | w₁)
    · exact he k old _ (.inl rfl) (.refl h)
    · exact he k [] d₁ (.inr List.nil_prefix) w₁
  simp only [Except.either_ok]
  refine wp_writeAll w₁.holds (hw d₁ w₁) (fun d₂ w₂ => ?_) fun k part d₂ hp w₂ => ?_
  case refine_2 => exact he k part d₂ (.inr hp) (w₁.trans w₂)
  have w := w₁.trans w₂
  exact wp_syncAll (hs d₂ w) (ho d₂ w) fun k => he k bytes d₂ (.inr List.prefix_rfl) w

section Scratch

-- The files that are made up, which nothing but their process looks at.
variable {keep : CaptureFile → Prop}

theorem only_removeFile {P : FileOp CaptureFile → Prop} (h : P (.edit (.removeFile path))) :
    (ignore (edit (.removeFile path))).Only P :=
  only_bind ⟨h, fun _ => trivial⟩ fun _ => trivial

theorem only_cleanup {P : FileOp CaptureFile → Prop} {paths : List CaptureFile}
    (h : ∀ path ∈ paths, P (.edit (.removeFile path))) : (cleanup paths).Only P := by
  induction paths
  case nil => trivial
  case cons path paths hi =>
    obtain ⟨hp, hr⟩ := List.forall_mem_cons.mp h
    exact only_bind (only_removeFile hp) fun _ => hi hr

theorem removes_removeFile (hp : ¬keep path) :
    (∀ q, (FileOp.edit (.removeFile path)).writes = some q → ¬keep q) ∧
    (FileOp.edit (.removeFile path)).removes :=
  ⟨fun _ hq => Option.some.inj hq ▸ hp, trivial⟩

theorem wp_cleanup {Q : Bool → Unit → Directory CaptureFile → Prop} {paths : List CaptureFile}
    (hp : ∀ path ∈ paths, ¬keep path)
    (hg : ∀ o dir', (∀ path, o.writes = some path → ¬keep path) → dir.AgreeOn keep dir' → G o dir')
    (hq : ∀ b' dir', (b' = true → b = true) → dir.AgreeOn keep dir' → Q b' () dir') :
    wp G Q b (cleanup paths) dir :=
  wp_remove keep (only_cleanup fun path hm => removes_removeFile (hp path hm)) hg
    fun b' _ dir' hb ha _ => hq b' dir' hb ha

theorem wp_cleanupStaged {Q : Bool → Unit → Directory CaptureFile → Prop} {names : CaptureNames}
    (hp : ∀ path, keep path → names.isStaged path = false)
    (hg : ∀ o dir', (∀ path, o.writes = some path → ¬keep path) → dir.AgreeOn keep dir' → G o dir')
    (hq : ∀ b' dir', (b' = true → b = true) → dir.AgreeOn keep dir' → dir.Shrank dir' → Q b' () dir') :
    wp G Q b (cleanupStaged names) dir := by
  refine wp_remove keep (only_bind ⟨⟨by simp [FileOp.writes], trivial⟩, fun _ => trivial⟩ fun entries => ?_)
    hg fun b' _ => hq b'
  refine only_cleanup fun path hm => removes_removeFile fun hk => ?_
  simp [hp path hk] at hm

variable (hg : ∀ o dir', (∀ path, o.writes = some path → ¬keep path) → dir.AgreeOn keep dir' → G o dir')

include hg in
theorem wp_writeNewSyncedIo {Q : Bool → Except IoErrorKind Unit → Directory CaptureFile → Prop}
    (hp : ¬keep path) (ho : ∀ dir', dir.Wrote path bytes dir' → Q b (.ok ()) dir')
    (he : ∀ b' k dir', (b' = true → b = true ∧ dir.lookup path ≠ none) → dir.AgreeOn (· ≠ path) dir' →
      Q b' (.error k) dir') :
    wp G Q b (writeNewSyncedIo path bytes).run dir := by
  have hg' {e : FileEdit CaptureFile} {dir' : Directory CaptureFile} (hw : e.writes = some path)
      (ha : dir.AgreeOn (· ≠ path) dir') : G (.edit e) dir' :=
    hg _ dir' (by simp [FileOp.writes, hw, hp]) (ha.mono fun _ hk he => hp (he ▸ hk))
  rw [writeNewSyncedIo, wp_bindExcept]
  refine wp_createNew (hg' rfl .refl) (fun _ d₁ w₁ => ?_) (fun h => he b _ dir (fun hb => ⟨hb, h⟩) .refl)
    fun k d₁ ha => he false k d₁ (by simp) ha
  simp only [Except.either_ok, wp_bindExcept]
  refine wp_writeAll w₁.holds (hg' rfl w₁.agree) (fun d₂ w₂ => ?_)
    fun k part d₂ _ w₂ => he false k d₂ (by simp) (w₁.trans w₂).agree
  have w := w₁.trans w₂
  exact wp_syncAll (hg _ d₂ (by simp [FileOp.writes, FileEdit.writes]) (w.agreeOn hp)) (ho d₂ w)
    fun k => he false k d₂ (by simp) w.agree

end Scratch

-- What both ways to write a staged file do.
def WritesNew (writeNewSynced : CaptureFile → List UInt8 → ExceptT String CaptureProgram Unit) : Prop :=
  ∀ {G : FileOp CaptureFile → Directory CaptureFile → Prop} {Q : Bool → Except String Unit → _ → Prop}
    {keep : CaptureFile → Prop} {b dir path bytes}, ¬keep path →
    (∀ o dir', (∀ path, o.writes = some path → ¬keep path) → dir.AgreeOn keep dir' → G o dir') →
    (∀ dir', dir.Wrote path bytes dir' → Q b (.ok ()) dir') →
    (∀ b' code dir', (b' = true → b = true ∧ dir.lookup path ≠ none) → dir.AgreeOn (· ≠ path) dir' →
      Q b' (.error code) dir') →
    wp G Q b (writeNewSynced path bytes).run dir

theorem wp_stageArtifacts {accepts : String → Bool} {p : CaptureProcess} {staged : List CaptureFile}
    {writeNewSynced : CaptureFile → List UInt8 → ExceptT String CaptureProgram Unit}
    (hw : WritesNew writeNewSynced) (keep : CaptureFile → Prop) (files : ArtifactSet)
    {Q : Bool → Except String (List CaptureFile) → Directory CaptureFile → Prop}
    (hk : ∀ i, ¬keep (.stage p.pid p.stageNonce i))
    (hs : ∀ path ∈ staged, ¬keep path)
    (hg : ∀ o dir', (∀ path, o.writes = some path → ¬keep path) → dir.AgreeOn keep dir' → G o dir')
    (ho : ∀ new dir',
      dir.AgreeOn (fun path => ∀ i, staged.length ≤ i → path ≠ .stage p.pid p.stageNonce i) dir' →
      List.Forall₂ (fun f path => dir'.lookup path = some (.file f.2)) files new →
      (∀ path ∈ staged ++ new, ¬keep path) → Q b (.ok (staged ++ new)) dir')
    (he : ∀ b' code dir',
      (b' = true → b = true ∧ ((∃ f ∈ files, accepts f.1 = false) ∨
        ∃ i, staged.length ≤ i ∧ dir.lookup (.stage p.pid p.stageNonce i) ≠ none)) →
      dir.AgreeOn keep dir' → Q b' (.error code) dir') :
    wp G Q b (stageArtifacts accepts writeNewSynced p staged files).run dir := by
  induction files generalizing staged dir
  case nil =>
    have := ho [] dir .refl .nil (by simpa using hs)
    rwa [List.append_nil] at this
  case cons f rest hi =>
    by_cases hf : accepts f.1 = true
    case neg =>
      rw [stageArtifacts, if_neg hf, wp_lift_bind]
      refine wp_cleanup hs hg fun b' d₁ hb ha => he b' _ d₁ (fun h => ⟨hb h, .inl ⟨f, ?_, ?_⟩⟩) ha
      · exact List.mem_cons_self
      · simpa using hf
    let path := CaptureFile.stage p.pid p.stageNonce staged.length
    rw [stageArtifacts, if_pos hf, wp_bindExcept, wp_attempt]
    refine hw (hk _) hg (fun d₁ w₁ => ?_) fun b' code d₁ hb ha => ?_
    case refine_2 =>
      have ha : dir.AgreeOn keep d₁ := ha.mono fun _ hp he => hk _ (he ▸ hp)
      simp only [Except.either_ok, wp_bindExcept, wp_lift]
      refine wp_cleanup hs (fun o d₂ ho h₂ => hg o d₂ ho (ha.trans h₂)) fun b'' d₂ hb' h₂ => ?_
      exact he b'' code d₂ (fun h => (hb (hb' h)).imp_right fun h => .inr ⟨_, le_rfl, h⟩) (ha.trans h₂)
    have ha : dir.AgreeOn keep d₁ := w₁.agreeOn (hk _)
    have hl {i : Nat} (h : staged.length < i) :
        d₁.lookup (.stage p.pid p.stageNonce i) = dir.lookup (.stage p.pid p.stageNonce i) :=
      w₁.agree _ (by simp; omega)
    refine hi ?_ (fun o d₂ ho h₂ => hg o d₂ ho (ha.trans h₂)) (fun new d₂ h₂ hn hu => ?_)
      fun b' code d₂ hb h₂ => ?_
    case refine_1 =>
      rintro q hq
      obtain hq | rfl := by simpa using hq
      · exact hs q hq
      · exact hk _
    case refine_2 =>
      have hp : d₂.lookup path = some (.file f.2) :=
        (h₂ path (by simp [path]; omega)).trans w₁.holds
      have ha : dir.AgreeOn (fun path => ∀ i, staged.length ≤ i → path ≠ .stage p.pid p.stageNonce i) d₂ :=
        fun q hq => (h₂ q fun i hi => hq i (by simp at hi; omega)).trans (w₁.agree q (hq _ le_rfl))
      have hq := ho (path :: new) d₂ ha (.cons hp hn) (by simpa using hu)
      rwa [List.append_cons] at hq
    case refine_3 =>
      refine he b' code d₂ (fun h => (hb h).imp_right ?_) (ha.trans h₂)
      rintro (⟨g, hg, hn⟩ | ⟨i, hi, hn⟩)
      · exact .inl ⟨g, List.mem_cons_of_mem f hg, hn⟩
      · have hi : staged.length + 1 ≤ i := by simpa using hi
        have hl := hl (Nat.lt_of_succ_le hi)
        exact .inr ⟨i, by omega, hl ▸ hn⟩

-- The marker appeared where there was none.
structure Marked (keep : CaptureFile → Prop) (bytes : List UInt8) (dir dir' : Directory CaptureFile) :
    Prop where
  unmarked : dir.lookup .marker = none
  agree    : dir.AgreeOn (fun path => keep path ∧ path ≠ .marker) dir'
  marker   : dir'.lookup .marker = some (.file bytes)

theorem Marked.trans {keep : CaptureFile → Prop} {d₁ d₂ : Directory CaptureFile}
    (h : Marked keep bytes dir d₁) (ha : d₁.AgreeOn keep d₂) (hm : keep .marker) :
    Marked keep bytes dir d₂ :=
  ⟨h.unmarked, h.agree.trans (ha.mono fun _ hp => hp.1), (ha _ hm).trans h.marker⟩

theorem wp_createJournal {ι : Type} {codec : JournalCodec ι} {p : CaptureProcess} {journal : ι}
    (keep : CaptureFile → Prop) {Q : Bool → Except IoErrorKind Unit → Directory CaptureFile → Prop}
    (hm : keep .marker) (ht : ¬keep (.journal p.pid p.journalNonce))
    (hg : ∀ o dir', (∀ path, o.writes = some path → keep path → path = .marker) →
      dir.AgreeOn keep dir' ∨ Marked keep (codec.encode journal ++ [newline]) dir dir' → G o dir')
    (ho : ∀ b' dir', (b' = true → b = true) → Marked keep (codec.encode journal ++ [newline]) dir dir' →
      Q b' (.ok ()) dir')
    (he : ∀ b' k dir', (b' = true → b = true ∧
        (dir.lookup (.journal p.pid p.journalNonce) ≠ none ∨ dir.lookup .marker ≠ none)) →
      dir.AgreeOn keep dir' ∨ Marked keep (codec.encode journal ++ [newline]) dir dir' →
      Q b' (.error k) dir') :
    wp G Q b (createJournal codec p journal) dir := by
  let temp := CaptureFile.journal p.pid p.journalNonce
  let S (dir' : Directory CaptureFile) : Prop :=
    dir.AgreeOn keep dir' ∨ Marked keep (codec.encode journal ++ [newline]) dir dir'
  have hs {d₁ d₂ : Directory CaptureFile} (h : S d₁) (ha : d₁.AgreeOn keep d₂) : S d₂ :=
    h.imp (fun h => h.trans ha) fun h => h.trans ha hm
  -- The temporary name goes whether or not the marker could be made.
  have hr {b₁ : Bool} {r : Except IoErrorKind Unit} {d₁ : Directory CaptureFile} (h : S d₁)
      (hq : ∀ b' d₂, (b' = true → b₁ = true) → d₁.AgreeOn keep d₂ → Q b' r d₂) :
      wp G (fun b' _ dir' => Q b' r dir') b₁ (ignore (edit (.removeFile temp))) d₁ := by
    refine wp_keep keep (only_removeFile (removes_removeFile ht).1) ?_ fun b' _ => hq b'
    · exact fun o d₂ hw ha => hg o d₂ (fun path hp hk => absurd hk (hw path hp)) (hs h ha)
  rw [createJournal, wp_bind, wp_bindExcept]
  simp only [wp_bind, wp_pure]
  refine wp_writeNewSyncedIo (fun o d₁ hw ha => hg o d₁ (fun path hp hk => absurd hk (hw path hp)) (.inl ha))
    ht (fun d₁ w₁ => ?_) fun b' k d₁ hb ha => ?_
  case refine_2 =>
    have ha : dir.AgreeOn keep d₁ := ha.mono fun _ hk he => ht (he ▸ hk)
    exact hr (.inl ha) fun b'' d₂ hb' ha' =>
      he b'' k d₂ (fun h => (hb (hb' h)).imp_right .inl) (.inl (ha.trans ha'))
  have ha : dir.AgreeOn keep d₁ := w₁.agreeOn ht
  have hm₁ : d₁.lookup .marker = dir.lookup .marker := ha _ hm
  refine wp_hardLink w₁.holds (hg _ d₁ (by simp [FileOp.writes, FileEdit.writes]) (.inl ha))
    (fun hn d₂ w₂ => ?_) (fun hn => ?_) fun k d₂ h₂ => ?_
  case refine_1 =>
    have hd : Marked keep (codec.encode journal ++ [newline]) dir d₂ :=
      ⟨hm₁ ▸ hn, (ha.mono fun _ hp => hp.1).trans (w₂.agreeOn fun hp => hp.2 rfl), w₂.holds⟩
    exact hr (.inr hd) fun b' d₃ hb ha' => ho b' d₃ hb (hd.trans ha' hm)
  case refine_2 =>
    exact hr (.inl ha) fun b' d₂ hb ha' =>
      he b' _ d₂ (fun h => ⟨hb h, .inr (hm₁ ▸ hn)⟩) (.inl (ha.trans ha'))
  case refine_3 =>
    have hd : S d₂ := by
      obtain rfl | ⟨hn, w₂⟩ := h₂
      · exact .inl ha
      · exact .inr ⟨hm₁ ▸ hn, (ha.mono fun _ hp => hp.1).trans (w₂.agreeOn fun hp => hp.2 rfl), w₂.holds⟩
    exact hr hd fun b' d₃ hb ha' => he b' k d₃ (fun h => by simpa using hb h) (hs hd ha')

end CaptureProgram
