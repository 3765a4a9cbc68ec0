import PersonaRuntime.Evaluation.Theorems.CaptureFiles

open Device Device.Program FileProgram CaptureProgram

-- A name that does not begin as the names of staged files do. Both are string literals.
theorem CaptureNames.isStaged_eq_false {n : CaptureNames} {file : CaptureFile} {l name : List Char}
    (hl : n.stagePrefix = .ofList l) (hn : n.fileName file = .ofList name) (h : ¬l <+: name) :
    n.isStaged file = false := by
  rw [isStaged, Bool.and_eq_false_iff, String.startsWith_string_eq_false_iff, hl, hn, String.toList_ofList,
    String.toList_ofList]
  exact .inl h

-- A codec that knows a single journal reads it back.
theorem JournalCodec.decode_encode {ι : Type} [DecidableEq ι] (journal : ι) (bytes : List UInt8) :
    let codec : JournalCodec ι :=
      { encode := fun j => if j = journal then bytes else []
        decode := fun read => if read = bytes ++ [newline] then some journal else none }
    codec.decode (codec.encode journal ++ [newline]) = some journal := by
  simp

-- What a capture works on. `journal` is what its marker holds.
structure CaptureScope where
  files          : List String
  journal        : List UInt8
  scaffold       : ArtifactSet
  artifacts      : ArtifactSet
  nodup          : files.Nodup
  scaffold_files : scaffold.map Prod.fst = files
  artifact_files : artifacts.map Prod.fst = files

-- No name that a process makes up appeared.
def NothingNew (dir dir' : Directory CaptureFile) : Prop :=
  ∀ p : CaptureProcess, p.Fresh dir → p.Fresh dir'

-- What recovery leaves as it is.
structure Kept (dir dir' : Directory CaptureFile) : Prop where
  lock       : dir'.lookup .lock = dir.lookup .lock
  nothingNew : NothingNew dir dir'

namespace CaptureScope

variable {s : CaptureScope} {dir dir' d₁ d₂ : Directory CaptureFile} {name : String} {bytes : List UInt8}

-- The files that outlive a process.
def Lasting (s : CaptureScope) : CaptureFile → Prop
  | .target name             => name ∈ s.files
  | .lock | .marker          => True
  | .stage .. | .journal ..  => False

-- While the targets are being replaced.
structure Replacing (s : CaptureScope) (dir : Directory CaptureFile) : Prop where
  regular : ∀ name ∈ s.files, ∃ bytes, dir.lookup (.target name) = some (.file bytes)
  lock    : dir.lookup .lock ≠ some .other
  marker  : dir.lookup .marker = some (.file s.journal)

-- What is true wherever a capture is cut off.
structure Sound (s : CaptureScope) (dir : Directory CaptureFile) : Prop where
  regular : ∀ name ∈ s.files, ∃ bytes, dir.lookup (.target name) = some (.file bytes)
  lock    : dir.lookup .lock ≠ some .other
  marker  : dir.lookup .marker = some (.file s.journal) ∨
    dir.lookup .marker = none ∧ (s.scaffold.In dir ∨ s.artifacts.In dir)

theorem scaffold_mem : ∀ f ∈ s.scaffold, f.1 ∈ s.files :=
  fun _ hf => s.scaffold_files ▸ List.mem_map_of_mem hf

theorem artifacts_mem : ∀ f ∈ s.artifacts, f.1 ∈ s.files :=
  fun _ hf => s.artifact_files ▸ List.mem_map_of_mem hf

theorem nodup_scaffold : (s.scaffold.map Prod.fst).Nodup :=
  s.scaffold_files ▸ s.nodup

theorem Replacing.sound (h : s.Replacing dir) : s.Sound dir :=
  ⟨h.regular, h.lock, .inl h.marker⟩

theorem sound_of_scaffold (h : s.scaffold.In dir) (hl : dir.lookup .lock ≠ some .other)
    (hm : dir.lookup .marker = none) : s.Sound dir := by
  refine ⟨fun name hn => ?_, hl, .inr ⟨hm, .inl h⟩⟩
  obtain ⟨f, hf, rfl⟩ := List.mem_map.mp (s.scaffold_files ▸ hn)
  exact ⟨f.2, h f hf⟩

theorem Replacing.agree (h : s.Replacing dir) (ha : dir.AgreeOn s.Lasting dir') : s.Replacing dir' where
  regular name hn := (ha (.target name) hn).symm ▸ h.regular name hn
  lock            := (ha .lock trivial).symm ▸ h.lock
  marker          := (ha .marker trivial).trans h.marker

theorem Sound.agree (h : s.Sound dir) (ha : dir.AgreeOn s.Lasting dir') : s.Sound dir' where
  regular name hn := (ha (.target name) hn).symm ▸ h.regular name hn
  lock            := (ha .lock trivial).symm ▸ h.lock
  marker          := (ha .marker trivial).symm ▸ h.marker.imp_right fun hm => hm.imp_right fun hs =>
    hs.imp (·.agree ha scaffold_mem) (·.agree ha artifacts_mem)

theorem Replacing.wrote (h : s.Replacing dir) (w : dir.Wrote (.target name) bytes dir') :
    s.Replacing dir' where
  regular name' hn := by
    by_cases he : name' = name
    case pos => exact ⟨bytes, he ▸ w.holds⟩
    case neg => exact (w.agree (.target name') (by simpa using he)).symm ▸ h.regular name' hn
  lock             := (w.agree .lock (by simp)).symm ▸ h.lock
  marker           := (w.agree .marker (by simp)).trans h.marker

-- Nothing but the lock changed, which is a file.
theorem Sound.lock_agree (h : s.Sound dir) (ha : dir.AgreeOn (· ≠ .lock) dir')
    (hl : dir'.lookup .lock ≠ some .other) : s.Sound dir' where
  regular name hn := (ha (.target name) (by simp)).symm ▸ h.regular name hn
  lock            := hl
  marker          := (ha .marker (by simp)).symm ▸ h.marker.imp_right fun hm => hm.imp_right fun hs =>
    hs.imp (·.agree ha (by simp)) (·.agree ha (by simp))

theorem Replacing.finish (h : s.Replacing dir) (hs : s.scaffold.In dir ∨ s.artifacts.In dir)
    (hr : dir.Removed .marker dir') : s.Sound dir' where
  regular name hn := (hr.agree (.target name) (by simp)).symm ▸ h.regular name hn
  lock            := (hr.agree .lock (by simp)).symm ▸ h.lock
  marker          := .inr ⟨hr.gone, hs.imp (·.agree hr.agree (by simp)) (·.agree hr.agree (by simp))⟩

theorem Sound.marked {keep : CaptureFile → Prop} (h : s.Sound dir) (hk : ∀ path, s.Lasting path → keep path)
    (hm : Marked keep s.journal dir dir') : s.Replacing dir' where
  regular name hn := (hm.agree (.target name) ⟨hk _ hn, by simp⟩).symm ▸ h.regular name hn
  lock            := (hm.agree .lock ⟨hk _ trivial, by simp⟩).symm ▸ h.lock
  marker          := hm.marker

end CaptureScope

variable {s : CaptureScope} {dir dir' d₁ d₂ : Directory CaptureFile} {b : Bool}

theorem NothingNew.refl : NothingNew dir dir :=
  fun _ => id

theorem NothingNew.trans (h : NothingNew dir d₁) (h' : NothingNew d₁ d₂) : NothingNew dir d₂ :=
  fun p hf => h' p (h p hf)

theorem NothingNew.of_agreeOn (path : CaptureFile) (hl : s.Lasting path) (ha : dir.AgreeOn (· ≠ path) dir') :
    NothingNew dir dir' := by
  refine fun p hf => ⟨fun i => (ha _ ?_).trans (hf.stage i), (ha _ ?_).trans hf.journal⟩
  all_goals
    rintro rfl
    exact hl

theorem NothingNew.of_shrank (hs : dir.Shrank dir') : NothingNew dir dir' :=
  fun _ hf => ⟨fun i => hs _ (hf.stage i), hs _ hf.journal⟩

theorem Kept.refl : Kept dir dir :=
  ⟨rfl, .refl⟩

theorem Kept.trans (h : Kept dir d₁) (h' : Kept d₁ d₂) : Kept dir d₂ :=
  ⟨h'.lock.trans h.lock, h.nothingNew.trans h'.nothingNew⟩

theorem Kept.of_agreeOn (path : CaptureFile) (hl : s.Lasting path) (hn : path ≠ .lock)
    (ha : dir.AgreeOn (· ≠ path) dir') : Kept dir dir' :=
  ⟨ha .lock hn.symm, .of_agreeOn path hl ha⟩

theorem Kept.of_shrank (ha : dir.AgreeOn s.Lasting dir') (hs : dir.Shrank dir') : Kept dir dir' :=
  ⟨ha .lock trivial, .of_shrank hs⟩

namespace CaptureScope

theorem wp_removeMarker {Q : Bool → Except IoErrorKind Unit → Directory CaptureFile → Prop}
    (h : s.Replacing dir) (hs : s.scaffold.In dir ∨ s.artifacts.In dir)
    (ho : ∀ dir', s.Sound dir' → dir.Removed .marker dir' → Q b (.ok ()) dir')
    (he : ∀ k dir', s.Sound dir' → Kept dir dir' → Q false (.error k) dir') :
    wp (fun _ => s.Sound) Q b (edit (.removeFile .marker)).run dir := by
  refine wp_removeFile h.marker h.sound (fun d₁ hr => ho d₁ (h.finish hs hr) hr) ?_
  rintro k d₁ (rfl | hr)
  · exact he k _ h.sound .refl
  · exact he k d₁ (h.finish hs hr) (.of_agreeOn (s := s) .marker trivial (by simp) hr.agree)

end CaptureScope
