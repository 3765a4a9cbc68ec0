import Mathlib.Data.List.AList
import PersonaRuntime.Machine.Device

-- What a path of a directory leads to. `other` is anything that is not a regular file.
inductive DirEntry
  | file (bytes : List UInt8)
  | other
deriving DecidableEq

abbrev Directory (κ : Type) := AList (fun _ : κ => DirEntry)

inductive IoErrorKind
  | alreadyExists
  | notFound
  | wouldBlock
  | other
deriving DecidableEq

-- How an operation fails, and how much it has done by then.
structure IoFault where
  kind     : IoErrorKind
  progress : Nat
deriving DecidableEq

inductive FileEdit (κ : Type)
  -- `OpenOptions::new().create(true).truncate(false)`
  | create (path : κ)
  -- `OpenOptions::new().create_new(true)`
  | createNew (path : κ)
  -- `OpenOptions::new().truncate(true)`, and `File::set_len(0)`
  | truncate (path : κ)
  -- `OpenOptions::new().create(true).truncate(true)`
  | createTruncate (path : κ)
  -- `FileExt::try_lock_exclusive`
  | tryLock (path : κ)
  -- `File::write_all` at the end of the file.
  | writeAll (path : κ) (bytes : List UInt8)
  -- `File::sync_all`
  | syncAll (path : κ)
  -- `fs::hard_link`, for a file that nobody writes to after that.
  | hardLink (original link : κ)
  -- `fs::remove_file`
  | removeFile (path : κ)
deriving DecidableEq

inductive FileOp (κ : Type)
  -- `Path::exists`
  | pathExists (path : κ)
  -- `fs::symlink_metadata(path)?.file_type().is_file()`
  | isFile (path : κ)
  -- `fs::read`
  | read (path : κ)
  -- `fs::read_dir(root)`, of which the entries that cannot be read are skipped.
  | readDir
  | edit (e : FileEdit κ)
deriving DecidableEq

variable {κ : Type}

-- What a step may not change.
def Directory.AgreeOn [DecidableEq κ] (keep : κ → Prop) (dir dir' : Directory κ) : Prop :=
  ∀ path, keep path → dir'.lookup path = dir.lookup path

-- Nothing new appeared.
def Directory.Shrank [DecidableEq κ] (dir dir' : Directory κ) : Prop :=
  ∀ path, dir.lookup path = none → dir'.lookup path = none

namespace Directory.AgreeOn

variable [DecidableEq κ] {keep keep' : κ → Prop} {dir dir₁ dir₂ : Directory κ}

theorem refl : dir.AgreeOn keep dir :=
  fun _ _ => rfl

theorem trans (h₁ : dir.AgreeOn keep dir₁) (h₂ : dir₁.AgreeOn keep dir₂) : dir.AgreeOn keep dir₂ :=
  fun path hk => (h₂ path hk).trans (h₁ path hk)

theorem mono (h : dir.AgreeOn keep dir₁) (hk : ∀ path, keep' path → keep path) : dir.AgreeOn keep' dir₁ :=
  fun path hp => h path (hk path hp)

end Directory.AgreeOn

-- Only one path changed, to a file with these bytes.
structure Directory.Wrote [DecidableEq κ] (path : κ) (bytes : List UInt8) (dir dir' : Directory κ) :
    Prop where
  agree : dir.AgreeOn (· ≠ path) dir'
  holds : dir'.lookup path = some (.file bytes)

-- Only one path changed, to nothing.
structure Directory.Removed [DecidableEq κ] (path : κ) (dir dir' : Directory κ) : Prop where
  agree : dir.AgreeOn (· ≠ path) dir'
  gone  : dir'.lookup path = none

namespace Directory.Wrote

variable [DecidableEq κ] {path : κ} {bytes bytes' : List UInt8} {dir dir₁ dir₂ : Directory κ}

theorem refl (h : dir.lookup path = some (.file bytes)) : dir.Wrote path bytes dir :=
  ⟨.refl, h⟩

theorem insert : dir.Wrote path bytes (AList.insert path (.file bytes) dir) :=
  ⟨fun _ h => AList.lookup_insert_ne h, AList.lookup_insert _⟩

theorem trans (h₁ : dir.Wrote path bytes dir₁) (h₂ : dir₁.Wrote path bytes' dir₂) :
    dir.Wrote path bytes' dir₂ :=
  ⟨h₁.agree.trans h₂.agree, h₂.holds⟩

theorem agreeOn {keep : κ → Prop} (h : dir.Wrote path bytes dir₁) (hk : ¬keep path) :
    dir.AgreeOn keep dir₁ :=
  h.agree.mono fun _ hp he => hk (he ▸ hp)

end Directory.Wrote

theorem Directory.Removed.erase [DecidableEq κ] {path : κ} {dir : Directory κ} :
    dir.Removed path (AList.erase path dir) :=
  ⟨fun _ h => AList.lookup_erase_ne h, AList.lookup_erase path dir⟩

namespace FileEdit

-- The path at which an edit may change something.
def writes : FileEdit κ → Option κ
  | create path | createNew path | truncate path | createTruncate path => some path
  | writeAll path _ | hardLink _ path | removeFile path                => some path
  | tryLock _ | syncAll _                                              => none

-- What a failing edit has done. Only a write has parts.
def partly (n : Nat) : FileEdit κ → FileEdit κ
  | writeAll path bytes => writeAll path (bytes.take n)
  | e                   => e

variable [DecidableEq κ]

def apply (e : FileEdit κ) (dir : Directory κ) : Except IoErrorKind (Directory κ) :=
  match e with
  | create path =>
    match dir.lookup path with
    | none           => .ok (dir.insert path (.file []))
    | some (.file _) => .ok dir
    | some .other    => .error .other
  | createNew path =>
    match dir.lookup path with
    | none   => .ok (dir.insert path (.file []))
    | some _ => .error .alreadyExists
  | truncate path =>
    match dir.lookup path with
    | none           => .error .notFound
    | some (.file _) => .ok (dir.insert path (.file []))
    | some .other    => .error .other
  | createTruncate path =>
    match dir.lookup path with
    | none           => .ok (dir.insert path (.file []))
    | some (.file _) => .ok (dir.insert path (.file []))
    | some .other    => .error .other
  | writeAll path bytes =>
    match dir.lookup path with
    | none                => .error .notFound
    | some (.file before) => .ok (dir.insert path (.file (before ++ bytes)))
    | some .other         => .error .other
  | hardLink original link =>
    match dir.lookup original with
    | none       => .error .notFound
    | some entry => if (dir.lookup link).isSome then .error .alreadyExists else .ok (dir.insert link entry)
  | removeFile path =>
    match dir.lookup path with
    | none           => .error .notFound
    | some (.file _) => .ok (dir.erase path)
    | some .other    => .error .other
  | tryLock _ | syncAll _ => .ok dir

def faulted (f : IoFault) (e : FileEdit κ) (dir : Directory κ) : Directory κ :=
  if f.progress = 0 then dir else ((e.partly f.progress).apply dir).either (fun _ => dir) id

variable {e : FileEdit κ} {dir dir' : Directory κ} {path : κ}

omit [DecidableEq κ] in
theorem partly_writes (n : Nat) : (e.partly n).writes = e.writes := by
  cases e <;> rfl

theorem lookup_apply (hw : e.writes ≠ some path) (h : e.apply dir = .ok dir') :
    dir'.lookup path = dir.lookup path := by
  have hn {p : κ} (h : some p ≠ some path) : path ≠ p := fun he => h (he ▸ rfl)
  cases e <;> simp only [apply] at h
  case tryLock | syncAll => cases h; rfl
  case hardLink =>
    split at h
    case h_1 => cases h
    case h_2 =>
      split at h <;> cases h
      exact AList.lookup_insert_ne (hn hw)
  case removeFile =>
    split at h <;> cases h
    exact AList.lookup_erase_ne (hn hw)
  all_goals
    split at h <;> cases h <;> first | rfl | exact AList.lookup_insert_ne (hn hw)

theorem faulted_eq (e : FileEdit κ) (f : IoFault) (dir : Directory κ) :
    e.faulted f dir = dir ∨ (e.partly f.progress).apply dir = .ok (e.faulted f dir) := by
  simp only [faulted]
  split
  case isTrue  => exact .inl rfl
  case isFalse => cases h : (e.partly f.progress).apply dir <;> simp [Except.either]

theorem apply_agreeOn {keep : κ → Prop} (hw : ∀ path, e.writes = some path → ¬keep path)
    (h : e.apply dir = .ok dir') : dir.AgreeOn keep dir' :=
  fun path hk => lookup_apply (fun he => hw path he hk) h

theorem lookup_faulted (f : IoFault) (hw : e.writes ≠ some path) :
    (e.faulted f dir).lookup path = dir.lookup path := by
  obtain h | h := e.faulted_eq f dir
  · rw [h]
  · exact lookup_apply (by rwa [partly_writes]) h

theorem faulted_agreeOn {keep : κ → Prop} (f : IoFault) (hw : ∀ path, e.writes = some path → ¬keep path) :
    dir.AgreeOn keep (e.faulted f dir) :=
  fun path hk => lookup_faulted f fun he => hw path he hk

end FileEdit

namespace FileOp

def Answer : FileOp κ → Type
  | pathExists _ => Bool
  | isFile _  => Except IoErrorKind Bool
  | read _    => Except IoErrorKind (List UInt8)
  | readDir   => List κ
  | edit _    => Except IoErrorKind Unit

def writes : FileOp κ → Option κ
  | edit e => e.writes
  | _      => none

variable [DecidableEq κ]

def perform (o : FileOp κ) (dir : Directory κ) : o.Answer × Directory κ :=
  match o with
  | pathExists path => ((dir.lookup path).isSome, dir)
  | isFile path =>
    match dir.lookup path with
    | none           => (.error .notFound, dir)
    | some (.file _) => (.ok true, dir)
    | some .other    => (.ok false, dir)
  | read path =>
    match dir.lookup path with
    | none               => (.error .notFound, dir)
    | some (.file bytes) => (.ok bytes, dir)
    | some .other        => (.error .other, dir)
  | readDir => (dir.keys, dir)
  | edit e  => (e.apply dir).either (fun k => (.error k, dir)) (fun dir' => (.ok (), dir'))

def fault (f : IoFault) (o : FileOp κ) (dir : Directory κ) : o.Answer × Directory κ :=
  match o with
  | pathExists _         => (false, dir)
  | isFile _ | read _ => (.error f.kind, dir)
  | readDir           => (dir.keys.take f.progress, dir)
  | edit e            => (.error f.kind, e.faulted f dir)

-- Whether an operation leaves what is not there as it is.
def removes : FileOp κ → Prop
  | edit (.removeFile _) => True
  | edit _               => False
  | _                    => True

variable {dir : Directory κ} {keep : κ → Prop}

theorem perform_agreeOn (o : FileOp κ) (hw : ∀ path, o.writes = some path → ¬keep path) :
    dir.AgreeOn keep (o.perform dir).2 := by
  cases o
  case edit e =>
    simp only [perform]
    cases he : e.apply dir
    case error => exact .refl
    case ok    => exact e.apply_agreeOn hw he
  all_goals simp only [perform]
  case isFile | read => split <;> exact .refl
  all_goals exact .refl

theorem fault_agreeOn (o : FileOp κ) (f : IoFault) (hw : ∀ path, o.writes = some path → ¬keep path) :
    dir.AgreeOn keep (o.fault f dir).2 := by
  cases o
  case edit e => exact e.faulted_agreeOn f hw
  all_goals exact .refl

theorem apply_shrank {path : κ} {dir' : Directory κ} (h : (FileEdit.removeFile path).apply dir = .ok dir') :
    dir.Shrank dir' := by
  intro p hp
  by_cases he : p = path
  case pos =>
    obtain rfl := he
    simp [FileEdit.apply, hp] at h
  case neg =>
    have hw : (FileEdit.removeFile path).writes ≠ some p := fun h => he (Option.some.inj h).symm
    exact (FileEdit.lookup_apply hw h).trans hp

theorem perform_shrank (o : FileOp κ) (hr : o.removes) : dir.Shrank (o.perform dir).2 := by
  cases o
  case edit e =>
    cases e
    case removeFile path =>
      simp only [perform]
      cases he : (FileEdit.removeFile path).apply dir
      case error => exact fun _ => id
      case ok    => exact apply_shrank he
    all_goals cases hr
  all_goals simp only [perform]
  case isFile | read => split <;> exact fun _ => id
  all_goals exact fun _ => id

theorem fault_shrank (o : FileOp κ) (f : IoFault) (hr : o.removes) : dir.Shrank (o.fault f dir).2 := by
  cases o
  case edit e =>
    cases e
    case removeFile path =>
      obtain h | h := (FileEdit.removeFile path).faulted_eq f dir
      · exact fun p hp => by simp only [fault, h, hp]
      · exact apply_shrank h
    all_goals cases hr
  all_goals exact fun _ => id

end FileOp

def files (κ : Type) [DecidableEq κ] : Device (FileOp κ) (Directory κ) IoFault where
  Answer  := FileOp.Answer
  perform := FileOp.perform
  fault   := FileOp.fault

abbrev FileProgram (κ : Type) [DecidableEq κ] := (files κ).Program

namespace FileProgram

open Device.Program

variable [DecidableEq κ]

def pathExists (path : κ) : FileProgram κ Bool :=
  .op (.pathExists path) .done

def isFile (path : κ) : ExceptT IoErrorKind (FileProgram κ) Bool :=
  .mk (.op (.isFile path) .done)

def read (path : κ) : ExceptT IoErrorKind (FileProgram κ) (List UInt8) :=
  .mk (.op (.read path) .done)

def readDir : FileProgram κ (List κ) :=
  .op .readDir .done

def edit (e : FileEdit κ) : ExceptT IoErrorKind (FileProgram κ) Unit :=
  .mk (.op (.edit e) .done)

variable {G : FileOp κ → Directory κ → Prop} {b : Bool} {dir : Directory κ} {path : κ} {e : FileEdit κ}

theorem wp_pathExists {Q : Bool → Bool → Directory κ → Prop} :
    wp G Q b (pathExists path) dir ↔
    G (.pathExists path) dir ∧ Q b (dir.lookup path).isSome dir ∧ ∀ _ : IoFault, Q false false dir :=
  Iff.rfl

theorem wp_readDir {Q : Bool → List κ → Directory κ → Prop} :
    wp G Q b readDir dir ↔
    G .readDir dir ∧ Q b dir.keys dir ∧ ∀ f : IoFault, Q false (dir.keys.take f.progress) dir :=
  Iff.rfl

theorem wp_isFile {Q : Bool → Except IoErrorKind Bool → Directory κ → Prop} (hg : G (.isFile path) dir)
    (hf : (∃ bytes, dir.lookup path = some (.file bytes)) → Q b (.ok true) dir)
    (ho : dir.lookup path = some .other → Q b (.ok false) dir)
    (hn : dir.lookup path = none → Q b (.error .notFound) dir) (he : ∀ k, Q false (.error k) dir) :
    wp G Q b (isFile path).run dir := by
  refine ⟨hg, ?_, fun f => he f.kind⟩
  change Q b ((FileOp.isFile path).perform dir).1 ((FileOp.isFile path).perform dir).2
  simp only [FileOp.perform]
  split
  case h_1 h => exact hn h
  case h_2 h => exact hf ⟨_, h⟩
  case h_3 h => exact ho h

theorem wp_read {Q : Bool → Except IoErrorKind (List UInt8) → Directory κ → Prop}
    (hg : G (.read path) dir) (hr : ∀ bytes, dir.lookup path = some (.file bytes) → Q b (.ok bytes) dir)
    (hn : (∀ bytes, dir.lookup path ≠ some (.file bytes)) → ∀ k, Q b (.error k) dir)
    (he : ∀ k, Q false (.error k) dir) : wp G Q b (read path).run dir := by
  refine ⟨hg, ?_, fun f => he f.kind⟩
  change Q b ((FileOp.read path).perform dir).1 ((FileOp.read path).perform dir).2
  simp only [FileOp.perform]
  split
  case h_1 h => exact hn (by simp [h]) _
  case h_2 h => exact hr _ h
  case h_3 h => exact hn (by simp [h]) _

theorem wp_edit {Q : Bool → Except IoErrorKind Unit → Directory κ → Prop} (hg : G (.edit e) dir)
    (ho : ∀ dir', e.apply dir = .ok dir' → Q b (.ok ()) dir')
    (he : ∀ k, e.apply dir = .error k → Q b (.error k) dir)
    (hf : ∀ k dir', dir' = dir ∨ (∃ n, (e.partly n).apply dir = .ok dir') → Q false (.error k) dir') :
    wp G Q b (edit e).run dir := by
  refine ⟨hg, ?_, fun f => hf f.kind _ ((e.faulted_eq f dir).imp_right fun h => ⟨_, h⟩)⟩
  change Q b ((FileOp.edit e).perform dir).1 ((FileOp.edit e).perform dir).2
  simp only [FileOp.perform]
  cases h : e.apply dir
  case error k => exact he k h
  case ok dir' => exact ho dir' h

section

variable {Q : Bool → Except IoErrorKind Unit → Directory κ → Prop} {old : List UInt8}

theorem wp_tryLock (hg : G (.edit (.tryLock path)) dir) (ho : Q b (.ok ()) dir)
    (hf : ∀ k, Q false (.error k) dir) : wp G Q b (edit (.tryLock path)).run dir := by
  refine wp_edit hg ?_ (by simp [FileEdit.apply]) ?_
  · rintro _ ⟨⟩
    exact ho
  · rintro k _ (rfl | ⟨n, ⟨⟩⟩) <;> exact hf k

theorem wp_syncAll (hg : G (.edit (.syncAll path)) dir) (ho : Q b (.ok ()) dir)
    (hf : ∀ k, Q false (.error k) dir) : wp G Q b (edit (.syncAll path)).run dir := by
  refine wp_edit hg ?_ (by simp [FileEdit.apply]) ?_
  · rintro _ ⟨⟩
    exact ho
  · rintro k _ (rfl | ⟨n, ⟨⟩⟩) <;> exact hf k

theorem wp_create (h : dir.lookup path ≠ some .other) (hg : G (.edit (.create path)) dir)
    (ho : ∀ bytes dir', dir.Wrote path bytes dir' → Q b (.ok ()) dir')
    (hf : ∀ k dir', dir.AgreeOn (· ≠ path) dir' → dir'.lookup path ≠ some .other → Q false (.error k) dir') :
    wp G Q b (edit (.create path)).run dir := by
  have ha : ∃ bytes dir', (FileEdit.create path).apply dir = .ok dir' ∧ dir.Wrote path bytes dir' := by
    simp only [FileEdit.apply]
    split
    case h_1      => exact ⟨_, _, rfl, .insert⟩
    case h_2 he   => exact ⟨_, _, rfl, .refl he⟩
    case h_3 he   => exact absurd he h
  obtain ⟨bytes, dir', ha, hw⟩ := ha
  refine wp_edit hg ?_ (by simp [ha]) ?_
  · rintro _ h'
    obtain rfl := Except.ok.inj (ha.symm.trans h')
    exact ho bytes dir' hw
  · rintro k _ (rfl | ⟨n, h'⟩)
    · exact hf k _ .refl h
    · obtain rfl := Except.ok.inj (ha.symm.trans h')
      exact hf k dir' hw.agree (by simp [hw.holds])

theorem wp_createNew (hg : G (.edit (.createNew path)) dir)
    (ho : dir.lookup path = none → ∀ dir', dir.Wrote path [] dir' → Q b (.ok ()) dir')
    (he : dir.lookup path ≠ none → Q b (.error .alreadyExists) dir)
    (hf : ∀ k dir', dir.AgreeOn (· ≠ path) dir' → Q false (.error k) dir') :
    wp G Q b (edit (.createNew path)).run dir := by
  cases h : dir.lookup path
  case none =>
    refine wp_edit hg ?_ (by simp [FileEdit.apply, h]) ?_
    · intro _ h'
      obtain rfl := by simpa [FileEdit.apply, h] using h'
      exact ho h _ .insert
    · rintro k _ (rfl | ⟨n, h'⟩)
      · exact hf k _ .refl
      · obtain rfl := by simpa [FileEdit.partly, FileEdit.apply, h] using h'
        exact hf k _ (Directory.Wrote.insert).agree
  case some =>
    refine wp_edit hg (by simp [FileEdit.apply, h]) ?_ ?_
    · intro k h'
      obtain rfl := by simpa [FileEdit.apply, h] using h'
      exact he (by simp [h])
    · rintro k _ (rfl | ⟨n, h'⟩)
      · exact hf k _ .refl
      · simp [FileEdit.partly, FileEdit.apply, h] at h'

theorem wp_truncate (h : dir.lookup path = some (.file old)) (hg : G (.edit (.truncate path)) dir)
    (ho : ∀ dir', dir.Wrote path [] dir' → Q b (.ok ()) dir')
    (hf : ∀ k dir', dir' = dir ∨ dir.Wrote path [] dir' → Q false (.error k) dir') :
    wp G Q b (edit (.truncate path)).run dir := by
  have ha : (FileEdit.truncate path).apply dir = .ok (dir.insert path (.file [])) := by
    simp [FileEdit.apply, h]
  refine wp_edit hg ?_ (by simp [ha]) ?_
  · rintro _ h'
    obtain rfl := Except.ok.inj (ha.symm.trans h')
    exact ho _ .insert
  · rintro k _ (rfl | ⟨n, h'⟩)
    · exact hf k _ (.inl rfl)
    · obtain rfl := Except.ok.inj (ha.symm.trans h')
      exact hf k _ (.inr .insert)

theorem wp_createTruncate (h : dir.lookup path ≠ some .other) (hg : G (.edit (.createTruncate path)) dir)
    (ho : ∀ dir', dir.Wrote path [] dir' → Q b (.ok ()) dir')
    (hf : ∀ k dir', dir' = dir ∨ dir.Wrote path [] dir' → Q false (.error k) dir') :
    wp G Q b (edit (.createTruncate path)).run dir := by
  have ha : (FileEdit.createTruncate path).apply dir = .ok (dir.insert path (.file [])) := by
    simp only [FileEdit.apply]
    split
    case h_1    => rfl
    case h_2    => rfl
    case h_3 he => exact absurd he h
  refine wp_edit hg ?_ (by simp [ha]) ?_
  · rintro _ h'
    obtain rfl := Except.ok.inj (ha.symm.trans h')
    exact ho _ .insert
  · rintro k _ (rfl | ⟨n, h'⟩)
    · exact hf k _ (.inl rfl)
    · obtain rfl := Except.ok.inj (ha.symm.trans h')
      exact hf k _ (.inr .insert)

-- A write that stops leaves a part of what it was to write.
theorem wp_writeAll {bytes : List UInt8} (h : dir.lookup path = some (.file old))
    (hg : G (.edit (.writeAll path bytes)) dir)
    (ho : ∀ dir', dir.Wrote path (old ++ bytes) dir' → Q b (.ok ()) dir')
    (hf : ∀ k part dir', part <+: bytes → dir.Wrote path (old ++ part) dir' → Q false (.error k) dir') :
    wp G Q b (edit (.writeAll path bytes)).run dir := by
  refine wp_edit hg ?_ (by simp [FileEdit.apply, h]) ?_
  · intro _ h'
    obtain rfl := by simpa [FileEdit.apply, h] using h'
    exact ho _ .insert
  · rintro k _ (rfl | ⟨n, h'⟩)
    · exact hf k [] _ List.nil_prefix (.refl (by simpa using h))
    · obtain rfl := by simpa [FileEdit.partly, FileEdit.apply, h] using h'
      exact hf k _ _ (List.take_prefix n bytes) .insert

theorem wp_hardLink {original : κ} {bytes : List UInt8} (h : dir.lookup original = some (.file bytes))
    (hg : G (.edit (.hardLink original path)) dir)
    (ho : dir.lookup path = none → ∀ dir', dir.Wrote path bytes dir' → Q b (.ok ()) dir')
    (he : dir.lookup path ≠ none → Q b (.error .alreadyExists) dir)
    (hf : ∀ k dir', dir' = dir ∨ dir.lookup path = none ∧ dir.Wrote path bytes dir' →
      Q false (.error k) dir') :
    wp G Q b (edit (.hardLink original path)).run dir := by
  cases hl : dir.lookup path
  case none =>
    refine wp_edit hg ?_ (by simp [FileEdit.apply, h, hl]) ?_
    · intro _ h'
      obtain rfl := by simpa [FileEdit.apply, h, hl] using h'
      exact ho hl _ .insert
    · rintro k _ (rfl | ⟨n, h'⟩)
      · exact hf k _ (.inl rfl)
      · obtain rfl := by simpa [FileEdit.partly, FileEdit.apply, h, hl] using h'
        exact hf k _ (.inr ⟨hl, .insert⟩)
  case some =>
    refine wp_edit hg (by simp [FileEdit.apply, h, hl]) ?_ ?_
    · intro k h'
      obtain rfl := by simpa [FileEdit.apply, h, hl] using h'
      exact he (by simp [hl])
    · rintro k _ (rfl | ⟨n, h'⟩)
      · exact hf k _ (.inl rfl)
      · simp [FileEdit.partly, FileEdit.apply, h, hl] at h'

theorem wp_removeFile (h : dir.lookup path = some (.file old)) (hg : G (.edit (.removeFile path)) dir)
    (ho : ∀ dir', dir.Removed path dir' → Q b (.ok ()) dir')
    (hf : ∀ k dir', dir' = dir ∨ dir.Removed path dir' → Q false (.error k) dir') :
    wp G Q b (edit (.removeFile path)).run dir := by
  have ha : (FileEdit.removeFile path).apply dir = .ok (dir.erase path) := by
    simp [FileEdit.apply, h]
  refine wp_edit hg ?_ (by simp [ha]) ?_
  · rintro _ h'
    obtain rfl := Except.ok.inj (ha.symm.trans h')
    exact ho _ .erase
  · rintro k _ (rfl | ⟨n, h'⟩)
    · exact hf k _ (.inl rfl)
    · obtain rfl := Except.ok.inj (ha.symm.trans h')
      exact hf k _ (.inr .erase)

end

-- A program that changes nothing that it should keep.
theorem wp_keep {α : Type} (keep : κ → Prop) {Q : Bool → α → Directory κ → Prop} {p : FileProgram κ α}
    (h : p.Only fun o => ∀ path, o.writes = some path → ¬keep path)
    (hg : ∀ o dir', (∀ path, o.writes = some path → ¬keep path) → dir.AgreeOn keep dir' → G o dir')
    (hq : ∀ b' a dir', (b' = true → b = true) → dir.AgreeOn keep dir' → Q b' a dir') : wp G Q b p dir :=
  wp_only (fun _ => .refl) .trans (fun o _ hw => o.perform_agreeOn hw) (fun f o _ hw => o.fault_agreeOn f hw)
    h hg hq

-- A program that reads and removes.
theorem wp_remove {α : Type} (keep : κ → Prop) {Q : Bool → α → Directory κ → Prop} {p : FileProgram κ α}
    (h : p.Only fun o => (∀ path, o.writes = some path → ¬keep path) ∧ o.removes)
    (hg : ∀ o dir', (∀ path, o.writes = some path → ¬keep path) → dir.AgreeOn keep dir' → G o dir')
    (hq : ∀ b' a dir', (b' = true → b = true) → dir.AgreeOn keep dir' → dir.Shrank dir' → Q b' a dir') :
    wp G Q b p dir := by
  refine wp_only (R := fun d₁ d₂ => d₁.AgreeOn keep d₂ ∧ d₁.Shrank d₂) (fun _ => ⟨.refl, fun _ => id⟩)
    (fun h₁ h₂ => ⟨h₁.1.trans h₂.1, fun path hn => h₂.2 path (h₁.2 path hn)⟩)
    (fun o _ ho => ⟨o.perform_agreeOn ho.1, o.perform_shrank ho.2⟩)
    (fun f o _ ho => ⟨o.fault_agreeOn f ho.1, o.fault_shrank f ho.2⟩) h
    (fun o dir' ho hd => hg o dir' ho.1 hd.1) fun b' a dir' hb hd => hq b' a dir' hb hd.1 hd.2

end FileProgram
