import PersonaRuntime.OwnerLab.SecureStore

-- The loop of `split_chunks` after the characters `cs`.
structure Splitting.Splits (cs : List Char) (s : Splitting) : Prop where
  text   : s.chunks.flatMap String.toList ++ s.chunk.toList = cs
  chars  : s.chunk.toList.length = s.chars
  limit  : s.chars ≤ chunkCharLimit
  length : cs.length = chunkCharLimit * s.chunks.length + s.chars
  some   : cs ≠ [] → 0 < s.chars

theorem Splitting.Splits.push {cs : List Char} {s : Splitting} (h : s.Splits cs) (value : Char) :
    (s.push value).Splits (cs ++ [value]) := by
  have ⟨ht, hc, hl, hn, _⟩ := h
  simp only [Splitting.push]
  split
  case isTrue hs =>
    refine ⟨?_, ?_, ?_, ?_, fun _ => Nat.one_pos⟩
    · simp [← ht]
    · simp
    · simp [chunkCharLimit]
    · simp only [List.length_append, List.length_singleton, hn, hs]
      rw [Nat.mul_succ]
  case isFalse hs =>
    refine ⟨?_, ?_, ?_, ?_, fun _ => Nat.succ_pos _⟩
    · simp [← ht]
    · simpa using hc
    · exact Nat.lt_of_le_of_ne hl hs
    · simp only [List.length_append, List.length_singleton, hn]
      rfl

theorem Splitting.Splits.foldl {cs : List Char} {s : Splitting} (h : s.Splits cs) (rest : List Char) :
    (rest.foldl Splitting.push s).Splits (cs ++ rest) := by
  induction rest generalizing cs s
  case nil => simpa using h
  case cons value rest hi => simpa using hi (h.push value)

theorem splitChunks_eq_ok {raw : String} (h₁ : 1 ≤ raw.length) (h₂ : raw.length ≤ maxChunks * chunkCharLimit) :
    ∃ chunks, splitChunks raw = .ok chunks ∧ 0 < chunks.length ∧ chunks.length ≤ maxChunks ∧
      String.join chunks = raw := by
  have h₀ : Splitting.Splits [] ⟨[], "", 0⟩ := ⟨rfl, rfl, Nat.zero_le _, rfl, fun h => absurd rfl h⟩
  have h := h₀.foldl raw.toList
  generalize hs : raw.toList.foldl Splitting.push ⟨[], "", 0⟩ = s at h
  have hr : raw.toList ≠ [] := by
    rintro hr
    simp [← String.length_toList, hr] at h₁
  have hc : 0 < s.chars := h.some hr
  have hl : raw.length = chunkCharLimit * s.chunks.length + s.chars := by
    simpa [String.length_toList] using h.length
  have hi : s.chunk.isEmpty = false := by
    rw [String.isEmpty_eq_false_iff]
    rintro hi
    have := h.chars
    simp_all
  have he : raw.isEmpty = false := by
    rw [String.isEmpty_eq_false_iff]
    rintro rfl
    simp at hr
  have hm : (s.chunks ++ [s.chunk]).length ≤ maxChunks := by
    have := h.limit
    simp only [List.length_append, List.length_singleton, maxChunks, chunkCharLimit] at *
    omega
  refine ⟨s.chunks ++ [s.chunk], ?_, ?_, ?_, ?_⟩
  · simp only [splitChunks, he, hs, hi]
    simpa using hm
  · simp
  · exact hm
  · apply String.toList_injective
    simpa using h.text

theorem hexDigit_isAsciiHexdigit :
    ∀ n < 16, isAsciiHexdigit (hexDigit n) = true ∧ (hexDigit n).utf8Size = 1 := by
  decide

theorem hex_isAsciiHexdigit (bytes : List UInt8) :
    (hex bytes).utf8ByteSize = 2 * bytes.length ∧ (hex bytes).toList.all isAsciiHexdigit = true := by
  induction bytes
  case nil => exact ⟨rfl, rfl⟩
  case cons byte bytes hi =>
    have hq : byte.toNat / 16 < 16 := by
      have := byte.toNat_lt
      omega
    have ⟨hd₁, hs₁⟩ := hexDigit_isAsciiHexdigit _ hq
    have ⟨hd₂, hs₂⟩ := hexDigit_isAsciiHexdigit (byte.toNat % 16) (by omega)
    have he : hex (byte :: bytes) = String.singleton (hexDigit (byte.toNat / 16)) ++
        (String.singleton (hexDigit (byte.toNat % 16)) ++ hex bytes) := by
      simp [hex]
    rw [he]
    refine ⟨?_, by simp [hd₁, hd₂, hi.right]⟩
    simp only [String.utf8ByteSize_append, String.utf8ByteSize_singleton, hs₁, hs₂, hi.left, List.length_cons]
    omega

theorem validSha256_hashSecret (sha256 : Digest) (raw : String) :
    validSha256 (hashSecret sha256 raw) = true := by
  have ⟨hs, hd⟩ := hex_isAsciiHexdigit (sha256 raw).toList
  simp [validSha256, hashSecret, hs, hd]

-- What every account holds.
abbrev Passwords := (k : KeyringAccount) → Option k.Value

def KeyringAccount.slot : KeyringAccount → Option Slot
  | manifest slot | chunk slot _ => some slot
  | root | legacy                => none

-- A program has only touched the accounts of one slot.
structure Outside (slot : Slot) (d d' : Keyring) : Prop where
  others  : ∀ {k}, k.slot ≠ some slot → d'.store k = d.store k
  written : .root ∈ d'.written ↔ .root ∈ d.written

namespace Outside

variable {slot : Slot} {d d₁ d₂ d₃ : Keyring} {k : KeyringAccount}

theorem refl (d : Keyring) : Outside slot d d :=
  ⟨fun _ => rfl, Iff.rfl⟩

theorem trans (h₁ : Outside slot d₁ d₂) (h₂ : Outside slot d₂ d₃) : Outside slot d₁ d₃ where
  others hk := (h₂.others hk).trans (h₁.others hk)
  written   := h₂.written.trans h₁.written

theorem set (hk : k.slot = some slot) (v : k.Value) : Outside slot d (d.set k v) where
  others hk' := Disk.set_other fun h => hk' (h ▸ hk)
  written := by
    have hr : .root ≠ k := by
      rintro rfl
      cases hk
    simp [hr]

theorem delete (hk : k.slot = some slot) : Outside slot d (d.delete k) where
  others hk' := Disk.delete_other fun h => hk' (h ▸ hk)
  written    := Iff.rfl

end Outside

-- A slot has nothing but what its manifest accounts for.
structure Tidy (s : Passwords) (slot : Slot) (found : Option SlotManifest) : Prop where
  manifest : s (.manifest slot) = found.map .json
  valid    : ∀ {m}, found = some m → validateManifest m = .ok ()
  chunks   : ∀ {i}, s (.chunk slot i) ≠ none → ∃ m, found = some m ∧ i < m.chunkCount

theorem Tidy.outside {slot slot' : Slot} {d d' : Keyring} {found : Option SlotManifest}
    (h : Tidy d.store slot found) (ho : Outside slot' d d') (hs : slot ≠ slot') :
    Tidy d'.store slot found where
  manifest := by
    rw [ho.others (by simpa [KeyringAccount.slot] using hs)]
    exact h.manifest
  valid := h.valid
  chunks {i} hi := by
    rw [ho.others (by simpa [KeyringAccount.slot] using hs)] at hi
    exact h.chunks hi

namespace ChunkedCredentialStore

open StoreProgram

variable {α : Type} {Q : Bool → α → Keyring → Prop} {E : Bool → String → Keyring → Prop}
  {C : Keyring → Prop} {b : Bool} {d : Keyring} {slot : Slot} {m : SlotManifest}
  {found : Option SlotManifest}

theorem wp_readOptional {k : KeyringAccount} {Q : Bool → Option k.Value → Keyring → Prop} (hc : C d)
    (he : ∀ e, E false e d) (hq : Q b (d.store k) d) : wp Q E C b (readOptional k) d :=
  ⟨hc, hq, fun _ => he _⟩

theorem wp_writePassword {k : KeyringAccount} {v : k.Value} {Q : Bool → Unit → Keyring → Prop} (hc : C d)
    (he : ∀ e, E false e d ∧ E false e (d.set k v)) (hq : Q b () (d.set k v)) :
    wp Q E C b (writePassword k v) d :=
  ⟨hc, hq, fun _ => he _⟩

theorem wp_deleteOptional {k : KeyringAccount} {Q : Bool → Unit → Keyring → Prop} (hc : C d)
    (he : ∀ e, E false e d ∧ E false e (d.delete k)) (hq : Q b () (d.delete k)) :
    wp Q E C b (deleteOptional k) d :=
  ⟨hc, hq, fun _ => he _⟩

theorem wp_readSlotManifest {Q : Bool → Option SlotManifest → Keyring → Prop}
    (h : Tidy d.store slot found) (hc : C d) (he : ∀ e, E false e d) (hq : Q b found d) :
    wp Q E C b (readSlotManifest slot) d := by
  refine wp_bind.mpr (wp_readOptional hc he ?_)
  rw [h.manifest]
  cases found
  case none => exact hq
  case some m =>
    have hv := h.valid rfl
    simp only [Option.map_some, hv]
    exact hq

-- The conditions that a program on one slot leaves to its caller: `C` and `E` hold wherever the
-- slot is tidy.
structure Leaves (slot : Slot) (d : Keyring) (E : Bool → String → Keyring → Prop) (C : Keyring → Prop) :
    Prop where
  interrupted : ∀ {d' found}, Outside slot d d' → Tidy d'.store slot found → C d'
  failed      : ∀ {d' found e}, Outside slot d d' → Tidy d'.store slot found → E false e d'

theorem Leaves.after {d' : Keyring} (l : Leaves slot d E C) (h : Outside slot d d') : Leaves slot d' E C where
  interrupted ho := l.interrupted (h.trans ho)
  failed ho      := l.failed (h.trans ho)

theorem tidy_delete_chunk {i : Nat} (h : Tidy d.store slot (some m)) :
    Tidy (d.delete (.chunk slot i)).store slot (some m) where
  manifest := by simpa using h.manifest
  valid    := h.valid
  chunks {j} hj := by
    obtain rfl | hi := eq_or_ne j i
    · exact absurd Disk.delete_same hj
    · rw [Disk.delete_other (by simpa using hi)] at hj
      exact h.chunks hj

theorem wp_deleteChunks {Q : Bool → Unit → Keyring → Prop} {n k : Nat} (h : Tidy d.store slot (some m))
    (hk : ∀ i < k, d.store (.chunk slot i) = none) (hn : k + n = m.chunkCount) (l : Leaves slot d E C)
    (hq : ∀ {d'}, Outside slot d d' → Tidy d'.store slot (some m) →
      (∀ i, d'.store (.chunk slot i) = none) → Q b () d') :
    wp Q E C b ((List.range' k n).forM fun i => deleteOptional (.chunk slot i)) d := by
  induction n generalizing k d
  case zero =>
    refine hq (.refl d) h fun i => ?_
    by_contra hi
    obtain ⟨_, hm, hi'⟩ := h.chunks hi
    cases hm
    exact hi (hk i (by omega))
  case succ n hi =>
    have ho : Outside slot d (d.delete (.chunk slot k)) := .delete rfl
    have ht := tidy_delete_chunk (i := k) h
    refine wp_bind.mpr (wp_deleteOptional (l.interrupted (.refl d) h)
      (fun e => ⟨l.failed (.refl d) h, l.failed ho ht⟩) ?_)
    refine hi ht ?_ (by omega) (l.after ho) fun ho' => hq (ho.trans ho')
    intro i hi
    obtain rfl | he := eq_or_ne i k
    · exact Disk.delete_same
    · rw [Disk.delete_other (by simpa using he)]
      exact hk i (by omega)

theorem tidy_delete_manifest (h : ∀ i, d.store (.chunk slot i) = none) :
    Tidy (d.delete (.manifest slot)).store slot none where
  manifest  := Disk.delete_same
  valid     := nofun
  chunks hi := absurd ((Disk.delete_other (by simp)).trans (h _)) hi

theorem wp_clearSlot {Q : Bool → Unit → Keyring → Prop} (h : Tidy d.store slot found)
    (l : Leaves slot d E C) (hq : ∀ {d'}, Outside slot d d' → Tidy d'.store slot none → Q b () d') :
    wp Q E C b (clearSlot slot) d := by
  refine wp_bind.mpr (wp_readSlotManifest h (l.interrupted (.refl d) h) (fun _ => l.failed (.refl d) h) ?_)
  cases found
  case none => exact hq (.refl d) h
  case some m =>
    refine wp_bind.mpr ?_
    rw [List.range_eq_range']
    refine wp_deleteChunks h nofun (Nat.zero_add _) l fun {d'} ho ht he => ?_
    have ho' : Outside slot d (d'.delete (.manifest slot)) := ho.trans (.delete rfl)
    have ht' := tidy_delete_manifest he
    exact wp_deleteOptional (l.interrupted ho ht) (fun e => ⟨l.failed ho ht, l.failed ho' ht'⟩) (hq ho' ht')

theorem tidy_set_chunk {i : Nat} {c : String} (h : Tidy d.store slot (some m)) (hi : i < m.chunkCount) :
    Tidy (d.set (.chunk slot i) c).store slot (some m) where
  manifest := (Disk.set_other (by simp)).trans h.manifest
  valid    := h.valid
  chunks {j} hj := by
    obtain rfl | hn := eq_or_ne j i
    · exact ⟨m, rfl, hi⟩
    · rw [Disk.set_other (by simpa using hn)] at hj
      exact h.chunks hj

theorem wp_writeChunks {Q : Bool → Unit → Keyring → Prop} {before rest : List String}
    (h : Tidy d.store slot (some m)) (hb : ∀ i < before.length, d.store (.chunk slot i) = before[i]?)
    (hn : (before ++ rest).length ≤ m.chunkCount) (l : Leaves slot d E C)
    (hq : ∀ {d'}, Outside slot d d' → Tidy d'.store slot (some m) →
      (∀ i < (before ++ rest).length, d'.store (.chunk slot i) = (before ++ rest)[i]?) → Q b () d') :
    wp Q E C b ((rest.zipIdx before.length).forM fun (c, i) => writePassword (.chunk slot i) c) d := by
  induction rest generalizing before d
  case nil => exact hq (.refl d) h (by simpa using hb)
  case cons c rest hi =>
    have hl : before.length < m.chunkCount := by
      simp only [List.length_append, List.length_cons] at hn
      omega
    have ho : Outside slot d (d.set (.chunk slot before.length) c) :=
      Outside.set (k := .chunk slot before.length) rfl c
    have ht := tidy_set_chunk (c := c) h hl
    have hs : before ++ c :: rest = (before ++ [c]) ++ rest := by simp
    refine wp_bind.mpr (wp_writePassword (l.interrupted (.refl d) h)
      (fun e => ⟨l.failed (.refl d) h, l.failed ho ht⟩) ?_)
    rw [hs] at hn hq
    have hb' : ∀ i < (before ++ [c]).length,
        (d.set (.chunk slot before.length) c).store (.chunk slot i) = (before ++ [c])[i]? := by
      intro i hi
      obtain rfl | hn := eq_or_ne i before.length
      · simp
      · have hi : i < before.length := by
          simp only [List.length_append, List.length_singleton] at hi
          omega
        rw [Disk.set_other (by simpa using hn), List.getElem?_append_left hi]
        exact hb i hi
    simpa using hi ht hb' hn (l.after ho) fun ho' => hq (ho.trans ho')

theorem tidy_set_manifest (h : Tidy d.store slot found) (hv : validateManifest m = .ok ())
    (hc : ∀ {m'}, found = some m' → m'.chunkCount ≤ m.chunkCount) :
    Tidy (d.set (.manifest slot) (.json m)).store slot (some m) where
  manifest := Disk.set_same
  valid hm := by
    cases hm
    exact hv
  chunks {i} hi := by
    rw [Disk.set_other (by simp)] at hi
    obtain ⟨m', hm, hi⟩ := h.chunks hi
    exact ⟨m, rfl, Nat.lt_of_lt_of_le hi (hc hm)⟩

theorem wp_writeSlot {Q : Bool → Unit → Keyring → Prop} {chunks : List String} {digest : String}
    (h : Tidy d.store slot none)
    (hv : ∀ {state}, state = "staging" ∨ state = "ready" →
      validateManifest ⟨storeSchema, state, chunks.length, digest⟩ = .ok ())
    (l : Leaves slot d E C)
    (hq : ∀ {d'}, Outside slot d d' →
      Tidy d'.store slot (some ⟨storeSchema, "ready", chunks.length, digest⟩) →
      (∀ i < chunks.length, d'.store (.chunk slot i) = chunks[i]?) → Q b () d') :
    wp Q E C b (writeSlot slot chunks digest) d := by
  have ho₁ : Outside slot d (d.set (.manifest slot) (.json ⟨storeSchema, "staging", chunks.length, digest⟩)) :=
    Outside.set (k := .manifest slot) rfl _
  have ht₁ := tidy_set_manifest h (hv (.inl rfl)) nofun
  refine wp_bind.mpr (wp_writePassword (l.interrupted (.refl d) h)
    (fun e => ⟨l.failed (.refl d) h, l.failed ho₁ ht₁⟩) ?_)
  refine wp_bind.mpr ?_
  have hb : ∀ i < ([] : List String).length, (d.set (.manifest slot) (.json ⟨storeSchema, "staging",
      chunks.length, digest⟩)).store (.chunk slot i) = ([] : List String)[i]? := nofun
  refine wp_writeChunks ht₁ hb (Nat.le_refl _) (l.after ho₁) fun {d₂} ho₂ ht₂ hc => ?_
  have ho₂ := ho₁.trans ho₂
  have ho₃ : Outside slot d (d₂.set (.manifest slot) (.json ⟨storeSchema, "ready", chunks.length, digest⟩)) :=
    ho₂.trans (Outside.set (k := .manifest slot) rfl _)
  have ht₃ := tidy_set_manifest ht₂ (hv (.inr rfl)) (by simp)
  refine wp_writePassword (l.interrupted ho₂ ht₂) (fun e => ⟨l.failed ho₂ ht₂, l.failed ho₃ ht₃⟩) ?_
  refine hq ho₃ ht₃ fun i hi => ?_
  exact (Disk.set_other (by simp)).trans (hc i hi)

-- A slot from which a text can be loaded.
structure Stores (sha256 : Digest) (s : Passwords) (slot : Slot) (raw : String) (chunks : List String) :
    Prop where
  manifest : s (.manifest slot) = some (.json ⟨storeSchema, "ready", chunks.length, hashSecret sha256 raw⟩)
  parts    : ∀ i < chunks.length, s (.chunk slot i) = chunks[i]?
  text     : String.join chunks = raw

-- What a load finds, and where.
inductive Active (sha256 : Digest) (legacyAccount : Bool) (s : Passwords) : Option Slot → Option String → Prop
  | legacy : (s .root = none) → Active sha256 legacyAccount s none (if legacyAccount then s .legacy else none)
  | slot {slot raw chunks} : (s .root = some (.json ⟨storeSchema, slot.label⟩)) →
    (Stores sha256 s slot raw chunks) → Active sha256 legacyAccount s (some slot) (some raw)

variable {sha256 : Digest} {legacyAccount : Bool} {active : Option Slot} {value : Option String}
  {raw : String} {d' : Keyring}

def AllTidy (s : Passwords) : Prop :=
  ∀ slot, ∃ found, Tidy s slot found

theorem AllTidy.outside (h : AllTidy d.store) (ho : Outside slot d d') (ht : Tidy d'.store slot found) :
    AllTidy d'.store := by
  intro slot'
  obtain rfl | hs := eq_or_ne slot' slot
  · exact ⟨found, ht⟩
  · obtain ⟨found', ht'⟩ := h slot'
    exact ⟨found', ht'.outside ho hs⟩

theorem Active.outside (h : Active sha256 legacyAccount d.store active value) (ho : Outside slot d d')
    (hs : active ≠ some slot) : Active sha256 legacyAccount d'.store active value := by
  have hr : d'.store .root = d.store .root := ho.others nofun
  have hl : d'.store .legacy = d.store .legacy := ho.others nofun
  cases h
  case legacy h =>
    rw [← hl]
    exact .legacy (hr.trans h)
  case slot slot' raw chunks h hc =>
    refine .slot (hr.trans h) ⟨?_, fun i hi => ?_, hc.text⟩
    · exact (ho.others (k := .manifest slot') hs).trans hc.manifest
    · exact (ho.others (k := .chunk slot' i) hs).trans (hc.parts i hi)

theorem validateSlot_label (slot : Slot) : validateSlot slot.label = .ok slot := by
  cases slot <;> rfl

theorem Active.root (h : Active sha256 legacyAccount d.store active value) :
    d.store .root = active.map fun slot => .json ⟨storeSchema, slot.label⟩ := by
  cases h
  case legacy h   => exact h
  case slot h _   => exact h

theorem wp_readRoot {Q : Bool → Option RootManifest → Keyring → Prop}
    (h : d.store .root = active.map fun slot => .json ⟨storeSchema, slot.label⟩) (hc : C d)
    (he : ∀ e, E false e d) (hq : Q b (active.map fun slot => ⟨storeSchema, slot.label⟩) d) :
    wp Q E C b readRoot d := by
  refine wp_bind.mpr (wp_readOptional hc he ?_)
  rw [h]
  cases active
  case none => exact hq
  case some slot =>
    simp only [Option.map_some, ne_eq, not_true_eq_false, if_false, validateSlot_label]
    exact hq

theorem Stores.eq_found {chunks : List String} (h : Stores sha256 d.store slot raw chunks)
    (ht : Tidy d.store slot found) :
    found = some ⟨storeSchema, "ready", chunks.length, hashSecret sha256 raw⟩ := by
  have hm := ht.manifest.symm.trans h.manifest
  cases found
  case none   => cases hm
  case some m => simpa using hm

theorem validateReady_of_tidy {chunkCount : Nat} {digest : String}
    (ht : Tidy d.store slot (some ⟨storeSchema, "ready", chunkCount, digest⟩)) :
    validateReadyManifest ⟨storeSchema, "ready", chunkCount, digest⟩ = .ok () := by
  rw [validateReadyManifest, ht.valid rfl]
  rfl

theorem wp_activeSlot {Q : Bool → Option Slot → Keyring → Prop}
    (h : d.store .root = active.map fun slot => .json ⟨storeSchema, slot.label⟩)
    (hm : ∀ slot ∈ active, ∃ count digest, Tidy d.store slot (some ⟨storeSchema, "ready", count, digest⟩))
    (hc : C d) (he : ∀ e, E false e d) (hq : Q b active d) : wp Q E C b activeSlot d := by
  refine wp_bind.mpr (wp_readRoot h hc he ?_)
  cases active
  case none => exact hq
  case some slot =>
    obtain ⟨count, digest, ht⟩ := hm slot rfl
    simp only [Option.map_some, validateSlot_label]
    refine wp_bind.mpr (wp_lift_ok.mpr (wp_bind.mpr (wp_readSlotManifest ht hc he ?_)))
    simp only [validateReady_of_tidy ht]
    exact hq

theorem wp_loadChunks {Q : Bool → String → Keyring → Prop} {before rest : List String}
    (h : ∀ i < (before ++ rest).length, d.store (.chunk slot i) = (before ++ rest)[i]?) (hc : C d)
    (he : ∀ e, E false e d) (hq : Q b (String.join (before ++ rest)) d) :
    wp Q E C b (loadChunks slot (String.join before) (List.range' before.length rest.length)) d := by
  induction rest generalizing before
  case nil =>
    rw [List.append_nil] at hq
    exact hq
  case cons c rest hi =>
    refine wp_bind.mpr (wp_readOptional hc he ?_)
    have hk : d.store (.chunk slot before.length) = some c := by
      simpa using h before.length (by simp)
    rw [hk]
    have hs : before ++ c :: rest = (before ++ [c]) ++ rest := by simp
    rw [hs] at h hq
    simpa [String.join] using hi h hq

theorem wp_load {Q : Bool → Option String → Keyring → Prop} (ht : AllTidy d.store)
    (h : Active sha256 legacyAccount d.store active value) (hc : C d) (he : ∀ e, E false e d)
    (hq : Q b value d) : wp Q E C b (load sha256 legacyAccount) d := by
  refine wp_bind.mpr (wp_readRoot h.root hc he ?_)
  cases h
  case legacy =>
    cases legacyAccount
    case false => exact hq
    case true  => exact wp_readOptional hc he hq
  case slot slot raw chunks h hs =>
    obtain ⟨found, ht⟩ := ht slot
    obtain rfl := hs.eq_found ht
    simp only [Option.map_some, validateSlot_label]
    refine wp_bind.mpr (wp_lift_ok.mpr (wp_bind.mpr (wp_readSlotManifest ht hc he ?_)))
    simp only [validateReady_of_tidy ht]
    refine wp_bind.mpr (wp_lift_ok.mpr (wp_bind.mpr ?_))
    rw [List.range_eq_range']
    have hx : ∀ i < ([] ++ chunks).length, d.store (.chunk slot i) = ([] ++ chunks)[i]? := hs.parts
    refine wp_loadChunks hx hc he ?_
    simp only [List.nil_append, hs.text, ne_eq, not_true_eq_false, if_false]
    exact hq

-- The store after the write of the root.
structure Commits (sha256 : Digest) (legacyAccount : Bool) (target : Slot) (raw : String) (d : Keyring) :
    Prop where
  written : .root ∈ d.written
  tidy    : AllTidy d.store
  active  : Active sha256 legacyAccount d.store (some target) (some raw)

theorem Commits.outside {target : Slot} (h : Commits sha256 legacyAccount target raw d)
    (ho : Outside slot d d') (ht : Tidy d'.store slot found) (hs : some target ≠ some slot) :
    Commits sha256 legacyAccount target raw d' where
  written := ho.written.mpr h.written
  tidy    := h.tidy.outside ho ht
  active  := h.active.outside ho hs

theorem Tidy.of_eq {s s' : Passwords} (h : Tidy s slot found) (hm : s' (.manifest slot) = s (.manifest slot))
    (hc : ∀ i, s' (.chunk slot i) = s (.chunk slot i)) : Tidy s' slot found where
  manifest  := hm.trans h.manifest
  valid     := h.valid
  chunks hi := h.chunks (by rwa [hc] at hi)

theorem Commits.deleteLegacy {target : Slot} (h : Commits sha256 legacyAccount target raw d) :
    Commits sha256 legacyAccount target raw (d.delete .legacy) where
  written := h.written
  tidy slot := (h.tidy slot).imp fun _ ht =>
    Tidy.of_eq ht (Disk.delete_other (by simp)) fun _ => Disk.delete_other (by simp)
  active := by
    cases h.active
    case slot chunks hr hs =>
      refine .slot ((Disk.delete_other (by simp)).trans hr) ⟨?_, fun i hi => ?_, hs.text⟩
      · exact (Disk.delete_other (by simp)).trans hs.manifest
      · exact (Disk.delete_other (by simp)).trans (hs.parts i hi)

theorem wp_dropLegacy {Q : Bool → Unit → Keyring → Prop} {target : Slot}
    (h : Commits sha256 legacyAccount target raw d)
    (hc : ∀ {d}, Commits sha256 legacyAccount target raw d → C d)
    (hq : ∀ {b d}, Commits sha256 legacyAccount target raw d → Q b () d) :
    wp Q E C b (if legacyAccount then (deleteOptional .legacy).ignore else pure ()) d := by
  split
  case isTrue  => exact wp_ignore.mpr (wp_deleteOptional (hc h) (fun _ => ⟨hq h, hq h.deleteLegacy⟩) (hq h.deleteLegacy))
  case isFalse => exact hq h

-- The store between two saves: a load finds `value`.
structure Holds (sha256 : Digest) (legacyAccount : Bool) (s : Passwords) (value : Option String) : Prop where
  tidy   : AllTidy s
  active : ∃ slot, Active sha256 legacyAccount s slot value

theorem Commits.holds {target : Slot} (h : Commits sha256 legacyAccount target raw d) :
    Holds sha256 legacyAccount d.store (some raw) :=
  ⟨h.tidy, _, h.active⟩

-- The store at any point of a save: the write of the root makes the difference.
def Consistent (sha256 : Digest) (legacyAccount : Bool) (raw : String) (value : Option String) (d : Keyring) :
    Prop :=
  Holds sha256 legacyAccount d.store (if .root ∈ d.written then some raw else value)

theorem Commits.consistent {target : Slot} (h : Commits sha256 legacyAccount target raw d) :
    Consistent sha256 legacyAccount raw value d := by
  rw [Consistent, if_pos h.written]
  exact h.holds

theorem targetSlot_ne (active : Option Slot) : active ≠ some (targetSlot active) := by
  rcases active with _ | ⟨_ | _⟩ <;> simp [targetSlot]

theorem validateManifest_written {state : String} {count : Nat} (hs : state = "staging" ∨ state = "ready")
    (hp : 0 < count) (hl : count ≤ maxChunks) :
    validateManifest ⟨storeSchema, state, count, hashSecret sha256 raw⟩ = .ok () := by
  have hm : ¬count > maxChunks := Nat.not_lt.mpr hl
  simp [validateManifest, hs, hm, validSha256_hashSecret, Nat.ne_of_gt hp]

-- The write of the root takes the store to the text in the target.
theorem commits_root {chunks : List String} (ht : AllTidy d.store)
    (hm : Tidy d.store slot (some ⟨storeSchema, "ready", chunks.length, hashSecret sha256 raw⟩))
    (hc : ∀ i < chunks.length, d.store (.chunk slot i) = chunks[i]?) (hj : String.join chunks = raw) :
    Commits sha256 legacyAccount slot raw (d.set .root (.json ⟨storeSchema, slot.label⟩)) where
  written := by simp
  tidy slot := (ht slot).imp fun _ ht =>
    Tidy.of_eq ht (Disk.set_other (by simp)) fun _ => Disk.set_other (by simp)
  active := by
    refine .slot Disk.set_same ⟨?_, fun i hi => ?_, hj⟩
    · exact (Disk.set_other (by simp)).trans hm.manifest
    · exact (Disk.set_other (by simp)).trans (hc i hi)

-- A save that knows the active slot. Until the write of the root the target is the only slot that it
-- touches, and `B` is what that leaves as it is.
theorem wp_saveFrom {B : Keyring → Prop} (h₁ : 1 ≤ raw.length) (h₂ : raw.length ≤ maxChunks * chunkCharLimit)
    (ht : AllTidy d.store) (ha : d.store .root = active.map fun slot => .json ⟨storeSchema, slot.label⟩)
    (hm : ∀ slot ∈ active, ∃ count digest, Tidy d.store slot (some ⟨storeSchema, "ready", count, digest⟩))
    (hb : ∀ {d' found}, Outside (targetSlot active) d d' → Tidy d'.store (targetSlot active) found → B d') :
    wp (fun _ _ d => ∃ slot, Commits sha256 legacyAccount slot raw d)
      (fun b _ d => b = false ∧ (B d ∨ ∃ slot, Commits sha256 legacyAccount slot raw d))
      (fun d => B d ∨ ∃ slot, Commits sha256 legacyAccount slot raw d) true (save sha256 legacyAccount raw) d := by
  obtain ⟨chunks, hs, hp, hl, hj⟩ := splitChunks_eq_ok h₁ h₂
  obtain ⟨found, hf⟩ := ht (targetSlot active)
  have l : Leaves (targetSlot active) d (fun b _ d => b = false ∧ (B d ∨ ∃ slot, Commits sha256 legacyAccount slot raw d))
      (fun d => B d ∨ ∃ slot, Commits sha256 legacyAccount slot raw d) :=
    ⟨fun ho ht => .inl (hb ho ht), fun ho ht => ⟨rfl, .inl (hb ho ht)⟩⟩
  have hc := l.interrupted (.refl d) hf
  rw [save, hs]
  refine wp_bind.mpr (wp_lift_ok.mpr (wp_bind.mpr (wp_activeSlot ha hm hc (fun _ => ⟨rfl, hc⟩) ?_)))
  refine wp_bind.mpr (wp_clearSlot hf l fun {d₁} ho₁ hf₁ => ?_)
  refine wp_bind.mpr (wp_writeSlot hf₁ (fun h => validateManifest_written h hp hl) (l.after ho₁)
    fun {d₂} ho₂ hf₂ hk => ?_)
  have ho := ho₁.trans ho₂
  have hc₂ := l.interrupted ho hf₂
  have hr : Commits sha256 legacyAccount _ raw (d₂.set .root _) := commits_root (ht.outside ho hf₂) hf₂ hk hj
  refine wp_bind.mpr (wp_writePassword hc₂ (fun _ => ⟨⟨rfl, hc₂⟩, rfl, .inr ⟨_, hr⟩⟩) ?_)
  cases active
  case none => exact wp_dropLegacy hr (.inr ⟨_, ·⟩) (⟨_, ·⟩)
  case some old =>
    have hn := (targetSlot_ne (some old)).symm
    obtain ⟨_, hold⟩ := hr.tidy old
    refine wp_bind.mpr (wp_ignore.mpr (wp_clearSlot hold ⟨fun ho ht => ?_, fun ho ht => ?_⟩ fun ho ht => ?_))
    · exact .inr ⟨_, hr.outside ho ht hn⟩
    · exact wp_dropLegacy (hr.outside ho ht hn) (.inr ⟨_, ·⟩) (⟨_, ·⟩)
    · exact wp_dropLegacy (hr.outside ho ht hn) (.inr ⟨_, ·⟩) (⟨_, ·⟩)

theorem wp_save (h : Holds sha256 legacyAccount d.store value) (hw : .root ∉ d.written)
    (h₁ : 1 ≤ raw.length) (h₂ : raw.length ≤ maxChunks * chunkCharLimit) :
    wp (fun _ _ d => ∃ slot, Commits sha256 legacyAccount slot raw d)
      (fun b _ d => b = false ∧ Consistent sha256 legacyAccount raw value d)
      (Consistent sha256 legacyAccount raw value) true (save sha256 legacyAccount raw) d := by
  obtain ⟨ht, active, ha⟩ := h
  have hm (slot : Slot) (hs : slot ∈ active) :
      ∃ count digest, Tidy d.store slot (some ⟨storeSchema, "ready", count, digest⟩) := by
    obtain ⟨found, hf⟩ := ht slot
    cases ha
    case legacy => cases hs
    case slot slot' raw chunks hr hs' =>
      obtain rfl := Option.mem_some_iff.mp hs
      obtain rfl := hs'.eq_found hf
      exact ⟨_, _, hf⟩
  -- Until the write of the root a load finds what it found before.
  have hb {d' : Keyring} {found : Option SlotManifest} (ho : Outside (targetSlot active) d d')
      (ht' : Tidy d'.store (targetSlot active) found) : Consistent sha256 legacyAccount raw value d' := by
    rw [Consistent, if_neg (ho.written.not.mpr hw)]
    exact ⟨ht.outside ho ht', active, ha.outside ho (targetSlot_ne active)⟩
  have hc {d' : Keyring} (h : Consistent sha256 legacyAccount raw value d' ∨
      ∃ slot, Commits sha256 legacyAccount slot raw d') : Consistent sha256 legacyAccount raw value d' :=
    h.elim id fun h => h.choose_spec.consistent
  exact wp_mono id (fun h => h.imp_right hc) hc (wp_saveFrom h₁ h₂ ht ha.root hm hb)

theorem Holds.load (h : Holds sha256 legacyAccount d.store value) :
    (load sha256 legacyAccount).finish d = (d, .ok value) := by
  obtain ⟨ht, active, ha⟩ := h
  have hw : wp (fun _ v d' => v = value ∧ d' = d) (fun b _ _ => b = false) (fun _ => True) true
      (ChunkedCredentialStore.load sha256 legacyAccount) d :=
    wp_load ht ha trivial (fun _ => rfl) ⟨rfl, rfl⟩
  obtain ⟨v, d', hf, rfl, rfl⟩ | ⟨e, d', -, he⟩ := wp_finish hw
  case inl => exact hf
  case inr => cases he

-- The text that the last save with a write of the root has left, or what there was before.
def lastValue (initial : Option String) (t : List Saved) : Option String :=
  t.foldl (fun value o => if .root ∈ o.written then some o.raw else value) initial

variable {s s' : Passwords} {e : SaveEvent} {o t : List Saved}

-- What a save leaves, however its accesses are answered.
theorem exec_save (h : Holds sha256 legacyAccount s value) (h₁ : 1 ≤ raw.length)
    (h₂ : raw.length ≤ maxChunks * chunkCharLimit) (answers : List (StoreAnswer KeyringFailure)) :
    Meets (fun _ _ d => ∃ slot, Commits sha256 legacyAccount slot raw d)
      (fun b _ d => b = false ∧ Consistent sha256 legacyAccount raw value d)
      (Consistent sha256 legacyAccount raw value)
      ((ChunkedCredentialStore.save sha256 legacyAccount raw).exec answers ⟨s, []⟩) := by
  have hd : Holds sha256 legacyAccount (⟨s, []⟩ : Keyring).store value := h
  exact wp_exec (wp_save hd List.not_mem_nil h₁ h₂) answers

theorem step_holds (h : Holds sha256 legacyAccount s value)
    (hs : (machine sha256 legacyAccount).step s e = some (s', o)) :
    Holds sha256 legacyAccount s' (lastValue value o) := by
  simp only [machine] at hs
  split at hs
  case isFalse => cases hs
  case isTrue hl =>
    cases hs
    have hx := exec_save h hl.left hl.right e.answers
    simp only [Meets] at hx
    simp only [lastValue, List.foldl_cons, List.foldl_nil]
    split at hx
    case h_1 =>
      obtain ⟨_, _, hx⟩ := hx
      exact hx.consistent
    case h_2 =>
      obtain ⟨_, _, hx⟩ := hx
      exact hx
    case h_3 => exact hx

-- A save that returns has got to the write of the root.
theorem step_returned {written : List KeyringAccount} (h : Holds sha256 legacyAccount s value)
    (hs : (machine sha256 legacyAccount).step s e = some (s', [⟨e.raw, written, .returned ()⟩])) :
    .root ∈ written := by
  simp only [machine] at hs
  split at hs
  case isFalse => cases hs
  case isTrue hl =>
    have hx := exec_save h hl.left hl.right e.answers
    simp only [Option.some.injEq, Prod.mk.injEq, List.cons.injEq, Saved.mk.injEq, true_and, and_true] at hs
    obtain ⟨-, rfl, ho⟩ := hs
    simp only [Meets, ho] at hx
    obtain ⟨_, _, hx⟩ := hx
    exact hx.written

theorem init_holds (i : (machine sha256 legacyAccount).init s) :
    Holds sha256 legacyAccount s (if legacyAccount then s .legacy else none) := by
  refine ⟨fun slot => ⟨none, i (.manifest slot) (by simp), by simp, fun {n} hn => ?_⟩, none, ?_⟩
  · exact absurd (i (.chunk slot n) (by simp)) hn
  · exact .legacy (i .root (by simp))

theorem steps_holds (h : Holds sha256 legacyAccount s value)
    (r : (machine sha256 legacyAccount).Steps s t s') :
    Holds sha256 legacyAccount s' (lastValue value t) := by
  have h₀ : Holds sha256 legacyAccount s (lastValue value []) := h
  refine r.preserves (P := fun t s => Holds sha256 legacyAccount s (lastValue value t)) ?_ h₀
  intro t s₁ e s₂ o h hs
  simpa [lastValue] using step_holds h hs

theorem Holds.save (h : Holds sha256 legacyAccount s value) (h₁ : 1 ≤ raw.length)
    (h₂ : raw.length ≤ maxChunks * chunkCharLimit) :
    ∃ n, ∀ answers : List (StoreAnswer KeyringFailure), n ≤ answers.length →
      (∀ x ∈ answers, x = .done) → ∃ s' written,
      (machine sha256 legacyAccount).step s ⟨raw, answers⟩ = some (s', [⟨raw, written, .returned ()⟩]) := by
  have hd : Holds sha256 legacyAccount (⟨s, []⟩ : Keyring).store value := h
  obtain ⟨⟨⟩, d', hf, -⟩ | ⟨_, _, -, he, -⟩ := wp_finish (wp_save hd List.not_mem_nil h₁ h₂)
  case inr => cases he
  case inl =>
    obtain ⟨n, hn⟩ := exec_done (ChunkedCredentialStore.save sha256 legacyAccount raw) ⟨s, []⟩
    refine ⟨n, fun answers hl hd => ⟨d'.store, d'.written, ?_⟩⟩
    simp [machine, h₁, h₂, hn answers hl hd, hf, StoreOutcome.ofExcept]

-- What a store promises after any number of saves.
structure CrashSafe (sha256 : Digest) (legacyAccount : Bool) (initial : Option String) (t : List Saved)
    (s : Passwords) : Prop where
  loads    : ((load sha256 legacyAccount).finish ⟨s, []⟩).2 = .ok (lastValue initial t)
  returned : ∀ {e s' written}, (machine sha256 legacyAccount).step s e =
    some (s', [⟨e.raw, written, .returned ()⟩]) →
    ((load sha256 legacyAccount).finish ⟨s', []⟩).2 = .ok (some e.raw)
  succeeds : ∀ {raw : String}, 1 ≤ raw.length → raw.length ≤ maxChunks * chunkCharLimit →
    ∃ n, ∀ answers : List (StoreAnswer KeyringFailure), n ≤ answers.length →
      (∀ x ∈ answers, x = .done) → ∃ s' written,
      (machine sha256 legacyAccount).step s ⟨raw, answers⟩ = some (s', [⟨raw, written, .returned ()⟩])
  bounded  : ∀ {slot i}, s (.chunk slot i) ≠ none →
    ∃ m, s (.manifest slot) = some (.json m) ∧ i < m.chunkCount

theorem steps_crashSafe {s₀ : Passwords} (i : (machine sha256 legacyAccount).init s₀)
    (r : (machine sha256 legacyAccount).Steps s₀ t s) :
    CrashSafe sha256 legacyAccount (if legacyAccount then s₀ .legacy else none) t s := by
  have h := steps_holds (init_holds i) r
  refine ⟨?loads, fun hs => ?returned, h.save, fun hi => ?bounded⟩
  case loads =>
    have hd : Holds sha256 legacyAccount (⟨s, []⟩ : Keyring).store _ := h
    rw [hd.load]
  case returned =>
    have hw := step_returned h hs
    have hd := step_holds h hs
    simp only [lastValue, List.foldl_cons, List.foldl_nil, hw, if_pos] at hd
    have hd : Holds sha256 legacyAccount (⟨_, []⟩ : Keyring).store _ := hd
    rw [hd.load]
  case bounded =>
    obtain ⟨found, ht⟩ := h.tidy _
    obtain ⟨m, rfl, hm⟩ := ht.chunks hi
    exact ⟨m, ht.manifest, hm⟩

-- The digests of the two texts below.
def secretDigest : Digest := fun raw =>
  if raw = "owner secret" then
    ⟨[125, 22, 20, 18, 15, 76, 187, 51, 189, 178, 235, 235, 4, 95, 63, 230, 84, 109, 93, 189, 89, 211, 177,
      4, 195, 4, 88, 185, 10, 78, 97, 15], rfl⟩
  else
    ⟨[96, 250, 50, 1, 23, 178, 123, 24, 28, 58, 14, 57, 248, 150, 3, 94, 45, 142, 246, 142, 25, 52, 158, 141,
      71, 22, 50, 31, 131, 209, 49, 243], rfl⟩

-- A store in which there is no more than the legacy account.
def migrating : Passwords
  | .legacy => some "legacy secret"
  | _       => none

-- The first save returns and the second one is interrupted before its write of the root.
theorem steps_crashSafe_interrupted : ∃ t s, (machine secretDigest true).init migrating ∧
    (machine secretDigest true).Steps migrating t s ∧
    t.map (·.outcome) = [.returned (), .interrupted] ∧
    lastValue (migrating .legacy) t = some "owner secret" ∧
    CrashSafe secretDigest true (migrating .legacy) t s := by
  have i : (machine secretDigest true).init migrating := by
    intro k hk
    cases k
    case legacy => exact absurd rfl hk
    all_goals rfl
  obtain ⟨t, s, r, ht⟩ : ∃ t s, (machine secretDigest true).Steps migrating t s ∧
      decide (t.map (·.outcome) = [.returned (), .interrupted] ∧
        lastValue (migrating .legacy) t = some "owner secret") = true :=
    Machine.Steps.exists_of_replay
      [⟨"owner secret", List.replicate 10 .done⟩, ⟨"next secret", List.replicate 6 .done⟩] (by decide +kernel)
  obtain ⟨ho, hl⟩ := of_decide_eq_true ht
  exact ⟨t, s, i, r, ho, hl, steps_crashSafe i r⟩

end ChunkedCredentialStore
