import PersonaRuntime.OwnerLab.Theorems.SecureStore

namespace ChunkedCredentialStore

open StoreProgram

-- What is left of a text that a slot stored.
structure Remnant (sha256 : Digest) (s : Passwords) (slot : Slot) (raw : String) (chunks : List String) : Prop where
  manifest : s (.manifest slot) = none ∨
    s (.manifest slot) = some (.json ⟨storeSchema, "ready", chunks.length, hashSecret sha256 raw⟩)
  parts    : ∀ i < chunks.length, s (.chunk slot i) = none ∨ s (.chunk slot i) = chunks[i]?
  text     : String.join chunks = raw

-- What the root points to.
inductive Pointed (sha256 : Digest) (s : Passwords) : Option Slot → Option String → Prop
  | nothing : (s .root = none) → Pointed sha256 s none none
  | slot {slot raw chunks} : (s .root = some (.json ⟨storeSchema, slot.label⟩)) →
    (Remnant sha256 s slot raw chunks) → Pointed sha256 s (some slot) (some raw)

-- The store between two calls. `stored` is the last text that was stored.
structure Reached (sha256 : Digest) (stored : Option String) (s : Passwords) : Prop where
  tidy    : AllTidy s
  legacy  : s .legacy = none
  pointed : ∃ active value, Pointed sha256 s active value ∧ (value = none ∨ value = stored)

-- The root points to a slot of which nothing is gone, or to nothing.
def Undamaged (s : Passwords) : Prop :=
  ∀ root slot, s .root = some (.json root) → root.activeSlot = slot.label →
    ∃ m, s (.manifest slot) = some (.json m) ∧ ∀ i < m.chunkCount, s (.chunk slot i) ≠ none

variable {sha256 : Digest} {legacyAccount : Bool} {active : Option Slot} {value stored : Option String}
  {raw : String} {s s' : Passwords} {d d' : Keyring} {slot : Slot} {found : Option SlotManifest}

theorem Slot.label_inj {slot slot' : Slot} (h : slot.label = slot'.label) : slot = slot' := by
  cases slot <;> cases slot' <;> first | rfl | exact absurd h (by decide)

theorem Pointed.root (h : Pointed sha256 s active value) :
    s .root = active.map fun slot => .json ⟨storeSchema, slot.label⟩ := by
  cases h
  case nothing h => exact h
  case slot h _   => exact h

theorem Remnant.shrank {chunks : List String} (h : Remnant sha256 d.store slot raw chunks) (hs : d.Shrank d') :
    Remnant sha256 d'.store slot raw chunks where
  manifest  := (hs _).elim .inl fun he => he ▸ h.manifest
  parts i hi := (hs _).elim .inl fun he => he ▸ h.parts i hi
  text      := h.text

theorem Remnant.eq_found {chunks : List String} {m : SlotManifest} (h : Remnant sha256 s slot raw chunks)
    (hm : s (.manifest slot) = some (.json m)) : m = ⟨storeSchema, "ready", chunks.length, hashSecret sha256 raw⟩ := by
  obtain hn | hr := h.manifest
  · simp [hn] at hm
  · simpa [hr] using hm.symm

theorem Active.pointed (h : Active sha256 legacyAccount s active value) (hl : s .legacy = none) :
    Pointed sha256 s active value := by
  cases h
  case legacy h =>
    rw [hl, ite_self]
    exact .nothing h
  case slot h hs => exact .slot h ⟨.inr hs.manifest, fun i hi => .inr (hs.parts i hi), hs.text⟩

theorem Pointed.whole (h : Pointed sha256 s active value) (hu : Undamaged s) (hl : s .legacy = none) :
    Active sha256 legacyAccount s active value := by
  cases h
  case nothing h =>
    have ha : Active sha256 legacyAccount s none (if legacyAccount then s .legacy else none) := .legacy h
    rwa [hl, ite_self] at ha
  case slot slot raw chunks h hr =>
    obtain ⟨m, hm, hc⟩ := hu _ slot h rfl
    obtain rfl := hr.eq_found hm
    exact .slot h ⟨hm, fun i hi => (hr.parts i hi).resolve_left (hc i hi), hr.text⟩

theorem Reached.shrank (h : Reached sha256 stored d.store) (ht : AllTidy d'.store) (hs : d.Shrank d') :
    Reached sha256 stored d'.store := by
  obtain ⟨active, value, hp, hv⟩ := h.pointed
  refine ⟨ht, (hs .legacy).elim id fun he => he.trans h.legacy, ?_⟩
  obtain hr | hr := hs .root
  · exact ⟨none, none, .nothing hr, .inl rfl⟩
  · cases hp
    case nothing hn     => exact ⟨none, none, .nothing (hr.trans hn), hv⟩
    case slot hroot hr' => exact ⟨_, _, .slot (hr.trans hroot) (hr'.shrank hs), hv⟩

variable (legacyAccount) in
theorem Reached.holds (h : Reached sha256 stored s) (hu : Undamaged s) :
    ∃ value, Holds sha256 legacyAccount s value ∧ (value = none ∨ value = stored) := by
  obtain ⟨active, value, hp, hv⟩ := h.pointed
  exact ⟨value, ⟨h.tidy, active, hp.whole hu h.legacy⟩, hv⟩

section Load

variable {Q : Bool → Option String → Keyring → Prop} {C : Keyring → Prop} {b : Bool}

theorem wp_loadChunks_found {indices : List Nat} {P : Prop} {read : String}
    (hp : (∀ i ∈ indices, d.store (.chunk slot i) ≠ none) → P) :
    wp (fun _ _ _ => P) (fun _ _ _ => True) (fun _ => True) b (loadChunks slot read indices) d := by
  induction indices generalizing b read
  case nil => exact hp (by simp)
  case cons i indices hi =>
    refine wp_bind.mpr (wp_readOptional trivial (fun _ => trivial) ?_)
    cases hc : d.store (.chunk slot i)
    case none => trivial
    case some =>
      refine hi fun h => hp (List.forall_mem_cons.mpr ⟨?_, h⟩)
      rw [hc]
      exact Option.some_ne_none _

variable (legacyAccount) in
-- A load that succeeds has found the slot whole.
theorem wp_load_undamaged (h : Reached sha256 stored d.store) :
    wp (fun _ _ _ => Undamaged d.store) (fun _ _ _ => True) (fun _ => True) true (load sha256 legacyAccount) d := by
  obtain ⟨active, value, hp, -⟩ := h.pointed
  refine wp_bind.mpr (wp_readRoot hp.root trivial (fun _ => trivial) ?_)
  cases hp
  case nothing hr =>
    have hu : Undamaged d.store := by
      intro root slot h
      simp [hr] at h
    cases legacyAccount
    case false => exact hu
    case true  => exact ⟨trivial, hu, fun _ => trivial⟩
  case slot slot raw chunks hr hs =>
    obtain ⟨found, ht⟩ := h.tidy slot
    simp only [Option.map_some, validateSlot_label]
    refine wp_bind.mpr (wp_lift_ok.mpr (wp_bind.mpr (wp_readSlotManifest ht trivial (fun _ => trivial) ?_)))
    cases found
    case none => trivial
    case some m =>
      have hm : d.store (.manifest slot) = some (.json m) := ht.manifest
      obtain rfl := hs.eq_found hm
      simp only [validateReady_of_tidy ht]
      refine wp_bind.mpr (wp_lift_ok.mpr (wp_bind.mpr ?_))
      refine wp_mono (fun hu => ?_) id id (wp_loadChunks_found (P := Undamaged d.store) fun hc => ?_)
      · split
        case isTrue  => trivial
        case isFalse => exact hu
      · intro root slot' hr'' hl
        obtain rfl : root = ⟨storeSchema, slot.label⟩ := by simpa [hr] using hr''.symm
        obtain rfl := Slot.label_inj hl
        exact ⟨_, hm, fun i hi => hc i (List.mem_range.mpr hi)⟩

end Load

section Calls

theorem deletes_readRoot : readRoot.Deletes := by
  refine deletes_bind (fun r => by cases r <;> trivial) fun found => ?_
  rcases found with _ | root | _
  case none       => trivial
  case some.other => trivial
  case some.json  =>
    dsimp only
    split
    case isTrue  => trivial
    case isFalse => exact deletes_bind (deletes_lift _) fun _ => trivial

theorem deletes_readSlotManifest (slot : Slot) : (readSlotManifest slot).Deletes := by
  refine deletes_bind (fun r => by cases r <;> trivial) fun found => ?_
  rcases found with _ | manifest | _
  case none       => trivial
  case some.other => trivial
  case some.json  => exact deletes_bind (deletes_lift _) fun _ => trivial

theorem deletes_deleteOptional (account : KeyringAccount) : (deleteOptional account).Deletes :=
  fun r => by cases r <;> trivial

theorem deletes_clearSlot (slot : Slot) : (clearSlot slot).Deletes := by
  refine deletes_bind (deletes_readSlotManifest slot) fun found => ?_
  cases found
  case none => trivial
  case some => exact deletes_bind (deletes_forM fun _ => deletes_deleteOptional _) fun _ => deletes_deleteOptional _

theorem deletes_activeSlot : activeSlot.Deletes := by
  refine deletes_bind deletes_readRoot fun root => ?_
  cases root
  case none => trivial
  case some root =>
    refine deletes_bind (deletes_lift _) fun slot => deletes_bind (deletes_readSlotManifest slot) fun manifest => ?_
    cases manifest
    case none => trivial
    case some => exact deletes_bind (deletes_lift _) fun _ => trivial

theorem deletes_delete : (delete legacyAccount).Deletes := by
  refine deletes_bind (deletes_clearSlot .a) fun _ => deletes_bind (deletes_clearSlot .b) fun _ => ?_
  refine deletes_bind (deletes_deleteOptional .root) fun _ => ?_
  split
  case isTrue  => exact deletes_deleteOptional .legacy
  case isFalse => trivial

theorem spares_writePassword {k k' : KeyringAccount} {v : k.Value} (h : k ≠ k') : (writePassword k v).Spares k' :=
  ⟨h, fun r => by cases r <;> trivial⟩

theorem spares_save : (save sha256 legacyAccount raw).Spares .legacy := by
  refine spares_bind ((deletes_lift _).spares _) fun chunks => spares_bind (deletes_activeSlot.spares _) fun active => ?_
  refine spares_bind ((deletes_clearSlot _).spares _) fun _ => spares_bind ?_ fun _ => ?_
  · refine spares_bind (spares_writePassword (by simp)) fun _ => spares_bind ?_ fun _ => spares_writePassword (by simp)
    exact spares_forM fun _ => spares_writePassword (by simp)
  · refine spares_bind (spares_writePassword (by simp)) fun _ => ?_
    have hlegacy : (if legacyAccount then (deleteOptional .legacy).ignore else pure () : KeyringProgram Unit).Deletes := by
      split
      case isTrue  => exact deletes_ignore (deletes_deleteOptional .legacy)
      case isFalse => trivial
    cases active
    case none     => exact hlegacy.spares _
    case some old => exact spares_bind ((deletes_ignore (deletes_clearSlot old)).spares _) fun _ => hlegacy.spares _

theorem splitChunks_length {chunks : List String} (h : splitChunks raw = .ok chunks) :
    1 ≤ raw.length ∧ raw.length ≤ maxChunks * chunkCharLimit := by
  have h₀ : Splitting.Splits [] ⟨[], "", 0⟩ := ⟨rfl, rfl, Nat.zero_le _, rfl, fun h => absurd rfl h⟩
  have hs := h₀.foldl raw.toList
  simp only [splitChunks] at h
  generalize raw.toList.foldl Splitting.push ⟨[], "", 0⟩ = s at h hs
  split at h
  case isTrue => cases h
  case isFalse he =>
    have hr : raw.toList ≠ [] := fun hr => he (by simpa [String.isEmpty_iff] using String.toList_injective hr)
    have hc : 0 < s.chars := hs.some hr
    have hl : raw.length = chunkCharLimit * s.chunks.length + s.chars := by
      simpa [String.length_toList] using hs.length
    have hi : s.chunk.isEmpty = false := by
      rw [String.isEmpty_eq_false_iff]
      rintro hi
      have hz : s.chars = 0 := by simpa [hi] using hs.chars.symm
      omega
    simp only [hi, Bool.false_eq_true, if_false] at h
    have hm : s.chunks.length + 1 ≤ maxChunks := by
      split at h
      case isTrue     => cases h
      case isFalse hn => simpa using fun hlt => hn (.inr hlt)
    have hlimit := hs.limit
    simp only [maxChunks, chunkCharLimit] at *
    omega

theorem Pointed.outside (h : Pointed sha256 d.store active value) (ho : Outside slot d d')
    (hs : active ≠ some slot) : Pointed sha256 d'.store active value := by
  have hr : d'.store .root = d.store .root := ho.others (by simp [KeyringAccount.slot])
  cases h
  case nothing h => exact .nothing (hr.trans h)
  case slot slot' raw chunks h hc =>
    have hk {k : KeyringAccount} (hk : k.slot = some slot') : d'.store k = d.store k :=
      ho.others (hk ▸ hs)
    refine .slot (hr.trans h) ⟨?_, fun i hi => ?_, hc.text⟩
    · rw [hk rfl]
      exact hc.manifest
    · rw [hk rfl]
      exact hc.parts i hi

theorem Reached.outside (h : Reached sha256 stored d.store) (hp : Pointed sha256 d.store active value)
    (hv : value = none ∨ value = stored) (ho : Outside slot d d') (ht : Tidy d'.store slot found)
    (hs : active ≠ some slot) : Reached sha256 stored d'.store where
  tidy    := h.tidy.outside ho ht
  legacy  := (ho.others (by simp [KeyringAccount.slot])).trans h.legacy
  pointed := ⟨active, value, hp.outside ho hs, hv⟩

-- What is stored after a call that has written these accounts.
def StoreCall.storing (stored : Option String) (written : List KeyringAccount) : StoreCall → Option String
  | save raw => if .root ∈ written then some raw else stored
  | delete   => stored

theorem wp_save_reached (h : Reached sha256 stored d.store) (hw : .root ∉ d.written) :
    wp (fun _ _ d => Reached sha256 ((StoreCall.save raw).storing stored d.written) d.store)
      (fun _ _ d => Reached sha256 ((StoreCall.save raw).storing stored d.written) d.store)
      (fun d => Reached sha256 ((StoreCall.save raw).storing stored d.written) d.store) true (save sha256 legacyAccount raw) d := by
  have hself {d' : Keyring} (h : Reached sha256 stored d'.store) (hw : .root ∉ d'.written) :
      Reached sha256 ((StoreCall.save raw).storing stored d'.written) d'.store := by
    rwa [StoreCall.storing, if_neg hw]
  have hcommits {d' : Keyring} (h : ∃ slot, Commits sha256 legacyAccount slot raw d') (hl : d'.store .legacy = none) :
      Reached sha256 ((StoreCall.save raw).storing stored d'.written) d'.store := by
    obtain ⟨slot, h⟩ := h
    rw [StoreCall.storing, if_pos h.written]
    exact ⟨h.tidy, hl, _, _, h.active.pointed hl, .inr rfl⟩
  cases hs : splitChunks raw
  case error e =>
    rw [save, hs]
    exact hself h hw
  case ok chunks =>
    obtain ⟨h₁, h₂⟩ := splitChunks_length hs
    obtain ⟨active, value, hp, hv⟩ := h.pointed
    by_cases hm : ∀ slot ∈ active, ∃ count digest, Tidy d.store slot (some ⟨storeSchema, "ready", count, digest⟩)
    case pos =>
      let B (d : Keyring) : Prop := Reached sha256 stored d.store ∧ .root ∉ d.written
      have hb {d' : Keyring} {found : Option SlotManifest} (ho : Outside (targetSlot active) d d')
          (ht : Tidy d'.store (targetSlot active) found) : B d' :=
        ⟨h.outside hp hv ho ht (targetSlot_ne active), ho.written.not.mpr hw⟩
      refine wp_mono (fun h => hcommits h.1 h.2) (fun h => ?_) (fun h => ?_)
        (wp_and (wp_saveFrom h₁ h₂ h.tidy hp.root hm hb) (wp_spares spares_save h.legacy))
      · exact h.1.2.elim (fun h' => hself h'.1 h'.2) fun h' => hcommits h' h.2
      · exact h.1.elim (fun h' => hself h'.1 h'.2) fun h' => hcommits h' h.2
    -- The root points to a slot without a manifest.
    case neg =>
      cases hp
      case nothing => exact absurd (by simp) hm
      case slot slot raw' chunks' hr hc =>
        obtain ⟨found, ht⟩ := h.tidy slot
        have hself := hself h hw
        have hnone : found = none := by
          cases found
          case none => rfl
          case some m =>
            obtain rfl := hc.eq_found ht.manifest
            exact absurd (fun slot' hs => Option.mem_some_iff.mp hs ▸ ⟨_, _, ht⟩) hm
        obtain rfl := hnone
        have hroot : d.store .root = (some slot).map fun slot => .json ⟨storeSchema, slot.label⟩ := hr
        rw [save, hs]
        refine wp_bind.mpr (wp_lift_ok.mpr (wp_bind.mpr (wp_bind.mpr (wp_readRoot hroot hself (fun _ => hself) ?_))))
        simp only [Option.map_some, validateSlot_label]
        exact wp_bind.mpr (wp_lift_ok.mpr (wp_bind.mpr (wp_readSlotManifest ht hself (fun _ => hself) hself)))

-- A delete that gets to its end leaves nothing.
theorem wp_delete_tidy (ht : AllTidy d.store) :
    wp (fun _ _ d => AllTidy d.store ∧ d.store .root = none ∧ (legacyAccount = true → d.store .legacy = none) ∧
        ∀ slot, Tidy d.store slot none)
      (fun b _ d => b = false ∧ AllTidy d.store) (fun d => AllTidy d.store) true (delete legacyAccount) d := by
  have l {slot : Slot} {d : Keyring} (ht : AllTidy d.store) :
      Leaves slot d (fun b _ d => b = false ∧ AllTidy d.store) (fun d => AllTidy d.store) :=
    ⟨fun ho h => ht.outside ho h, fun ho h => ⟨rfl, ht.outside ho h⟩⟩
  obtain ⟨_, ha⟩ := ht .a
  obtain ⟨_, hb⟩ := ht .b
  refine wp_bind.mpr (wp_clearSlot ha (l ht) fun {d₁} ho₁ ha₁ => ?_)
  have ht₁ := ht.outside ho₁ ha₁
  have hb₁ := hb.outside ho₁ (by simp)
  refine wp_bind.mpr (wp_clearSlot hb₁ (l ht₁) fun {d₂} ho₂ hb₂ => ?_)
  have ht₂ := ht₁.outside ho₂ hb₂
  have ha₂ := ha₁.outside ho₂ (by simp)
  have hall₂ (slot : Slot) : Tidy d₂.store slot none := by cases slot <;> assumption
  have hall {k : KeyringAccount} {d : Keyring} (hk : k.slot = none) (h : ∀ slot, Tidy d.store slot none) (slot : Slot) :
      Tidy (d.delete k).store slot none := by
    have hn {k' : KeyringAccount} (hs : k'.slot = some slot) : (d.delete k).store k' = d.store k' := by
      refine Disk.delete_other ?_
      rintro rfl
      simp [hk] at hs
    exact Tidy.of_eq (h slot) (hn rfl) fun _ => hn rfl
  have hall₃ := hall (k := .root) rfl hall₂
  have ht₃ : AllTidy (d₂.delete .root).store := fun slot => ⟨none, hall₃ slot⟩
  refine wp_bind.mpr (wp_deleteOptional ht₂ (fun _ => ⟨⟨rfl, ht₂⟩, rfl, ht₃⟩) ?_)
  split
  case isFalse hl => exact ⟨ht₃, Disk.delete_same, fun h => absurd h hl, hall₃⟩
  case isTrue =>
    have hall₄ := hall (k := .legacy) rfl hall₃
    have ht₄ : AllTidy ((d₂.delete .root).delete .legacy).store := fun slot => ⟨none, hall₄ slot⟩
    refine wp_deleteOptional ht₃ (fun _ => ⟨⟨rfl, ht₃⟩, rfl, ht₄⟩) ⟨ht₄, ?_, fun _ => Disk.delete_same, hall₄⟩
    exact (Disk.delete_other (by simp)).trans Disk.delete_same

variable (legacyAccount) in
theorem wp_delete_reached (h : Reached sha256 stored d.store) :
    wp (fun _ _ d => Reached sha256 stored d.store ∧ ∀ k, d.store k = none)
      (fun b _ d => b = false ∧ Reached sha256 stored d.store) (fun d => Reached sha256 stored d.store) true
      (delete legacyAccount) d := by
  refine wp_mono (fun {b _ d'} h' => ?_) (fun h' => ⟨h'.1.1, h.shrank h'.1.2 h'.2⟩) (fun h' => h.shrank h'.1 h'.2)
    (wp_and (wp_delete_tidy h.tidy) (wp_deletes deletes_delete .refl))
  obtain ⟨⟨ht, hr, -, hs⟩, hd⟩ := h'
  have h' := h.shrank ht hd
  refine ⟨h', fun k => ?_⟩
  cases k
  case root          => exact hr
  case legacy        => exact h'.legacy
  case manifest slot => exact (hs slot).manifest
  case chunk slot i  =>
    by_contra hc
    obtain ⟨_, hm, _⟩ := (hs slot).chunks hc
    cases hm

theorem wp_program (call : StoreCall) (h : Reached sha256 stored d.store) (hw : .root ∉ d.written) :
    wp (fun _ _ d => Reached sha256 (call.storing stored d.written) d.store)
      (fun _ _ d => Reached sha256 (call.storing stored d.written) d.store)
      (fun d => Reached sha256 (call.storing stored d.written) d.store) true
      (call.program sha256 legacyAccount) d := by
  cases call
  case save   => exact wp_save_reached h hw
  case delete => exact wp_mono (fun h => h.1) (fun h => h.2) id (wp_delete_reached legacyAccount h)

end Calls

-- The last text that a call has stored.
def lastStored (t : List StoreCalled) : Option String :=
  t.foldl (fun stored o => o.call.storing stored o.written) none

variable {e : StoreCall × List (StoreAnswer KeyringFailure)} {o t : List StoreCalled}

theorem calls_step_reached (h : Reached sha256 (lastStored t) s)
    (hs : (calls sha256 legacyAccount).step s e = some (s', o)) : Reached sha256 (lastStored (t ++ o)) s' := by
  obtain ⟨call, answers⟩ := e
  have h : Reached sha256 (lastStored t) (⟨s, []⟩ : Keyring).store := h
  simp only [calls, Option.some.injEq, Prod.mk.injEq] at hs
  obtain ⟨rfl, rfl⟩ := hs
  have hx : Meets _ _ _ ((call.program sha256 legacyAccount).exec answers ⟨s, []⟩) :=
    wp_exec (wp_program call h List.not_mem_nil) answers
  simp only [lastStored, List.foldl_append, List.foldl_cons, List.foldl_nil]
  simp only [Meets] at hx
  split at hx
  case h_1 => exact hx.choose_spec
  case h_2 => exact hx.choose_spec
  case h_3 => exact hx

theorem calls_run_reached (r : (calls sha256 legacyAccount).Run t s) : Reached sha256 (lastStored t) s := by
  refine r.invariant (P := fun t s => Reached sha256 (lastStored t) s) (fun {s} i => ?_) calls_step_reached
  refine ⟨fun slot => ⟨none, i _, by simp, fun hi => absurd (i _) hi⟩, i _, none, none, .nothing (i _), .inl rfl⟩

theorem Reached.load_undamaged (h : Reached sha256 stored d.store) {value : Option String}
    (hl : ((load sha256 legacyAccount).finish d).2 = .ok value) : Undamaged d.store := by
  obtain ⟨_, d', hf, hu⟩ | ⟨_, d', hf, -⟩ := wp_finish (wp_load_undamaged legacyAccount h)
  case inl => exact hu
  case inr => simp [hf] at hl

theorem Reached.delete (h : Reached sha256 stored d.store) :
    ∃ d', (ChunkedCredentialStore.delete legacyAccount).finish d = (d', .ok ()) ∧ ∀ k, d'.store k = none := by
  obtain ⟨_, d', hf, -, hn⟩ | ⟨_, d', -, hb, -⟩ := wp_finish (wp_delete_reached legacyAccount h)
  case inl => exact ⟨d', hf, hn⟩
  case inr => cases hb

theorem Holds.save_load (h : Holds sha256 legacyAccount d.store value) (hw : .root ∉ d.written)
    (h₁ : 1 ≤ raw.length) (h₂ : raw.length ≤ maxChunks * chunkCharLimit) :
    ∃ d', (ChunkedCredentialStore.save sha256 legacyAccount raw).finish d = (d', .ok ()) ∧
      ((ChunkedCredentialStore.load sha256 legacyAccount).finish d').2 = .ok (some raw) := by
  obtain ⟨_, d', hf, slot, hc⟩ | ⟨_, d', -, hb, -⟩ := wp_finish (wp_save h hw h₁ h₂)
  case inl => exact ⟨d', hf, by rw [hc.holds.load]⟩
  case inr => cases hb

-- What a store promises after any calls of which some were cut off.
structure Usable (sha256 : Digest) (legacyAccount : Bool) (t : List StoreCalled) (s : Passwords) : Prop where
  loads   : ∃ value, ((load sha256 legacyAccount).finish ⟨s, []⟩).2 = .ok value ∧
    (value = none ∨ value = lastStored t)
  saves   : ∀ raw : String, 1 ≤ raw.length → raw.length ≤ maxChunks * chunkCharLimit → ∃ d,
    (save sha256 legacyAccount raw).finish ⟨s, []⟩ = (d, .ok ()) ∧
    ((load sha256 legacyAccount).finish d).2 = .ok (some raw)
  deletes : ∃ d, (delete legacyAccount).finish ⟨s, []⟩ = (d, .ok ()) ∧ ∀ k, d.store k = none

theorem calls_usable_iff (r : (calls sha256 legacyAccount).Run t s) :
    Usable sha256 legacyAccount t s ↔ Undamaged s := by
  have h : Reached sha256 (lastStored t) (⟨s, []⟩ : Keyring).store := calls_run_reached r
  constructor
  case mp =>
    intro hu
    obtain ⟨value, hl, -⟩ := hu.loads
    exact h.load_undamaged hl
  case mpr =>
    intro hu
    obtain ⟨value, hh, hv⟩ := h.holds legacyAccount hu
    refine ⟨⟨value, ?_, hv⟩, fun raw h₁ h₂ => hh.save_load List.not_mem_nil h₁ h₂, h.delete⟩
    rw [hh.load]

-- The delete is cut off before it removes anything of the active slot.
theorem calls_usable_interrupted : ∃ t s, (calls secretDigest true).Run t s ∧
    t.map (·.outcome) = [.returned (), .returned (), .interrupted] ∧ Usable secretDigest true t s := by
  let cutOff (s : Passwords) (t : List StoreCalled) : Bool :=
    t.map (·.outcome) = [.returned (), .returned (), .interrupted] ∧
    s .root = some (.json ⟨storeSchema, "b"⟩) ∧
    s (.manifest .b) = some (.json ⟨storeSchema, "ready", 1, hashSecret secretDigest "next secret"⟩) ∧
    s (.chunk .b 0) = some "next secret"
  obtain ⟨t, s, e, h⟩ : ∃ t s, (calls secretDigest true).Steps (fun _ => none) t s ∧ cutOff s t = true :=
    Machine.Steps.exists_of_replay_any
      [(.save "owner secret", List.replicate 20 .done), (.save "next secret", List.replicate 20 .done),
        (.delete, List.replicate 2 .done)] (by decide +kernel)
  obtain ⟨ho, hr, hm, hc⟩ := of_decide_eq_true h
  refine ⟨t, s, ⟨fun _ => rfl, e⟩, ho, (calls_usable_iff ⟨fun _ => rfl, e⟩).mpr ?_⟩
  intro root slot hroot hl
  obtain rfl : root = ⟨storeSchema, "b"⟩ := by simpa [hr] using hroot.symm
  have hl : Slot.label .b = slot.label := hl
  obtain rfl := Slot.label_inj hl
  refine ⟨_, hm, fun i hi => ?_⟩
  obtain rfl : i = 0 := Nat.lt_one_iff.mp hi
  simp [hc]

-- The delete is cut off between the two.
theorem calls_bricked : ∃ t s, (calls secretDigest true).Run t s ∧
    t.map (·.outcome) = [.returned (), .interrupted] ∧
    ((load secretDigest true).finish ⟨s, []⟩).2 = .error "Windows secure store manifest is incomplete" ∧
    ((save secretDigest true "next secret").finish ⟨s, []⟩).2 =
      .error "Windows secure store active manifest is missing" ∧
    ¬Usable secretDigest true t s := by
  let bricked (s : Passwords) (t : List StoreCalled) : Bool :=
    t.map (·.outcome) = [.returned (), .interrupted] ∧
    ((load secretDigest true).finish ⟨s, []⟩).2 = .error "Windows secure store manifest is incomplete" ∧
    ((save secretDigest true "next secret").finish ⟨s, []⟩).2 =
      .error "Windows secure store active manifest is missing"
  obtain ⟨t, s, e, h⟩ : ∃ t s, (calls secretDigest true).Steps (fun _ => none) t s ∧ bricked s t = true :=
    Machine.Steps.exists_of_replay_any
      [(.save "owner secret", List.replicate 20 .done), (.delete, List.replicate 3 .done)] (by decide +kernel)
  obtain ⟨ho, hl, hs⟩ := of_decide_eq_true h
  refine ⟨t, s, ⟨fun _ => rfl, e⟩, ho, hl, hs, fun hu => ?_⟩
  obtain ⟨value, hv, -⟩ := hu.loads
  simp [hl] at hv

end ChunkedCredentialStore
