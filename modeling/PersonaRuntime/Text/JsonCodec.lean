import PersonaRuntime.Text.Json

-- How values of a type are read from a text or from what a `Value` keeps of it, and written into a
-- `Value`. `Plain` are the texts which spell a value the way it is written.
structure JsonCodec (α : Type) where
  decode : Json → Option α
  encode : α → Json
  Plain  : Json → Prop

structure JsonCodec.Lawful {α : Type} (c : JsonCodec α) : Prop where
  plain_iff {j : Json} {a : α} : c.decode j = some a → (j.value = c.encode a ↔ c.Plain j)
  decode_value {j : Json} {a : α} : c.decode j = some a → c.decode j.value = some a
  decode_iff {j : Json} {a : α} : j.value = c.encode a → (c.decode j = some a ↔ j.Unrepeated)

-- The fields of a record as they are found in a text: by their names, or one after another in an array.
structure JsonFields where
  get    : String → Option Json
  listed : Bool

namespace JsonFields

variable {α : Type}

-- The fields of a record that neither has other keys than its own nor one of them twice.
def ofRecord (names : List String) : Json → Option JsonFields
  | .object members =>
    if (∀ k ∈ JsonMembers.keys members, k ∈ names) ∧ (JsonMembers.keys members).Nodup then some ⟨(members.lookup ·), false⟩ else none
  | .array items =>
    if items.length ≤ names.length then some ⟨((names.zip items).lookup ·), true⟩ else none
  | _ => none

-- The fields of a record that ignores the keys which are not its own.
def ofOpenRecord (names : List String) : Json → Option JsonFields
  | .object members => ofRecord names (.object (members.filter (·.1 ∈ names)))
  | j               => ofRecord names j

variable (f : JsonFields) (name : String) (decode : Json → Option α)

def required : Option α :=
  (f.get name).bind decode

-- An `Option` field. Only an array has to have it.
def optional : Option (Option α) :=
  match f.get name with
  | none       => if f.listed then none else some none
  | some .null => some none
  | some j     => (decode j).map some

-- A field with `#[serde(default)]`
def defaulted (default : α) : Option α :=
  match f.get name with
  | none   => some default
  | some j => decode j

end JsonFields

def Json.decodeList {α : Type} (decode : Json → Option α) : Json → Option (List α)
  | .array items => items.mapM decode
  | _            => none

namespace JsonCodec

variable {α β : Type}

def text : JsonCodec String where
  decode
    | .string s => some s
    | _         => none
  encode  := .string
  Plain _ := True

def flag : JsonCodec Bool where
  decode
    | .bool b => some b
    | _       => none
  encode  := .bool
  Plain _ := True

-- An unsigned integer of the given width
def unsigned (max : Nat) : JsonCodec { n : Nat // n ≤ max } where
  decode
    | .number (.posInt n) => if h : n ≤ max then some ⟨n, h⟩ else none
    | _                   => none
  encode n := .number (.posInt n)
  Plain _  := True

-- An enumeration without data. It is written as its name, but read from the object with the name as its
-- only key as well.
def variant (all : List α) (name : α → String) : JsonCodec α where
  decode
    | .string s            => all.find? (name · = s)
    | .object [(s, .null)] => all.find? (name · = s)
    | _                    => none
  encode a := .string (name a)
  Plain j  := ∃ s, j = .string s

def nullable (c : JsonCodec α) : JsonCodec (Option α) where
  decode
    | .null => some none
    | j     => (c.decode j).map some
  encode
    | none   => .null
    | some a => c.encode a
  Plain j := j = .null ∨ c.Plain j

def list (c : JsonCodec α) : JsonCodec (List α) where
  decode    := Json.decodeList c.decode
  encode as := .array (as.map c.encode)
  Plain j   := ∃ items, j = .array items ∧ ∀ item ∈ items, c.Plain item

end JsonCodec

-- The same for the fields of a record.
structure FieldsCodec (α : Type) where
  names  : List String
  decode : JsonFields → Option α
  encode : α → JsonMembers
  Plain  : (String → Option Json) → Prop

namespace FieldsCodec

variable {α β : Type}

def field (name : String) (c : JsonCodec α) : FieldsCodec α where
  names     := [name]
  decode f  := f.required name c.decode
  encode a  := [(name, c.encode a)]
  Plain get := ∃ j, get name = some j ∧ c.Plain j

def optionalField (name : String) (c : JsonCodec α) : FieldsCodec (Option α) where
  names     := [name]
  decode f  := f.optional name c.decode
  encode a  := [(name, c.nullable.encode a)]
  Plain get := ∃ j, get name = some j ∧ c.nullable.Plain j

def both (f : FieldsCodec α) (g : FieldsCodec β) : FieldsCodec (α × β) where
  names     := f.names ++ g.names
  decode x  := do return (← f.decode x, ← g.decode x)
  encode a  := JsonMembers.insertAll (f.encode a.1) (g.encode a.2)
  Plain get := f.Plain get ∧ g.Plain get

-- The fields of one type as those of another
def map (f : FieldsCodec α) (into : α → β) (back : β → α) : FieldsCodec β where
  names    := f.names
  decode x := (f.decode x).map into
  encode b := f.encode (back b)
  Plain    := f.Plain

def record (f : FieldsCodec α) : JsonCodec α where
  decode j := (JsonFields.ofRecord f.names j).bind f.decode
  encode a := .object (f.encode a)
  Plain j  := ∃ members, j = .object members ∧ f.Plain (members.lookup ·)

structure Lawful (f : FieldsCodec α) : Prop where
  sorted {a : α} : (f.encode a).Sorted
  mem_names {k : String} {a : α} : k ∈ (f.encode a).keys → k ∈ f.names
  congr {get get' : String → Option Json} {l : Bool} : (∀ k ∈ f.names, get k = get' k) →
    f.decode ⟨get, l⟩ = f.decode ⟨get', l⟩
  plain_iff {get : String → Option Json} {l : Bool} {a : α} : f.decode ⟨get, l⟩ = some a →
    ((∀ k ∈ f.names, (get k).map Json.value = (f.encode a).lookup k) ↔ f.Plain get)
  decode_value {get : String → Option Json} {l : Bool} {a : α} : f.decode ⟨get, l⟩ = some a →
    f.decode ⟨fun k => (get k).map Json.value, l⟩ = some a
  decode_iff {get : String → Option Json} {l : Bool} {a : α} :
    (∀ k ∈ f.names, (get k).map Json.value = (f.encode a).lookup k) →
      (f.decode ⟨get, l⟩ = some a ↔ ∀ k ∈ f.names, ∀ j, get k = some j → j.Unrepeated)

end FieldsCodec

namespace JsonCodec

variable {α β : Type} {c : JsonCodec α}

-- No text is the spelling of two values.
theorem Lawful.encode_inj (h : c.Lawful) {j : Json} {a a' : α} (ha : j.value = c.encode a)
    (ha' : j.value = c.encode a') : a = a' := by
  have ⟨hv, hu⟩ := j.value_normal
  have hd := (h.decode_iff (hv.trans ha)).mpr hu
  have hd' := (h.decode_iff (hv.trans ha')).mpr hu
  exact Option.some.inj (hd.symm.trans hd')

theorem text_lawful : text.Lawful where
  plain_iff {j a} h := by cases j <;> simp_all [text, Json.value]
  decode_value {j a} h := by cases j <;> simp_all [text, Json.value]
  decode_iff {j a} h := by
    obtain rfl := Json.value_eq_string h
    simp [text, Json.Unrepeated]

theorem unsigned_eq_some {max : Nat} {j : Json} {n : { n : Nat // n ≤ max }} :
    (unsigned max).decode j = some n ↔ j = .number (.posInt n) := by
  cases j
  case number m =>
    cases m
    case posInt m =>
      simp only [unsigned, Json.number.injEq, JsonNumber.posInt.injEq]
      grind
    all_goals simp [unsigned]
  all_goals simp [unsigned]

theorem unsigned_lawful {max : Nat} : (unsigned max).Lawful where
  plain_iff {j n} h := by
    obtain rfl := unsigned_eq_some.mp h
    simp [unsigned, Json.value]
  decode_value {j n} h := by
    obtain rfl := unsigned_eq_some.mp h
    simpa [Json.value] using h
  decode_iff {j n} h := by
    obtain rfl := Json.value_eq_number h
    simp [unsigned_eq_some, Json.Unrepeated]

section Variant

variable {all : List α} {name : α → String}

theorem variant_eq_some (hm : ∀ a, a ∈ all) (hn : name.Injective) {j : Json} {a : α} :
    (variant all name).decode j = some a ↔ j = .string (name a) ∨ j = .object [(name a, .null)] := by
  have hf : ∀ s, all.find? (name · = s) = some a ↔ s = name a := by
    intro s
    constructor
    case mp =>
      intro h
      simpa [eq_comm] using List.find?_some h
    case mpr =>
      rintro rfl
      cases hf : all.find? (name · = name a)
      case none   => simpa using List.find?_eq_none.mp hf a (hm a)
      case some b =>
        have hb : b = a := hn (by simpa using List.find?_some hf)
        rw [hb]
  cases j
  case string s => simp [variant, hf]
  case object ms =>
    rcases ms with _ | ⟨⟨s, v⟩, _ | _⟩
    · simp [variant]
    · cases v <;> simp [variant, hf]
    · simp [variant]
  all_goals simp [variant]

theorem variant_lawful (hm : ∀ a, a ∈ all) (hn : name.Injective) : (variant all name).Lawful where
  plain_iff {j a} h := by
    obtain rfl | rfl := (variant_eq_some hm hn).mp h <;> simp [variant, Json.value]
  decode_value {j a} h := by
    obtain rfl | rfl := (variant_eq_some hm hn).mp h
    · simpa [Json.value] using h
    · simpa [Json.value, Json.valueMembers, JsonMembers.insert] using h
  decode_iff {j a} h := by
    obtain rfl := Json.value_eq_string h
    simp [variant_eq_some hm hn, Json.Unrepeated]

end Variant

section Nullable

theorem nullable_of_ne_null {j : Json} (h : j ≠ .null) : c.nullable.decode j = (c.decode j).map some := by
  cases j <;> simp_all [nullable]

theorem Lawful.encode_ne_null (h : c.Lawful) (hn : c.decode .null = none) {a : α} : c.encode a ≠ .null := by
  intro he
  have := (h.decode_iff (j := .null) (a := a) (by simp [he, Json.value])).mpr trivial
  simp [hn] at this

theorem nullable_lawful (h : c.Lawful) (hn : c.decode .null = none) : c.nullable.Lawful where
  plain_iff {j a} hd := by
    by_cases hj : j = .null
    case pos =>
      subst hj
      obtain rfl : none = a := by simpa [nullable] using hd
      simp [nullable, Json.value]
    case neg =>
      obtain ⟨a, hc, rfl⟩ := Option.map_eq_some_iff.mp (nullable_of_ne_null hj ▸ hd)
      simpa [nullable, hj] using h.plain_iff hc
  decode_value {j a} hd := by
    by_cases hj : j = .null
    case pos => simpa [hj, Json.value] using hd
    case neg =>
      obtain ⟨a, hc, rfl⟩ := Option.map_eq_some_iff.mp (nullable_of_ne_null hj ▸ hd)
      rw [nullable_of_ne_null fun he => hj (Json.value_eq_null he), h.decode_value hc, Option.map_some]
  decode_iff {j a} he := by
    cases a
    case none =>
      obtain rfl := Json.value_eq_null he
      simp [nullable, Json.Unrepeated]
    case some a =>
      have hj : j ≠ .null := fun hj => h.encode_ne_null hn (by simpa [hj, Json.value, nullable] using he.symm)
      simpa [nullable_of_ne_null hj] using h.decode_iff he

end Nullable

section List

theorem mapM_eq_some {f : β → Option α} {xs : List β} {as : List α} :
    xs.mapM f = some as ↔ List.Forall₂ (fun x a => f x = some a) xs as := by
  induction xs generalizing as
  case nil => cases as <;> simp
  case cons x xs hi =>
    cases as
    case nil       => simp [List.mapM_cons, Option.bind_eq_some_iff]
    case cons a as => simp [List.mapM_cons, Option.bind_eq_some_iff, ← hi]

theorem list_lawful (h : c.Lawful) : c.list.Lawful where
  plain_iff {j as} hd := by
    cases j
    case array items =>
      simp only [list, Json.value, Json.valueItems_eq_map, Json.array.injEq, exists_eq_left']
      replace hd := mapM_eq_some.mp hd
      induction hd
      case nil => simp
      case cons hd _ hi => simp [h.plain_iff hd, hi]
    all_goals cases hd
  decode_value {j as} hd := by
    cases j
    case array items =>
      simp only [list, Json.decodeList, Json.value, Json.valueItems_eq_map, mapM_eq_some, List.forall₂_map_left_iff] at hd ⊢
      exact hd.imp fun _ _ => h.decode_value
    all_goals cases hd
  decode_iff {j as} hj := by
    obtain ⟨items, rfl, he⟩ := Json.value_eq_array hj
    clear hj
    simp only [list, Json.decodeList, mapM_eq_some, Json.Unrepeated, Json.unrepeatedItems_iff]
    induction items generalizing as
    case nil => cases as <;> simp_all
    case cons item items hi =>
      cases as
      case nil => cases he
      case cons a as =>
        obtain ⟨hv, he⟩ : item.value = c.encode a ∧ items.map Json.value = as.map c.encode := by simpa using he
        simp [h.decode_iff hv, hi he]

end List

end JsonCodec

namespace FieldsCodec

variable {α β : Type} {c : JsonCodec α} {f : FieldsCodec α} {g : FieldsCodec β} {name : String}

theorem field_lawful (h : c.Lawful) : (field name c).Lawful where
  sorted := by simp [field, JsonMembers.sorted_cons, JsonMembers.keys]
  mem_names := by simp [field, JsonMembers.keys]
  congr he := by simp [field, JsonFields.required, he name (by simp [field])]
  plain_iff {get l a} hd := by
    obtain ⟨j, hg, hd⟩ := Option.bind_eq_some_iff.mp hd
    have hg : get name = some j := hg
    simp [field, hg, h.plain_iff hd]
  decode_value {get l a} hd := by
    obtain ⟨j, hg, hd⟩ := Option.bind_eq_some_iff.mp hd
    have hg : get name = some j := hg
    simp [field, JsonFields.required, hg, h.decode_value hd]
  decode_iff {get l a} he := by
    have he : (get name).map Json.value = some (c.encode a) := by simpa [field] using he
    obtain ⟨j, hg, he⟩ := Option.map_eq_some_iff.mp he
    simp [field, JsonFields.required, hg, h.decode_iff he]

theorem optionalField_decode {get : String → Option Json} {l : Bool} {j : Json} (h : get name = some j) :
    (optionalField name c).decode ⟨get, l⟩ = c.nullable.decode j := by
  cases j <;> simp [optionalField, JsonFields.optional, JsonCodec.nullable, h]

theorem optionalField_lawful (h : c.Lawful) (hn : c.decode .null = none) : (optionalField name c).Lawful where
  sorted := by simp [optionalField, JsonMembers.sorted_cons, JsonMembers.keys]
  mem_names := by simp [optionalField, JsonMembers.keys]
  congr he := by simp [optionalField, JsonFields.optional, he name (by simp [optionalField])]
  plain_iff {get l a} hd := by
    cases hg : get name
    case none   => simp [optionalField, hg]
    case some j =>
      rw [optionalField_decode hg] at hd
      simp [optionalField, hg, (JsonCodec.nullable_lawful h hn).plain_iff hd]
  decode_value {get l a} hd := by
    cases hg : get name
    case none   => simpa [optionalField, JsonFields.optional, hg] using hd
    case some j =>
      rw [optionalField_decode hg] at hd
      rw [optionalField_decode (j := j.value) (by simp [hg])]
      exact (JsonCodec.nullable_lawful h hn).decode_value hd
  decode_iff {get l a} he := by
    have he : (get name).map Json.value = some (c.nullable.encode a) := by simpa [optionalField] using he
    obtain ⟨j, hg, he⟩ := Option.map_eq_some_iff.mp he
    rw [optionalField_decode hg, (JsonCodec.nullable_lawful h hn).decode_iff he]
    simp [optionalField, hg]

theorem Lawful.lookup_eq_none (h : f.Lawful) {k : String} {a : α} (hk : k ∉ f.names) :
    (f.encode a).lookup k = none :=
  JsonMembers.lookup_eq_none_iff.mpr fun hm => hk (h.mem_names hm)

theorem both_eq_some {x : JsonFields} {a : α × β} :
    (both f g).decode x = some a ↔ f.decode x = some a.1 ∧ g.decode x = some a.2 := by
  simp [both, Option.bind_eq_some_iff, Prod.ext_iff]

-- Each of two records finds its own fields in the members of both.
theorem lookup_both (hf : f.Lawful) (hg : g.Lawful) (hd : ∀ k ∈ f.names, k ∉ g.names)
    (get : String → Option Json) {a : α × β} : (∀ k ∈ (both f g).names, get k = ((both f g).encode a).lookup k) ↔
      (∀ k ∈ f.names, get k = (f.encode a.1).lookup k) ∧ ∀ k ∈ g.names, get k = (g.encode a.2).lookup k := by
  simp only [both, List.mem_append, JsonMembers.lookup_insertAll, or_imp, forall_and]
  apply and_congr <;> refine forall₂_congr fun k hk => ?_
  · rw [hg.lookup_eq_none (hd k hk), Option.or_none]
  · rw [hf.lookup_eq_none fun hk' => hd k hk' hk, Option.none_or]

theorem both_lawful (hf : f.Lawful) (hg : g.Lawful) (hd : ∀ k ∈ f.names, k ∉ g.names) : (both f g).Lawful where
  sorted := hg.sorted.insertAll
  mem_names {k a} hk := by
    cases JsonMembers.mem_keys_insertAll.mp hk
    case inl hk => exact List.mem_append_left _ (hf.mem_names hk)
    case inr hk => exact List.mem_append_right _ (hg.mem_names hk)
  congr {get get' l} he := by
    simp only [both, List.mem_append] at he ⊢
    rw [hf.congr fun k hk => he k (.inl hk), hg.congr fun k hk => he k (.inr hk)]
  plain_iff {get l a} h := by
    have ⟨h₁, h₂⟩ := both_eq_some.mp h
    rw [lookup_both hf hg hd fun k => (get k).map Json.value]
    exact and_congr (hf.plain_iff h₁) (hg.plain_iff h₂)
  decode_value {get l a} h := by
    have ⟨h₁, h₂⟩ := both_eq_some.mp h
    exact both_eq_some.mpr ⟨hf.decode_value h₁, hg.decode_value h₂⟩
  decode_iff {get l a} he := by
    have ⟨h₁, h₂⟩ := (lookup_both hf hg hd fun k => (get k).map Json.value).mp he
    rw [both_eq_some, hf.decode_iff h₁, hg.decode_iff h₂]
    simp only [both, List.mem_append, or_imp, forall_and]

theorem map_lawful (h : f.Lawful) {into : α → β} {back : β → α} (hi : ∀ b, into (back b) = b)
    (hb : ∀ a, back (into a) = a) : (f.map into back).Lawful where
  sorted := h.sorted
  mem_names := h.mem_names
  congr he := congrArg (Option.map into) (h.congr he)
  plain_iff {get l b} hd := by
    obtain ⟨a, ha, rfl⟩ := Option.map_eq_some_iff.mp hd
    simpa [map, hb] using h.plain_iff ha
  decode_value {get l b} hd := by
    obtain ⟨a, ha, rfl⟩ := Option.map_eq_some_iff.mp hd
    simp [map, h.decode_value ha]
  decode_iff {get l b} he := by
    have ha : (f.map into back).decode ⟨get, l⟩ = some b ↔ f.decode ⟨get, l⟩ = some (back b) := by
      constructor
      case mp =>
        intro hd
        obtain ⟨a, ha, rfl⟩ := Option.map_eq_some_iff.mp hd
        rw [hb, ha]
      case mpr => exact fun hd => Option.map_eq_some_iff.mpr ⟨back b, hd, hi b⟩
    exact ha.trans (h.decode_iff he)

section Record

variable {members : JsonMembers} {items : List Json}

theorem lookup_zip_map {ks : List String} {k : String} :
    (ks.zip (items.map Json.value)).lookup k = ((ks.zip items).lookup k).map Json.value := by
  induction ks generalizing items
  case nil => rfl
  case cons key ks hi =>
    cases items
    case nil => rfl
    case cons item items =>
      simp only [List.map_cons, List.zip_cons_cons, JsonMembers.lookup_cons, hi]
      split_ifs <;> rfl

theorem record_object_eq_some {a : α} : f.record.decode (.object members) = some a ↔
    ((∀ k ∈ members.keys, k ∈ f.names) ∧ members.keys.Nodup) ∧ f.decode ⟨(members.lookup ·), false⟩ = some a := by
  simp [record, JsonFields.ofRecord, Option.bind_eq_some_iff]

theorem record_array_eq_some {a : α} : f.record.decode (.array items) = some a ↔
    items.length ≤ f.names.length ∧ f.decode ⟨((f.names.zip items).lookup ·), true⟩ = some a := by
  simp [record, JsonFields.ofRecord, Option.bind_eq_some_iff]

theorem record_lawful (h : f.Lawful) : f.record.Lawful where
  plain_iff {j a} hd := by
    cases j
    case object members =>
      obtain ⟨⟨hk, hn⟩, hd⟩ := record_object_eq_some.mp hd
      have hl : Json.valueMembers [] members = f.encode a ↔
          ∀ k ∈ f.names, (members.lookup k).map Json.value = (f.encode a).lookup k := by
        constructor
        case mp => exact fun he k _ => by rw [← he, Json.lookup_value hn]
        case mpr =>
          intro hl
          refine (Json.sorted_valueMembers JsonMembers.sorted_nil).ext h.sorted fun k => ?_
          rw [Json.lookup_value hn]
          by_cases hm : k ∈ f.names
          case pos => exact hl k hm
          case neg =>
            rw [h.lookup_eq_none hm, JsonMembers.lookup_eq_none_iff.mpr fun hk' => hm (hk k hk'), Option.map_none]
      simp [record, Json.value, hl, h.plain_iff hd]
    case array items => simp [record, Json.value]
    all_goals cases hd
  decode_value {j a} hd := by
    cases j
    case object members =>
      obtain ⟨⟨hk, hn⟩, hd⟩ := record_object_eq_some.mp hd
      refine record_object_eq_some.mpr ⟨⟨fun k hm => hk k ?_, ?_⟩, ?_⟩
      · simpa [JsonMembers.keys] using Json.mem_keys_valueMembers.mp hm
      · exact (Json.sorted_valueMembers JsonMembers.sorted_nil).nodup
      · simpa [Json.lookup_value hn] using h.decode_value hd
    case array items =>
      obtain ⟨hl, hd⟩ := record_array_eq_some.mp hd
      rw [Json.value, Json.valueItems_eq_map]
      refine record_array_eq_some.mpr ⟨by simpa using hl, ?_⟩
      simpa [lookup_zip_map] using h.decode_value hd
    all_goals cases hd
  decode_iff {j a} he := by
    obtain ⟨members, rfl, hm⟩ := Json.value_eq_object he
    rw [record_object_eq_some, Json.Unrepeated, Json.unrepeatedMembers_iff]
    by_cases hn : (JsonMembers.keys members).Nodup
    case neg => simp [hn]
    case pos =>
      have hk : ∀ k ∈ JsonMembers.keys members, k ∈ f.names := by
        intro k hk
        apply h.mem_names (a := a)
        rw [← hm]
        exact Json.mem_keys_valueMembers.mpr (.inr hk)
      rw [h.decode_iff fun k _ => by rw [← hm, Json.lookup_value hn]]
      constructor
      case mp =>
        rintro ⟨-, hu⟩
        exact ⟨hn, fun m hm => hu m.1 (hk _ (List.mem_map_of_mem hm)) m.2 (JsonMembers.lookup_of_mem hn hm)⟩
      case mpr =>
        rintro ⟨-, hu⟩
        exact ⟨⟨hk, hn⟩, fun k _ j hl => hu (k, j) (JsonMembers.mem_of_lookup hl)⟩

end Record

end FieldsCodec

-- A writer whose trees are what a `Value` keeps of them.
def JsonCodec.Normal {α : Type} (c : JsonCodec α) : Prop :=
  ∀ a, (c.encode a).Normal

def FieldsCodec.Normal {α : Type} (f : FieldsCodec α) : Prop :=
  ∀ a, ∀ m ∈ f.encode a, m.2.Normal

namespace JsonCodec

variable {α : Type} {c : JsonCodec α}

-- What is written is read back.
theorem Lawful.decode_encode (h : c.Lawful) (hn : c.Normal) (a : α) : c.decode (c.encode a) = some a :=
  (h.decode_iff (hn a).1).mpr (hn a).2

theorem Lawful.plain_encode (h : c.Lawful) (hn : c.Normal) (a : α) : c.Plain (c.encode a) :=
  (h.plain_iff (h.decode_encode hn a)).mp (hn a).1

theorem text_normal : text.Normal :=
  fun _ => ⟨rfl, trivial⟩

theorem unsigned_normal {max : Nat} : (unsigned max).Normal :=
  fun _ => ⟨rfl, trivial⟩

theorem variant_normal {all : List α} {name : α → String} : (variant all name).Normal :=
  fun _ => ⟨rfl, trivial⟩

theorem nullable_normal (h : c.Normal) : c.nullable.Normal := by
  intro a
  cases a
  case none   => exact ⟨rfl, trivial⟩
  case some a => exact h a

theorem list_normal (h : c.Normal) : c.list.Normal := by
  intro as
  simp only [list, Json.Normal, Json.value, Json.Unrepeated, Json.unrepeatedItems_iff, Json.valueItems_eq_map,
    List.map_map, List.forall_mem_map, Json.array.injEq]
  exact ⟨List.map_congr_left fun a _ => (h a).1, fun a _ => (h a).2⟩

end JsonCodec

namespace FieldsCodec

variable {α β : Type} {c : JsonCodec α} {f : FieldsCodec α} {g : FieldsCodec β} {name : String}

theorem field_normal (h : c.Normal) : (field name c).Normal := by
  intro a m hm
  obtain rfl := List.mem_singleton.mp hm
  exact h a

theorem optionalField_normal (h : c.Normal) : (optionalField name c).Normal := by
  intro a m hm
  obtain rfl := List.mem_singleton.mp hm
  exact JsonCodec.nullable_normal h a

theorem both_normal (hf : f.Normal) (hg : g.Normal) : (both f g).Normal := by
  intro a
  have ha := hf a.1
  simp only [both, JsonMembers.insertAll]
  generalize f.encode a.1 = ms at ha
  induction ms
  case nil => exact hg a.2
  case cons m ms hi =>
    rw [List.forall_mem_cons] at ha
    exact Json.normal_insert ha.1 (hi ha.2)

theorem map_normal (h : f.Normal) {into : α → β} {back : β → α} : (f.map into back).Normal :=
  fun b => h (back b)

theorem record_normal (hl : f.Lawful) (h : f.Normal) : f.record.Normal :=
  fun a => Json.normal_object hl.sorted (h a)

end FieldsCodec
