import Mathlib.Data.List.Nodup
import Mathlib.Data.String.Basic

-- A number of a JSON text: one that an integer holds, or what an `f64` makes of it.
inductive JsonNumber
  | posInt (n : Nat)
  | negInt (n : Nat)
  | float (bits : Nat)
deriving DecidableEq, Repr

-- A JSON text as a tree. An object keeps its members in the order of the text, and the same key may be
-- there more than once.
inductive Json
  | null
  | bool (b : Bool)
  | number (n : JsonNumber)
  | string (s : String)
  | array (items : List Json)
  | object (members : List (String × Json))

abbrev JsonMembers := List (String × Json)

namespace JsonMembers

def keys (ms : JsonMembers) : List String :=
  ms.map Prod.fst

-- `Map::insert` on members in the order of their keys: the value of a key that is there is replaced.
def insert (key : String) (value : Json) : JsonMembers → JsonMembers
  | [] => [(key, value)]
  | (k, v) :: ms =>
    if key < k then (key, value) :: (k, v) :: ms
    else if key = k then (key, value) :: ms
    else (k, v) :: insert key value ms

-- `Map::extend`
def insertAll (news : JsonMembers) (ms : JsonMembers) : JsonMembers :=
  news.foldr (fun m ms => insert m.1 m.2 ms) ms

-- `Map::remove`
def remove (key : String) (ms : JsonMembers) : JsonMembers :=
  ms.filter (·.1 ≠ key)

def Sorted (ms : JsonMembers) : Prop :=
  ms.keys.Pairwise (· < ·)

variable {ms ms' : JsonMembers} {k key : String} {v value : Json}

@[simp]
theorem sorted_nil : Sorted [] :=
  .nil

theorem sorted_cons : Sorted ((k, v) :: ms) ↔ (∀ k' ∈ ms.keys, k < k') ∧ ms.Sorted := by
  simp [Sorted, keys]

theorem Sorted.nodup (h : ms.Sorted) : ms.keys.Nodup :=
  h.imp ne_of_lt

theorem lookup_cons {m : String × Json} : List.lookup k (m :: ms) = if k = m.1 then some m.2 else ms.lookup k := by
  obtain ⟨key, value⟩ := m
  rw [List.lookup_cons]
  by_cases hk : k = key
  case pos => simp [hk]
  case neg => simp [hk, beq_eq_false_iff_ne.mpr hk]

theorem lookup_eq_none_iff : ms.lookup k = none ↔ k ∉ ms.keys := by
  rw [List.lookup_eq_none_iff, keys, List.mem_map, not_exists]
  refine forall_congr' fun m => ?_
  rw [bne_iff_ne, not_and, ne_comm]

theorem mem_of_lookup (h : ms.lookup k = some v) : (k, v) ∈ ms := by
  obtain ⟨before, after, rfl, -⟩ := List.lookup_eq_some_iff.mp h
  simp

theorem lookup_of_mem (hn : ms.keys.Nodup) (h : (k, v) ∈ ms) : ms.lookup k = some v := by
  induction ms
  case nil => cases h
  case cons m ms hi =>
    simp only [keys, List.map_cons, List.nodup_cons] at hn
    rw [lookup_cons]
    cases h
    case head => simp
    case tail h =>
      have hk : k ≠ m.1 := fun he => hn.left (he ▸ List.mem_map_of_mem h)
      simpa [hk] using hi hn.right h

theorem lookup_insert : (ms.insert key value).lookup k = if k = key then some value else ms.lookup k := by
  induction ms
  case nil => simp [insert, lookup_cons]
  case cons m ms hi =>
    simp only [insert]
    split_ifs <;> simp_all [lookup_cons]

theorem mem_keys_insert : k ∈ (ms.insert key value).keys ↔ k = key ∨ k ∈ ms.keys := by
  rw [← not_iff_not, ← lookup_eq_none_iff, lookup_insert, not_or, ← lookup_eq_none_iff]
  split_ifs <;> simp_all

theorem Sorted.insert (h : ms.Sorted) : (ms.insert key value).Sorted := by
  induction ms
  case nil => simp [JsonMembers.insert, sorted_cons, keys]
  case cons m ms hi =>
    have ⟨hm, hs⟩ := sorted_cons.mp h
    simp only [JsonMembers.insert]
    split_ifs
    case pos hk =>
      refine sorted_cons.mpr ⟨?_, h⟩
      intro k' hk'
      cases List.mem_cons.mp hk'
      case inl he => exact he ▸ hk
      case inr hk' => exact hk.trans (hm k' hk')
    case pos _ hk => exact sorted_cons.mpr ⟨hk ▸ hm, hs⟩
    case neg hk hk' =>
      refine sorted_cons.mpr ⟨?_, hi hs⟩
      intro k' h'
      cases mem_keys_insert.mp h'
      case inl he => exact he ▸ lt_of_le_of_ne (not_lt.mp hk) (Ne.symm hk')
      case inr h' => exact hm k' h'

theorem lookup_insertAll {news : JsonMembers} : (insertAll news ms).lookup k = (news.lookup k).or (ms.lookup k) := by
  induction news
  case nil => simp [insertAll]
  case cons m news hi =>
    have hi : (List.foldr (fun m ms => insert m.1 m.2 ms) ms news).lookup k = _ := hi
    rw [insertAll, List.foldr_cons, lookup_insert, hi, lookup_cons]
    by_cases hk : k = m.1 <;> simp [hk]

theorem Sorted.insertAll {news : JsonMembers} (h : ms.Sorted) : (JsonMembers.insertAll news ms).Sorted := by
  induction news
  case nil => exact h
  case cons m news hi => exact hi.insert

theorem mem_keys_insertAll {news : JsonMembers} : k ∈ (insertAll news ms).keys ↔ k ∈ news.keys ∨ k ∈ ms.keys := by
  rw [← not_iff_not, ← lookup_eq_none_iff, lookup_insertAll, not_or, ← lookup_eq_none_iff, ← lookup_eq_none_iff,
    Option.or_eq_none_iff]

theorem lookup_remove : (ms.remove key).lookup k = if k = key then none else ms.lookup k := by
  induction ms
  case nil => simp [remove]
  case cons m ms hi =>
    simp only [remove, List.filter_cons] at hi ⊢
    split_ifs <;> simp_all [lookup_cons] <;> grind

theorem mem_keys_remove : k ∈ (ms.remove key).keys ↔ k ≠ key ∧ k ∈ ms.keys := by
  rw [← not_iff_not, ← lookup_eq_none_iff, lookup_remove, not_and, ← lookup_eq_none_iff]
  split_ifs <;> simp_all

theorem Sorted.remove (h : ms.Sorted) : (ms.remove key).Sorted :=
  List.Pairwise.sublist (List.filter_sublist.map _) h

-- Members in the order of their keys are what can be looked up in them.
theorem Sorted.ext (h : ms.Sorted) (h' : ms'.Sorted) (hl : ∀ k, ms.lookup k = ms'.lookup k) : ms = ms' := by
  induction ms generalizing ms'
  case nil =>
    cases ms'
    case nil => rfl
    case cons m ms' => simpa [lookup_cons] using hl m.1
  case cons m ms hi =>
    cases ms'
    case nil => simpa [lookup_cons] using hl m.1
    case cons m' ms' =>
      have ⟨hm, hs⟩ := sorted_cons.mp h
      have ⟨hm', hs'⟩ := sorted_cons.mp h'
      have hk : m.1 = m'.1 := by
        rcases lt_trichotomy m.1 m'.1 with hk | hk | hk
        · have hn : m.1 ∉ keys ms' := fun hn => absurd (hk.trans (hm' _ hn)) (lt_irrefl _)
          simpa [lookup_cons, hk.ne, lookup_eq_none_iff.mpr hn] using hl m.1
        · exact hk
        · have hn : m'.1 ∉ keys ms := fun hn => absurd (hk.trans (hm _ hn)) (lt_irrefl _)
          simpa [lookup_cons, hk.ne, lookup_eq_none_iff.mpr hn] using hl m'.1
      have hv : m.2 = m'.2 := by simpa [lookup_cons, hk] using hl m.1
      have hr : ∀ k, ms.lookup k = ms'.lookup k := by
        intro k
        by_cases he : k = m.1
        case pos =>
          subst he
          rw [lookup_eq_none_iff.mpr fun hn => lt_irrefl _ (hm _ hn),
            lookup_eq_none_iff.mpr fun hn => lt_irrefl _ (hk ▸ hm' _ hn)]
        case neg => simpa [lookup_cons, he, hk ▸ he] using hl k
      rw [Prod.ext hk hv, hi hs hs' hr]

end JsonMembers

namespace Json

mutual

def same : Json → Json → Bool
  | null,       null        => true
  | bool b,     bool b'     => b = b'
  | number n,   number n'   => n = n'
  | string s,   string s'   => s = s'
  | array is,   array is'   => sameItems is is'
  | object ms,  object ms'  => sameMembers ms ms'
  | _,          _           => false

def sameItems : List Json → List Json → Bool
  | [],      []        => true
  | i :: is, i' :: is' => i.same i' && sameItems is is'
  | _,       _         => false

def sameMembers : JsonMembers → JsonMembers → Bool
  | [],           []             => true
  | (k, j) :: ms, (k', j') :: ms' => k = k' && j.same j' && sameMembers ms ms'
  | _,            _              => false

end

mutual

theorem same_iff {j j' : Json} : j.same j' = true ↔ j = j' := by
  cases j <;> cases j' <;> simp [same, sameItems_iff, sameMembers_iff]

theorem sameItems_iff {is is' : List Json} : sameItems is is' = true ↔ is = is' := by
  cases is <;> cases is' <;> simp [sameItems, same_iff, sameItems_iff]

theorem sameMembers_iff {ms ms' : JsonMembers} : sameMembers ms ms' = true ↔ ms = ms' := by
  cases ms <;> cases ms' <;> simp [sameMembers, same_iff, sameMembers_iff, Prod.ext_iff]

end

instance : DecidableEq Json :=
  fun j j' => decidable_of_iff (j.same j' = true) same_iff

mutual

-- What a `Value` keeps of a text: the last of the members with the same key, and no order of them.
def value : Json → Json
  | object members => object (valueMembers [] members)
  | array items    => array (valueItems items)
  | null           => null
  | bool b         => bool b
  | number n       => number n
  | string s       => string s

def valueItems : List Json → List Json
  | []            => []
  | item :: items => item.value :: valueItems items

def valueMembers (kept : JsonMembers) : JsonMembers → JsonMembers
  | []                     => kept
  | (key, member) :: members => valueMembers (kept.insert key member.value) members

end

mutual

-- No object of the text has the same key twice.
def Unrepeated : Json → Prop
  | object members => (JsonMembers.keys members).Nodup ∧ UnrepeatedMembers members
  | array items    => UnrepeatedItems items
  | null           => True
  | bool _         => True
  | number _       => True
  | string _       => True

def UnrepeatedItems : List Json → Prop
  | []            => True
  | item :: items => item.Unrepeated ∧ UnrepeatedItems items

def UnrepeatedMembers : JsonMembers → Prop
  | []                  => True
  | (_, member) :: members => member.Unrepeated ∧ UnrepeatedMembers members

end

variable {ms kept : JsonMembers} {items : List Json} {k : String}

theorem valueItems_eq_map : valueItems items = items.map value := by
  induction items
  case nil => rfl
  case cons item items hi => rw [valueItems, List.map_cons, hi]

theorem unrepeatedItems_iff : UnrepeatedItems items ↔ ∀ item ∈ items, item.Unrepeated := by
  induction items
  case nil => simp [UnrepeatedItems]
  case cons item items hi => simp [UnrepeatedItems, hi]

theorem unrepeatedMembers_iff : UnrepeatedMembers ms ↔ ∀ m ∈ ms, m.2.Unrepeated := by
  induction ms
  case nil => simp [UnrepeatedMembers]
  case cons m ms hi => simp [UnrepeatedMembers, hi]

theorem sorted_valueMembers (h : kept.Sorted) : (valueMembers kept ms).Sorted := by
  induction ms generalizing kept
  case nil => exact h
  case cons m ms hi => exact hi h.insert

theorem mem_keys_valueMembers : k ∈ (valueMembers kept ms).keys ↔ k ∈ kept.keys ∨ k ∈ ms.keys := by
  induction ms generalizing kept
  case nil => simp [valueMembers, JsonMembers.keys]
  case cons m ms hi =>
    simp only [valueMembers, hi, JsonMembers.mem_keys_insert]
    simp only [JsonMembers.keys, List.map_cons, List.mem_cons]
    tauto

theorem lookup_valueMembers (h : ms.keys.Nodup) :
    (valueMembers kept ms).lookup k = ((ms.lookup k).map value).or (kept.lookup k) := by
  induction ms generalizing kept
  case nil => rfl
  case cons m ms hi =>
    simp only [JsonMembers.keys, List.map_cons, List.nodup_cons] at h
    rw [valueMembers, hi h.right, JsonMembers.lookup_insert, JsonMembers.lookup_cons]
    by_cases hk : k = m.1
    case pos =>
      subst hk
      simp [JsonMembers.lookup_eq_none_iff.mpr h.left]
    case neg => simp [hk]

-- What is looked up in the value of an object without repeated keys is the value of what is in the text.
theorem lookup_value (h : ms.keys.Nodup) : (valueMembers [] ms).lookup k = (ms.lookup k).map value := by
  rw [lookup_valueMembers h, List.lookup_nil, Option.or_none]

theorem value_eq_object {j : Json} (h : j.value = .object ms) :
    ∃ members, j = .object members ∧ valueMembers [] members = ms := by
  cases j <;> simp_all [value]

theorem value_eq_array {j : Json} (h : j.value = .array items) :
    ∃ items', j = .array items' ∧ items'.map value = items := by
  cases j <;> simp_all [value, valueItems_eq_map]

theorem value_eq_string {j : Json} {s : String} (h : j.value = .string s) : j = .string s := by
  cases j <;> simp_all [value]

theorem value_eq_number {j : Json} {n : JsonNumber} (h : j.value = .number n) : j = .number n := by
  cases j <;> simp_all [value]

theorem value_eq_null {j : Json} (h : j.value = .null) : j = .null := by
  cases j <;> simp_all [value]

-- A tree that a `Value` keeps as it is.
def Normal (j : Json) : Prop :=
  j.value = j ∧ j.Unrepeated

theorem normal_object (hs : ms.Sorted) (h : ∀ m ∈ ms, m.2.Normal) : (object ms).Normal := by
  refine ⟨?_, hs.nodup, unrepeatedMembers_iff.mpr fun m hm => (h m hm).2⟩
  rw [value, object.injEq]
  refine (sorted_valueMembers JsonMembers.sorted_nil).ext hs fun k => ?_
  rw [lookup_value hs.nodup]
  cases hl : ms.lookup k
  case none   => rfl
  case some j => exact congrArg some (h _ (JsonMembers.mem_of_lookup hl)).1

theorem normal_insert {j : Json} (hj : j.Normal) (h : ∀ m ∈ ms, m.2.Normal) :
    ∀ m ∈ ms.insert k j, m.2.Normal := by
  induction ms
  case nil => simpa [JsonMembers.insert] using hj
  case cons m ms hi =>
    simp only [List.forall_mem_cons] at h
    simp only [JsonMembers.insert]
    split_ifs <;> simp only [List.forall_mem_cons]
    · exact ⟨hj, h⟩
    · exact ⟨hj, h.2⟩
    · exact ⟨h.1, hi h.2⟩

mutual

theorem value_normal : (j : Json) → j.value.Normal
  | object members => normal_object (sorted_valueMembers JsonMembers.sorted_nil) (valueMembers_normal members [] (by simp))
  | array items    => by
    rw [value, Normal, value, Unrepeated, unrepeatedItems_iff, @valueItems_eq_map (valueItems items), array.injEq]
    exact ⟨List.map_congr_left (fun j hj => (valueItems_normal items j hj).1) |>.trans (List.map_id _),
      fun j hj => (valueItems_normal items j hj).2⟩
  | null           => ⟨rfl, trivial⟩
  | bool _         => ⟨rfl, trivial⟩
  | number _       => ⟨rfl, trivial⟩
  | string _       => ⟨rfl, trivial⟩

theorem valueItems_normal : (items : List Json) → ∀ j ∈ valueItems items, j.Normal
  | []            => by simp [valueItems]
  | item :: items => by
    rw [valueItems, List.forall_mem_cons]
    exact ⟨value_normal item, valueItems_normal items⟩

theorem valueMembers_normal : (members kept : JsonMembers) → (∀ m ∈ kept, m.2.Normal) →
    ∀ m ∈ valueMembers kept members, m.2.Normal
  | [], _, h                         => by simpa [valueMembers] using h
  | (key, member) :: members, kept, h => by
    rw [valueMembers]
    exact valueMembers_normal members _ (normal_insert (value_normal member) h)

end

end Json
