/-
  The members of JSON objects under any key, and what holds at every node of a value.

  An object is determined by its members when their keys are in order
  (`object_ext`). `same` is the library's `==`, for which the kind of a number does
  not matter; a normal form is equal to the value (`same_normalize`), and what is read
  of it is the same.
-/
import Axtp.Json.Value
import Axtp.Lib.Double

namespace Axtp

namespace Json

/-! ### Members -/

/-- The member of an object under a key that need not be a literal. -/
def member (key : Bytes) : Json → Option Json
  | object members => members.lookup key
  | _ => none

/-- `object[key] = value`, for any key. -/
def setMember (target : Json) (key : Bytes) (value : Json) : Json :=
  match target with
  | object members => object (insertMember key value members)
  | other => other

theorem member_setMember (key k : Bytes) (value : Json) (members : List (Bytes × Json)) :
    ((object members).setMember key value).member k =
      if k = key then some value else (object members).member k :=
  lookup_insertMember key k value members

/-- Members under different keys may be assigned in either order. -/
theorem insertMember_comm {key key' : Bytes} (hne : key ≠ key') (value value' : Json)
    (members : List (Bytes × Json)) :
    insertMember key' value' (insertMember key value members) =
      insertMember key value (insertMember key' value' members) := by
  -- the order of the keys is total, so that of the two that comes first is the same both times
  have hasymm (a b : Bytes) (hab : KeyLt a b) : ¬ KeyLt b a := lt_asymm hab
  have htrans (a b c : Bytes) (hab : KeyLt a b) (hbc : KeyLt b c) : KeyLt a c :=
    keyLt_trans hab hbc
  have htotal (a b : Bytes) (hab : a ≠ b) (hnot : ¬ KeyLt a b) : KeyLt b a := keyLt_of_not hab hnot
  induction members with
  | nil => grind [insertMember]
  | cons m rest ih =>
    obtain ⟨k, v⟩ := m
    grind [insertMember]

theorem setMember_comm {key key' : Bytes} (hne : key ≠ key') (target value value' : Json) :
    (target.setMember key value).setMember key' value' =
      (target.setMember key' value').setMember key value := by
  cases target with
  | object members => exact congrArg object (insertMember_comm hne value value' members)
  | _ => rfl

theorem lookup_isSome_iff {key : Bytes} {members : List (Bytes × Json)} :
    (members.lookup key).isSome = true ↔ key ∈ members.map Prod.fst := by
  induction members with
  | nil => simp
  | cons m rest ih =>
    obtain ⟨k, v⟩ := m
    rw [lookup_cons_eq, List.map_cons, List.mem_cons]
    by_cases hk : key = k
    · simp [hk]
    · rw [if_neg hk, ih]
      simp [hk]

theorem mem_of_lookup {key : Bytes} {value : Json} {members : List (Bytes × Json)}
    (h : members.lookup key = some value) : (key, value) ∈ members := by
  obtain ⟨before, after, rfl, -⟩ := List.lookup_eq_some_iff.mp h
  simp

theorem not_keyLt_self (key : Bytes) : ¬ KeyLt key key := lt_irrefl _

/-- Two lists of members in the order of their keys are equal if their lookups are. -/
theorem members_ext {members members' : List (Bytes × Json)}
    (h : (members.map Prod.fst).Pairwise KeyLt) (h' : (members'.map Prod.fst).Pairwise KeyLt)
    (hlookup : ∀ key, members.lookup key = members'.lookup key) : members = members' := by
  induction members generalizing members' with
  | nil =>
    rcases members' with _ | ⟨⟨key, value⟩, rest⟩
    · rfl
    · have := hlookup key
      simp at this
  | cons m rest ih =>
    obtain ⟨key, value⟩ := m
    rcases members' with _ | ⟨⟨key', value'⟩, rest'⟩
    · have := hlookup key
      simp at this
    rw [List.map_cons, List.pairwise_cons] at h h'
    -- neither first key comes before the other one
    have hfirst {k k' : Bytes} {v v' : Json} {r r' : List (Bytes × Json)}
        (hr : ∀ x ∈ r'.map Prod.fst, KeyLt k' x)
        (hsame : ∀ x, ((k, v) :: r).lookup x = ((k', v') :: r').lookup x) : ¬ KeyLt k k' := by
      intro hlt
      have hk := hsame k
      rw [lookup_cons_eq, if_pos rfl, lookup_cons_eq] at hk
      have hne : k ≠ k' := fun heq => not_keyLt_self k' (heq ▸ hlt)
      rw [if_neg hne] at hk
      have hmem := lookup_isSome_iff.mp (by rw [← hk]; rfl)
      exact not_keyLt_self k (keyLt_trans hlt (hr k hmem))
    have hkey : key = key' := by
      by_contra hne
      exact hfirst h.1 (fun x => (hlookup x).symm) (keyLt_of_not hne (hfirst h'.1 hlookup))
    subst hkey
    have hvalue := hlookup key
    rw [lookup_cons_eq, lookup_cons_eq, if_pos rfl, if_pos rfl] at hvalue
    obtain rfl := Option.some.inj hvalue
    have hrest : rest = rest' := by
      refine ih h.2 h'.2 fun k => ?_
      by_cases hk : k = key
      · subst hk
        have hnot {r : List (Bytes × Json)} (hr : ∀ x ∈ r.map Prod.fst, KeyLt k x) :
            r.lookup k = none := by
          by_contra hsome
          have hmem := lookup_isSome_iff.mp (Option.isSome_iff_ne_none.mpr hsome)
          exact not_keyLt_self k (hr k hmem)
        rw [hnot h.1, hnot h'.1]
      · have := hlookup k
        rw [lookup_cons_eq, lookup_cons_eq, if_neg hk, if_neg hk] at this
        exact this
    rw [hrest]

/-! ### All nodes of a value -/

mutual

/-- A property of a value and of all values inside it. -/
def everywhere (p : Json → Bool) : Json → Bool
  | null => p null
  | boolean value => p (boolean value)
  | unsigned value => p (unsigned value)
  | integer value => p (integer value)
  | float bits => p (float bits)
  | string value => p (string value)
  | array items => p (array items) && everywhereItems p items
  | object members => p (object members) && everywhereMembers p members

def everywhereItems (p : Json → Bool) : List Json → Bool
  | [] => true
  | item :: items => everywhere p item && everywhereItems p items

def everywhereMembers (p : Json → Bool) : List (Bytes × Json) → Bool
  | [] => true
  | (_, value) :: members => everywhere p value && everywhereMembers p members

end

theorem everywhereMembers_iff {p : Json → Bool} {members : List (Bytes × Json)} :
    everywhereMembers p members = true ↔ ∀ m ∈ members, everywhere p m.2 = true := by
  induction members with
  | nil => simp [everywhereMembers]
  | cons m rest ih =>
    obtain ⟨key, value⟩ := m
    rw [everywhereMembers, Bool.and_eq_true, ih, List.forall_mem_cons]

theorem everywhere_object {p : Json → Bool} {members : List (Bytes × Json)} :
    everywhere p (object members) = true ↔
      p (object members) = true ∧ ∀ m ∈ members, everywhere p m.2 = true := by
  rw [everywhere, Bool.and_eq_true, everywhereMembers_iff]

/-- The keys of an object are in order. -/
def hasOrderedKeys : Json → Bool
  | object members => decide ((members.map Prod.fst).Pairwise KeyLt)
  | _ => true

/-- A value as the library holds it: the keys of each object are in order. -/
def isOrdered (value : Json) : Bool := everywhere hasOrderedKeys value

theorem isOrdered_object {members : List (Bytes × Json)} : (object members).isOrdered = true ↔
    (members.map Prod.fst).Pairwise KeyLt ∧ ∀ m ∈ members, m.2.isOrdered = true := by
  rw [isOrdered, everywhere_object, hasOrderedKeys, decide_eq_true_iff]
  rfl

/-- The strings of one node are UTF-8. -/
def hasText : Json → Bool
  | string value => isUtf8 value
  | object members => members.all fun m => isUtf8 m.1
  | _ => true

/-- A value whose strings and keys are all UTF-8. -/
def isText (value : Json) : Bool := everywhere hasText value

theorem isText_object {members : List (Bytes × Json)} : (object members).isText = true ↔
    (∀ m ∈ members, isUtf8 m.1 = true) ∧ ∀ m ∈ members, m.2.isText = true := by
  rw [isText, everywhere_object, hasText, List.all_eq_true]
  rfl

/-! ### Nesting -/

mutual

/-- How deep arrays and objects are nested in a value, which counts as one itself. -/
def nesting : Json → ℕ
  | array items => nestingItems items + 1
  | object members => nestingMembers members + 1
  | _ => 0

def nestingItems : List Json → ℕ
  | [] => 0
  | item :: items => max (nesting item) (nestingItems items)

def nestingMembers : List (Bytes × Json) → ℕ
  | [] => 0
  | (_, value) :: members => max (nesting value) (nestingMembers members)

end

theorem normalizeMembers_eq (members : List (Bytes × Json)) :
    normalizeMembers members = members.map fun m => (m.1, m.2.normalize) := by
  induction members with
  | nil => rfl
  | cons m rest ih =>
    obtain ⟨key, value⟩ := m
    rw [normalizeMembers, ih, List.map_cons]

theorem normalize_object (members : List (Bytes × Json)) :
    (object members).normalize = object (members.map fun m => (m.1, m.2.normalize)) := by
  rw [normalize, normalizeMembers_eq]

theorem lookup_map_snd (f : Json → Json) (key : Bytes) (members : List (Bytes × Json)) :
    (members.map fun m => (m.1, f m.2)).lookup key = (members.lookup key).map f := by
  induction members with
  | nil => rfl
  | cons m rest ih =>
    obtain ⟨k, v⟩ := m
    rw [List.map_cons, lookup_cons_eq, lookup_cons_eq, ih]
    split_ifs <;> rfl

theorem member_normalize (key : Bytes) (target : Json) :
    target.normalize.member key = (target.member key).map normalize := by
  cases target with
  | object members =>
    rw [normalize_object]
    exact lookup_map_snd normalize key members
  | integer value =>
    rw [normalize]
    split_ifs <;> rfl
  | _ => rfl

/-! ### What is read of a normal form -/

theorem find_normalize (key : String) (target : Json) :
    target.normalize.find key = (target.find key).map normalize := by
  cases target with
  | object members =>
    rw [normalize_object]
    exact lookup_map_snd normalize (ascii key) members
  | integer value =>
    rw [normalize]
    split_ifs <;> rfl
  | _ => rfl

@[simp] theorem isObject_normalize (value : Json) : value.normalize.isObject = value.isObject := by
  cases value with
  | integer value =>
    rw [normalize]
    split_ifs <;> rfl
  | _ => rfl

@[simp] theorem getString_normalize (value : Json) :
    value.normalize.getString = value.getString := by
  cases value with
  | integer value =>
    rw [normalize]
    split_ifs <;> rfl
  | _ => rfl

@[simp] theorem getBoolean_normalize (value : Json) :
    value.normalize.getBoolean = value.getBoolean := by
  cases value with
  | integer value =>
    rw [normalize]
    split_ifs <;> rfl
  | _ => rfl

@[simp] theorem isInteger_normalize (value : Json) :
    value.normalize.isInteger = value.isInteger := by
  cases value with
  | integer value =>
    rw [normalize]
    split_ifs <;> rfl
  | _ => rfl

@[simp] theorem getUnsigned_normalize (value : Json) :
    value.normalize.getUnsigned = value.getUnsigned := by
  cases value with
  | integer value =>
    rw [normalize]
    split_ifs with hneg
    · rfl
    · rw [getUnsigned, getUnsigned, if_neg hneg]
  | _ => rfl

@[simp] theorem getInt64_normalize (value : Json) : value.normalize.getInt64 = value.getInt64 := by
  cases value with
  | integer value =>
    rw [normalize]
    split_ifs <;> rfl
  | _ => rfl

mutual

/-- A normal form is its own. -/
theorem normalize_normalize : ∀ value : Json, value.normalize.normalize = value.normalize
  | null => rfl
  | boolean value => by simp only [normalize]
  | unsigned value => by simp only [normalize]
  | integer value => by
    rw [normalize]
    split_ifs with hneg
    · rw [normalize, if_pos hneg]
    · rw [normalize]
  | float bits => by simp only [normalize]
  | string value => by simp only [normalize]
  | array items => by simp only [normalize, normalizeItems_normalizeItems items]
  | object members => by simp only [normalize, normalizeMembers_normalizeMembers members]

theorem normalizeItems_normalizeItems :
    ∀ items : List Json, normalizeItems (normalizeItems items) = normalizeItems items
  | [] => rfl
  | item :: items => by
    simp only [normalizeItems, normalize_normalize item, normalizeItems_normalizeItems items]

theorem normalizeMembers_normalizeMembers : ∀ members : List (Bytes × Json),
    normalizeMembers (normalizeMembers members) = normalizeMembers members
  | [] => rfl
  | (key, value) :: members => by
    simp only [normalizeMembers, normalize_normalize value,
      normalizeMembers_normalizeMembers members]

end

/-! ### Equality -/

mutual

/-- `operator==`: numbers are compared by their values, whatever kind they are kept as. Beside a
float an integer is cast to one. Bits that are no number are equal to themselves here, which no
parsed value shows. -/
def same : Json → Json → Bool
  | null, null => true
  | boolean a, boolean b => a = b
  | unsigned a, unsigned b => a = b
  | unsigned a, integer b => a.toNat = b.toInt
  | unsigned a, float b => Double.roundsTo a.toNat b
  | integer a, unsigned b => a.toInt = b.toNat
  | integer a, integer b => a = b
  | integer a, float b => Double.roundsTo a.toInt b
  | float a, unsigned b => Double.roundsTo b.toNat a
  | float a, integer b => Double.roundsTo b.toInt a
  | float a, float b => a = b ∨ ((Double.value a).isSome ∧ Double.value a = Double.value b)
  | string a, string b => a = b
  | array a, array b => sameItems a b
  | object a, object b => sameMembers a b
  | _, _ => false

def sameItems : List Json → List Json → Bool
  | [], [] => true
  | a :: as, b :: bs => same a b && sameItems as bs
  | _, _ => false

def sameMembers : List (Bytes × Json) → List (Bytes × Json) → Bool
  | [], [] => true
  | (k, a) :: as, (l, b) :: bs => k = l && same a b && sameMembers as bs
  | _, _ => false

end

theorem toNat_toUInt64_of_nonneg {value : Int64} (h : ¬ value < 0) :
    (value.toUInt64.toNat : ℤ) = value.toInt := by
  have hnonneg : 0 ≤ value.toInt := by
    rw [Int64.lt_iff_toInt_lt, not_lt] at h
    exact h
  have hbits : value.toInt = value.toBitVec.toInt := rfl
  have hnat : value.toUInt64.toNat = value.toBitVec.toNat := rfl
  rw [hbits, BitVec.toInt_eq_toNat_cond] at hnonneg ⊢
  have hlt := value.toBitVec.isLt
  rw [hnat]
  split_ifs at hnonneg ⊢
  · rfl
  · omega

mutual

/-- **The normal form** is equal to the value. -/
theorem same_normalize : ∀ value : Json, value.normalize.same value = true
  | null => rfl
  | boolean value => by simp [normalize, same]
  | unsigned value => by simp [normalize, same]
  | integer value => by
    rw [normalize]
    split_ifs with hneg
    · simp [same]
    · simp [same, toNat_toUInt64_of_nonneg hneg]
  | float bits => by simp [normalize, same]
  | string value => by simp [normalize, same]
  | array items => by
    rw [normalize, same]
    exact sameItems_normalize items
  | object members => by
    rw [normalize, same]
    exact sameMembers_normalize members

theorem sameItems_normalize : ∀ items : List Json, sameItems (normalizeItems items) items = true
  | [] => rfl
  | item :: items => by
    rw [normalizeItems, sameItems, same_normalize item, sameItems_normalize items, Bool.and_true]

theorem sameMembers_normalize :
    ∀ members : List (Bytes × Json), sameMembers (normalizeMembers members) members = true
  | [] => rfl
  | (key, value) :: members => by
    rw [normalizeMembers, sameMembers, same_normalize value, sameMembers_normalize members]
    simp

end

/-! ### Text of a normal form -/

mutual

/-- A normal form has the same strings and keys. -/
theorem isText_normalize : ∀ value : Json, value.normalize.isText = value.isText
  | null => rfl
  | boolean value => by rw [normalize]
  | unsigned value => by rw [normalize]
  | integer value => by
    rw [normalize]
    split_ifs <;> rfl
  | float bits => by rw [normalize]
  | string value => by rw [normalize]
  | array items => by
    rw [normalize, isText, isText, everywhere, everywhere, everywhereItems_normalize items]
    rfl
  | object members => by
    rw [normalize, isText, isText, everywhere, everywhere, everywhereMembers_normalize members,
      hasText, hasText, normalizeMembers_eq, List.all_map]
    rfl

theorem everywhereItems_normalize : ∀ items : List Json,
    everywhereItems hasText (normalizeItems items) = everywhereItems hasText items
  | [] => rfl
  | item :: items => by
    rw [normalizeItems, everywhereItems, everywhereItems, everywhereItems_normalize items]
    exact congrArg (· && everywhereItems hasText items) (isText_normalize item)

theorem everywhereMembers_normalize : ∀ members : List (Bytes × Json),
    everywhereMembers hasText (normalizeMembers members) = everywhereMembers hasText members
  | [] => rfl
  | (key, value) :: members => by
    rw [normalizeMembers, everywhereMembers, everywhereMembers, everywhereMembers_normalize members]
    exact congrArg (· && everywhereMembers hasText members) (isText_normalize value)

end

/-- The strings and keys of a valid value are UTF-8. -/
theorem Valid.isText {value : Json} (h : value.Valid) : value.isText = true := by
  induction h with
  | string h => exact h
  | @array items _ ih =>
    rw [Json.isText, everywhere, Bool.and_eq_true]
    refine ⟨rfl, ?_⟩
    clear * - ih
    induction items with
    | nil => rfl
    | cons item items ihItems =>
      rw [List.forall_mem_cons] at ih
      rw [everywhereItems, Bool.and_eq_true]
      exact ⟨ih.1, ihItems ih.2⟩
  | object hkeys hutf8 _ ih => exact isText_object.mpr ⟨hutf8, ih⟩
  | _ => rfl

/-- The normal form of a valid value is valid. -/
theorem Valid.normalize {value : Json} (h : value.Valid) : value.normalize.Valid := by
  induction h with
  | null => exact .null
  | boolean value =>
    rw [Json.normalize]
    exact .boolean value
  | unsigned value =>
    rw [Json.normalize]
    exact .unsigned value
  | integer h =>
    rw [Json.normalize]
    split_ifs
    · exact .integer h
    · exact .unsigned _
  | float h =>
    rw [Json.normalize]
    exact .float h
  | string h =>
    rw [Json.normalize]
    exact .string h
  | @array items _ ih =>
    rw [Json.normalize]
    refine .array ?_
    clear * - ih
    induction items with
    | nil => exact List.forall_mem_nil _
    | cons item items ihItems =>
      rw [List.forall_mem_cons] at ih
      rw [normalizeItems, List.forall_mem_cons]
      exact ⟨ih.1, ihItems ih.2⟩
  | object hkeys hutf8 _ ih =>
    rw [normalize_object]
    refine .object ?_ ?_ ?_
    · rw [List.map_map]
      exact hkeys
    · rw [List.forall_mem_map]
      exact hutf8
    · rw [List.forall_mem_map]
      exact ih

/-! ### Valid values, strings apart -/

/-- The node is as the library keeps it, whatever its strings: integers that are not positive,
finite floats, keys in order. -/
def hasShape : Json → Bool
  | integer value => value ≤ 0
  | float bits => (bits.toNat / 2 ^ 52) % 2 ^ 11 ≠ 2047
  | object members => decide ((members.map Prod.fst).Pairwise KeyLt)
  | _ => true

def isShaped (value : Json) : Bool := everywhere hasShape value

theorem isShaped_object {members : List (Bytes × Json)} : (object members).isShaped = true ↔
    (members.map Prod.fst).Pairwise KeyLt ∧ ∀ m ∈ members, m.2.isShaped = true := by
  rw [isShaped, everywhere_object, hasShape, decide_eq_true_iff]
  rfl

theorem Valid.isShaped {value : Json} (h : value.Valid) : value.isShaped = true := by
  induction h with
  | integer h => exact decide_eq_true h
  | float h => exact decide_eq_true h
  | @array items _ ih =>
    rw [Json.isShaped, everywhere, Bool.and_eq_true]
    refine ⟨rfl, ?_⟩
    clear * - ih
    induction items with
    | nil => rfl
    | cons item items ihItems =>
      rw [List.forall_mem_cons] at ih
      rw [everywhereItems, Bool.and_eq_true]
      exact ⟨ih.1, ihItems ih.2⟩
  | object hkeys _ _ ih => exact isShaped_object.mpr ⟨hkeys, ih⟩
  | _ => rfl

theorem isShaped_emptyObject : emptyObject.isShaped = true := rfl

theorem isShaped_string (value : Bytes) : (string value).isShaped = true := rfl

/-- Assigning a member keeps an object in shape. -/
theorem isShaped_set {target value : Json} {key : String} (htarget : target.isShaped = true)
    (hvalue : value.isShaped = true) : (target.set key value).isShaped = true := by
  cases target with
  | object members =>
    obtain ⟨hkeys, hmembers⟩ := isShaped_object.mp htarget
    refine isShaped_object.mpr ⟨pairwise_insertMember hkeys, fun m hm => ?_⟩
    rcases mem_insertMember hm with rfl | hm
    · exact hvalue
    · exact hmembers m hm
  | _ => exact htarget

mutual

/-- A value in shape is valid if its strings are UTF-8. -/
theorem valid_of_isShaped :
    ∀ value : Json, value.isShaped = true → value.isText = true → value.Valid
  | null, _, _ => .null
  | boolean value, _, _ => .boolean value
  | unsigned value, _, _ => .unsigned value
  | integer _, hshape, _ => .integer (of_decide_eq_true hshape)
  | float _, hshape, _ => .float (of_decide_eq_true hshape)
  | string _, _, htext => .string htext
  | array items, hshape, htext => by
    rw [isShaped, everywhere, Bool.and_eq_true] at hshape
    rw [isText, everywhere, Bool.and_eq_true] at htext
    exact .array (valid_items items hshape.2 htext.2)
  | object members, hshape, htext => by
    obtain ⟨hkeys, -⟩ := isShaped_object.mp hshape
    obtain ⟨hutf8, -⟩ := isText_object.mp htext
    rw [isShaped, everywhere, Bool.and_eq_true] at hshape
    rw [isText, everywhere, Bool.and_eq_true] at htext
    exact .object hkeys hutf8 (valid_members members hshape.2 htext.2)

theorem valid_items : ∀ items : List Json, everywhereItems hasShape items = true →
    everywhereItems hasText items = true → ∀ item ∈ items, item.Valid
  | [], _, _ => by simp
  | item :: items, hshape, htext => by
    rw [everywhereItems, Bool.and_eq_true] at hshape htext
    rw [List.forall_mem_cons]
    exact ⟨valid_of_isShaped item hshape.1 htext.1, valid_items items hshape.2 htext.2⟩

theorem valid_members : ∀ members : List (Bytes × Json), everywhereMembers hasShape members = true →
    everywhereMembers hasText members = true → ∀ m ∈ members, m.2.Valid
  | [], _, _ => by simp
  | (_, value) :: members, hshape, htext => by
    rw [everywhereMembers, Bool.and_eq_true] at hshape htext
    rw [List.forall_mem_cons]
    exact ⟨valid_of_isShaped value hshape.1 htext.1, valid_members members hshape.2 htext.2⟩

end

end Json

/-- The documented behaviour of `dump`: it throws on strings and keys that are no UTF-8, and on
nothing else. -/
def JsonLibrary.DumpsText (lib : JsonLibrary) : Prop :=
  ∀ value : Json, (lib.dump value).isSome = value.isText

end Axtp
