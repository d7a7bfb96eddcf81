/-
  Correctness of `MethodRegistryJson`.

  `parseId` leaves the syntax of a text to `stoull`. The reading of the text
  (`Stoull.Reading`) says what that accepts; on texts that are digits and nothing else it
  is what the id denotes, and on the others in which a number is found it is not
  (`parseId_exact_iff`).
-/
import Axtp.Equiv.MethodRegistry
import Axtp.Generated.MethodRegistryJson
import Axtp.Json.Lawful
import Axtp.Spec.MethodIds

namespace Axtp.MethodRegistryJson

open MethodIds Stoull

/-! ### Integers -/

theorem parseId_unsigned {raw : UInt64} {id : UInt32} :
    parseId (.unsigned raw) = some id ↔ Denotes (.unsigned raw) id.toNat := by
  have hparse : parseId (.unsigned raw) =
      if raw ≤ 0xFFFFFFFF then some raw.toUInt32 else none := rfl
  have hle : raw ≤ 0xFFFFFFFF ↔ raw.toNat ≤ 0xFFFFFFFF := UInt64.le_iff_toNat_le
  rw [hparse]
  constructor
  · intro h
    split_ifs at h with hraw
    have hid : raw.toNat = id.toNat := by
      rw [← Option.some.inj h, UInt64.toNat_toUInt32]
      have hraw' := hle.mp hraw
      omega
    refine .integer ?_ id.toNat_lt
    rw [← hid]
    rfl
  · intro h
    cases h with
    | integer hnumber hlt =>
      have hraw : raw.toNat = id.toNat := by
        have hcast := Option.some.inj hnumber
        exact_mod_cast hcast
      rw [if_pos (hle.mpr (by omega))]
      congr 1
      apply UInt32.toNat_inj.mp
      rw [UInt64.toNat_toUInt32]
      omega

theorem parseId_integer {raw : Int64} {id : UInt32} :
    parseId (.integer raw) = some id ↔ Denotes (.integer raw) id.toNat := by
  have hparse : parseId (.integer raw) =
      if 0 ≤ raw ∧ raw ≤ 0xFFFFFFFF then some raw.toUInt64.toUInt32 else none := rfl
  have hlow : 0 ≤ raw ↔ 0 ≤ raw.toInt := Int64.le_iff_toInt_le
  have hhigh : raw ≤ 0xFFFFFFFF ↔ raw.toInt ≤ 0xFFFFFFFF := Int64.le_iff_toInt_le
  -- on the numbers that are let through, the casts keep the value
  have hcast : 0 ≤ raw → (raw.toUInt64.toNat : ℤ) = raw.toInt := by
    intro hraw
    rw [Int64.toNat_toUInt64_of_le hraw, Int64.cast_toNatClampNeg raw hraw]
  rw [hparse]
  constructor
  · intro h
    split_ifs at h with hraw
    have hnat := hcast hraw.1
    have hle := hhigh.mp hraw.2
    have hid : raw.toUInt64.toNat = id.toNat := by
      rw [← Option.some.inj h, UInt64.toNat_toUInt32]
      omega
    refine .integer ?_ id.toNat_lt
    rw [← hid, hnat]
    rfl
  · intro h
    cases h with
    | integer hnumber hlt =>
      have hraw : raw.toInt = (id.toNat : ℤ) := Option.some.inj hnumber
      have hnonneg : 0 ≤ raw := hlow.mpr (by omega)
      have hnat := hcast hnonneg
      rw [if_pos ⟨hnonneg, hhigh.mpr (by omega)⟩]
      congr 1
      apply UInt32.toNat_inj.mp
      rw [UInt64.toNat_toUInt32]
      omega

/-! ### Texts -/

theorem parseId_string_eq (text : Bytes) :
    parseId (.string text) =
      let (offset, base) :=
        if text.length > 2 ∧ text[0]? = some 0x30 ∧
            (text[1]? = some 0x78 ∨ text[1]? = some 0x58) then (2, 16)
        else (0, 10)
      match stoull (text.drop offset) base with
      | some parsed => if parsed ≤ 0xFFFFFFFF then some (UInt32.ofNat parsed) else none
      | none => none := rfl

/-- The suffix and the base that `parseId` chooses. -/
theorem parseId_string {text body : Bytes} {base : ℕ} (h : Body text body base) :
    parseId (.string text) = match stoull body base with
      | some parsed => if parsed ≤ 0xFFFFFFFF then some (UInt32.ofNat parsed) else none
      | none => none := by
  cases h with
  | hexadecimal hx hne =>
    have hlength := List.length_pos_of_ne_nil hne
    have hx' := of_decide_eq_true hx
    rw [parseId_string_eq, if_pos]
    · rfl
    · refine ⟨by simp only [List.length_cons]; omega, rfl, ?_⟩
      simpa using hx'
  | decimal hnot =>
    rw [parseId_string_eq, if_neg]
    · rfl
    · rintro ⟨hlength, hzero, hx⟩
      obtain ⟨zero, rest, rfl⟩ := List.exists_cons_of_length_pos (show 0 < text.length by omega)
      rw [List.length_cons] at hlength
      obtain ⟨x, body, rfl⟩ := List.exists_cons_of_length_pos (show 0 < rest.length by omega)
      rw [List.length_cons] at hlength
      have hne : body ≠ [] := List.ne_nil_of_length_pos (by omega)
      have hx' : isX x = true := decide_eq_true (by simpa using hx)
      obtain rfl : zero = 0x30 := by simpa using hzero
      exact hnot x body hx' hne rfl

theorem base_le_of_body {text body : Bytes} {base : ℕ} (h : Body text body base) : base ≤ 36 := by
  cases h <;> omega

/-- Every text has a body. -/
theorem exists_body (text : Bytes) : ∃ body base, Body text body base := by
  by_cases h : ∃ x body, isX x = true ∧ body ≠ [] ∧ text = 0x30 :: x :: body
  · obtain ⟨x, body, hx, hne, rfl⟩ := h
    exact ⟨body, 16, .hexadecimal hx hne⟩
  · refine ⟨text, 10, .decimal fun x body hx hne heq => h ⟨x, body, hx, hne, heq⟩⟩

theorem body_unique {text body body' : Bytes} {base base' : ℕ} (h : Body text body base)
    (h' : Body text body' base') : body' = body ∧ base' = base := by
  cases h with
  | hexadecimal hx hne =>
    cases h' with
    | hexadecimal => exact ⟨rfl, rfl⟩
    | decimal hnot => exact absurd rfl (hnot _ _ hx hne)
  | decimal hnot =>
    cases h' with
    | hexadecimal hx hne => exact absurd rfl (hnot _ _ hx hne)
    | decimal => exact ⟨rfl, rfl⟩

/-- **What `parseId` makes of a text**: the value of the reading of its body. -/
theorem parseId_string_eq_some_iff {text body : Bytes} {base : ℕ} (h : Body text body base)
    {id : UInt32} :
    parseId (.string text) = some id ↔ ∃ blanks sign mark digits rest negative,
      Reading base body blanks sign mark digits rest negative ∧
        numeral base digits < 2 ^ 64 ∧ signed negative (numeral base digits) = id.toNat := by
  have hread : ∀ value, stoull body base = some value ↔ _ :=
    fun value => stoull_eq_some_iff (base_le_of_body h)
  rw [parseId_string h]
  constructor
  · intro heq
    split at heq
    · rename_i parsed hparsed
      split_ifs at heq with hle
      obtain ⟨blanks, sign, mark, digits, rest, negative, hreading, hlt, hvalue⟩ :=
        (hread parsed).mp hparsed
      refine ⟨blanks, sign, mark, digits, rest, negative, hreading, hlt, ?_⟩
      rw [← hvalue, ← Option.some.inj heq]
      exact (UInt32.toNat_ofNat_of_lt' (by show parsed < 2 ^ 32; omega)).symm
    · cases heq
  · rintro ⟨blanks, sign, mark, digits, rest, negative, hreading, hlt, hvalue⟩
    have hid := id.toNat_lt
    have hparsed := (hread _).mpr ⟨_, _, _, _, _, _, hreading, hlt, hvalue.symm⟩
    rw [hparsed]
    show (if id.toNat ≤ 0xFFFFFFFF then some (UInt32.ofNat id.toNat) else none) = some id
    rw [if_pos (by omega), UInt32.ofNat_toNat]

/-- A text that denotes an id has a body of nothing but digits, of this value. -/
theorem denotes_string_iff {text body : Bytes} {base n : ℕ} (h : Body text body base) :
    Denotes (.string text) n ↔ body ≠ [] ∧ (∀ ch ∈ body, isDigit base ch = true) ∧
      numeral base body < 2 ^ 32 ∧ n = numeral base body := by
  constructor
  · intro hdenotes
    cases hdenotes with
    | integer hnumber => cases hnumber
    | decimal hne hdigits hlt =>
      -- the second character of a decimal numeral is no `x`
      have hdecimal : Body text text 10 := by
        refine .decimal fun x rest hx _ heq => ?_
        have hxdigit := hdigits x (by rw [heq]; simp)
        rw [isDigit_x (by omega) hx] at hxdigit
        cases hxdigit
      obtain ⟨rfl, rfl⟩ := body_unique hdecimal h
      exact ⟨hne, hdigits, hlt, rfl⟩
    | hexadecimal hx hne hdigits hlt =>
      obtain ⟨rfl, rfl⟩ := body_unique (.hexadecimal hx hne) h
      exact ⟨hne, hdigits, hlt, rfl⟩
  · rintro ⟨hne, hdigits, hlt, rfl⟩
    cases h with
    | hexadecimal hx => exact .hexadecimal hx hne hdigits hlt
    | decimal => exact .decimal hne hdigits hlt

/-- Nothing but digits is read as their number. -/
theorem reading_digits {base : ℕ} {digits : Bytes} (hbase : base ≤ 16) (hne : digits ≠ [])
    (hdigits : ∀ ch ∈ digits, isDigit base ch = true) :
    Reading base digits [] [] [] digits [] false where
  text_eq := (List.append_nil digits).symm
  all_blank := fun ch hch => absurd hch List.not_mem_nil
  sign_ok := .absent
  mark_ok := .absent
  digits_ne := hne
  all_digit := hdigits
  stops := fun ch hch => by cases hch
  unmarked := by
    intro _
    rw [List.append_nil]
    unfold skipPrefix
    split
    · rename_i x ch rest
      rw [if_neg]
      rintro ⟨-, hx, -⟩
      have hxdigit := hdigits x (by simp)
      rw [isDigit_x hbase hx] at hxdigit
      cases hxdigit
    · rfl

/-- **Exactly the texts that are not read loosely** are read as what they denote. -/
theorem parseId_string_exact_iff (text : Bytes) :
    (∀ id, parseId (.string text) = some id ↔ Denotes (.string text) id.toNat) ↔
      ¬ ReadLoosely text := by
  obtain ⟨body, base, hbody⟩ := exists_body text
  have hbase : base ≤ 16 := by cases hbody <;> omega
  constructor
  · rintro hexact ⟨body', base', blanks, sign, mark, digits, rest, negative, hbody', hreading,
      hlt, hfits, hmore⟩
    obtain ⟨rfl, rfl⟩ := body_unique hbody hbody'
    -- the number that is found would be denoted, but then there is nothing but digits
    have hfound := (parseId_string_eq_some_iff hbody).mpr ⟨_, _, _, _, _, _, hreading, hlt,
      (UInt32.toNat_ofNat_of_lt' hfits).symm⟩
    have hdenotes := (denotes_string_iff hbody).mp ((hexact _).mp hfound)
    exact hmore (hreading.eq_of_all_digit hbase hdenotes.2.1)
  · intro hnot id
    rw [parseId_string_eq_some_iff hbody, denotes_string_iff hbody]
    constructor
    · rintro ⟨blanks, sign, mark, digits, rest, negative, hreading, hlt, hvalue⟩
      have hid := id.toNat_lt
      have hpure : blanks = [] ∧ sign = [] ∧ mark = [] ∧ rest = [] := by
        by_contra hmore
        exact hnot ⟨body, base, blanks, sign, mark, digits, rest, negative, hbody, hreading, hlt,
          by omega, hmore⟩
      obtain ⟨rfl, rfl, rfl, rfl⟩ := hpure
      have heq : body = digits := by simpa using hreading.text_eq
      subst heq
      cases hreading.sign_ok with
      | absent =>
        have hvalue' : numeral base body = id.toNat := hvalue
        exact ⟨hreading.digits_ne, hreading.all_digit, by omega, hvalue'.symm⟩
    · rintro ⟨hne, hdigits, hlt, hid⟩
      exact ⟨[], [], [], body, [], false, reading_digits hbase hne hdigits, by omega, hid.symm⟩

/-! ### Documents -/

/-- Ids of other kinds are always read as what they denote. -/
theorem parseId_exact_iff (id : Json) :
    (∀ methodId, parseId id = some methodId ↔ Denotes id methodId.toNat) ↔
      ¬ ∃ text, id = .string text ∧ ReadLoosely text := by
  -- what is neither a number nor a string denotes no id and is no entry
  have hother : ∀ id : Json, parseId id = none → SchemaObjectCodec.number id = none →
      (∀ text, id ≠ .string text) → ((∀ methodId, parseId id = some methodId ↔
        Denotes id methodId.toNat) ↔ ¬ ∃ text, id = .string text ∧ ReadLoosely text) := by
    intro id hparse hnumber hstring
    have hno : ∀ n, ¬ Denotes id n := by
      intro n h
      cases h with
      | integer hid =>
        rw [hnumber] at hid
        cases hid
      | decimal => exact absurd rfl (hstring _)
      | hexadecimal => exact absurd rfl (hstring _)
    refine iff_of_true (fun methodId => ?_) fun ⟨text, heq, _⟩ => hstring text heq
    rw [hparse]
    exact iff_of_false (by simp) (hno _)
  cases id with
  | unsigned raw =>
    refine iff_of_true (fun methodId => parseId_unsigned) ?_
    rintro ⟨text, heq, -⟩
    cases heq
  | integer raw =>
    refine iff_of_true (fun methodId => parseId_integer) ?_
    rintro ⟨text, heq, -⟩
    cases heq
  | string text =>
    rw [parseId_string_exact_iff]
    constructor
    · rintro hnot ⟨text', heq, hloose⟩
      cases heq
      exact hnot hloose
    · intro hnot hloose
      exact hnot ⟨text, rfl, hloose⟩
  | null => exact hother _ rfl rfl (by simp)
  | boolean => exact hother _ rfl rfl (by simp)
  | float => exact hother _ rfl rfl (by simp)
  | array => exact hother _ rfl rfl (by simp)
  | object => exact hother _ rfl rfl (by simp)

/-- An entry with a name is added with the id that is read off its member `id`. -/
theorem entryMethod_eq_some_iff {entry : Json} {name name' : Bytes} {methodId : UInt32}
    (hname : entry.find "name" = some (.string name)) :
    entryMethod entry = some (methodId, name') ↔
      name' = name ∧ ∃ id, entry.find "id" = some id ∧ parseId id = some methodId := by
  have hobject : entry.isObject = true := by
    cases entry with
    | object => rfl
    | _ => cases hname
  unfold entryMethod
  rw [if_pos hobject, hname]
  cases hid : entry.find "id" with
  | none => simp
  | some id =>
    cases hparse : parseId id with
    | none => simp [hparse]
    | some parsedId =>
      simp [hparse, eq_comm, and_comm]

/-- The entries of the method list of a document. -/
def entries (parsed : Json) : List Json :=
  match methodsOf parsed with
  | .array values => values
  | _ => []

theorem foldl_entryMethod (values : List Json) (registry : MethodRegistry) :
    values.foldl (fun registry value =>
      match entryMethod value with
      | some (parsedId, name) => registry.addMethod parsedId name
      | none => registry) registry =
    (values.filterMap entryMethod).foldl
      (fun registry method => registry.addMethod method.1 method.2) registry := by
  induction values generalizing registry with
  | nil => rfl
  | cons value values ih =>
    rw [List.foldl_cons, ih, List.filterMap_cons]
    cases entryMethod value with
    | none => rfl
    | some method => rfl

/-- The registry of a document is that of the methods of its entries. -/
theorem fromJson_eq (lib : JsonLibrary) (json : Bytes) :
    fromJson lib json = (lib.parse json).map fun parsed =>
      MethodRegistry.addMethods ((entries parsed).filterMap entryMethod) := by
  unfold fromJson entries
  cases lib.parse json with
  | none => rfl
  | some parsed =>
    rw [Option.map_some]
    dsimp only
    cases methodsOf parsed with
    | array values => exact congrArg some (foldl_entryMethod values {})
    | _ => rfl

/-- **Ids are read exactly**, whatever the document and the entry, unless they are texts in
which `stoull` finds a number among other characters. -/
theorem fromJson_exact_iff (lib : JsonLibrary) (json : Bytes) :
    (fromJson lib json = (lib.parse json).map fun parsed =>
      MethodRegistry.addMethods ((entries parsed).filterMap entryMethod)) ∧
    ∀ parsed, ∀ entry ∈ entries parsed, ∀ name, entry.find "name" = some (.string name) →
      ((∀ methodId, entryMethod entry = some (methodId, name) ↔
        ∃ id, entry.find "id" = some id ∧ Denotes id methodId.toNat) ↔
      ¬ ∃ text, entry.find "id" = some (.string text) ∧ ReadLoosely text) := by
  refine ⟨fromJson_eq lib json, fun parsed entry _ name hname => ?_⟩
  cases hid : entry.find "id" with
  | none =>
    -- without an id there is neither a method nor a number to denote
    refine iff_of_true (fun methodId => ?_) (by simp)
    rw [entryMethod_eq_some_iff hname, hid]
    simp
  | some id =>
    have hread := parseId_exact_iff id
    constructor
    · rintro hexact ⟨text, heq, hloose⟩
      refine hread.mp (fun methodId => ?_) ⟨text, Option.some.inj heq, hloose⟩
      have hmethod := hexact methodId
      rw [entryMethod_eq_some_iff hname, hid] at hmethod
      simpa using hmethod
    · intro hnot methodId
      have hmethod := hread.mpr (fun ⟨text, heq, hloose⟩ => hnot ⟨text, by rw [heq], hloose⟩)
        methodId
      rw [entryMethod_eq_some_iff hname, hid]
      simpa using hmethod

/-- A method whose id has a blank before the digit. -/
def blankEntry : Json :=
  .object [(ascii "id", .string (ascii " 5")), (ascii "name", .string (ascii "a"))]

def blankDocument : Json := .object [(ascii "methods", .array [blankEntry])]

def blankText : Bytes := ascii "\x7b\"methods\":[\x7b\"id\":\" 5\",\"name\":\"a\"\x7d]\x7d"

def blankTexts : List (Bytes × Json) := [(blankText, blankDocument)]

theorem proper_blankTexts : JsonLibrary.Proper blankTexts where
  texts := List.nodup_singleton _
  values document hmem := by
    obtain rfl := List.mem_singleton.mp hmem
    have hentry : blankEntry.Valid := by
      refine .object (by decide +kernel) (by decide +kernel) fun member hmember => ?_
      simp only [List.mem_cons, List.not_mem_nil, or_false] at hmember
      rcases hmember with rfl | rfl
      · exact .string (Json.isUtf8_ascii " 5")
      · exact .string (Json.isUtf8_ascii "a")
    refine .object (by decide +kernel) (by decide +kernel) fun member hmember => ?_
    obtain rfl := List.mem_singleton.mp hmember
    refine .array fun entry hmem => ?_
    obtain rfl := List.mem_singleton.mp hmem
    exact hentry
  heads := by decide +kernel

theorem not_denotes_blank (n : ℕ) : ¬ Denotes (.string (ascii " 5")) n := by
  have hbody : Body (ascii " 5") (ascii " 5") 10 := by
    refine .decimal fun x body _ _ heq => ?_
    have hhead : some (0x20 : Byte) = some 0x30 := congrArg List.head? heq
    revert hhead
    decide
  intro hdenotes
  have hdigit := ((denotes_string_iff hbody).mp hdenotes).2.1 0x20 (by decide)
  revert hdigit
  decide

/-- The method is registered, with an id that its text does not denote. -/
theorem fromJson_blank :
    fromJson (.knowing blankTexts) blankText =
      some (MethodRegistry.addMethods [(5, ascii "a")]) ∧
    ¬ ∀ parsed, ∀ entry ∈ entries parsed, ∀ name, entry.find "name" = some (.string name) →
      ∀ methodId, entryMethod entry = some (methodId, name) ↔
        ∃ id, entry.find "id" = some id ∧ Denotes id methodId.toNat := by
  constructor
  · have hlookup := JsonLibrary.lookup_of_mem proper_blankTexts.texts (List.mem_cons_self ..)
    have hparse : (JsonLibrary.knowing blankTexts).parse blankText = some blankDocument := by
      simp only [JsonLibrary.knowing, hlookup]
    rw [fromJson_eq, hparse]
    rfl
  · intro hexact
    have hread := (hexact blankDocument blankEntry (List.mem_cons_self ..) (ascii "a") rfl 5).mp rfl
    obtain ⟨id, hid, hdenotes⟩ := hread
    obtain rfl : Json.string (ascii " 5") = id := Option.some.inj hid
    exact not_denotes_blank _ hdenotes

end Axtp.MethodRegistryJson
