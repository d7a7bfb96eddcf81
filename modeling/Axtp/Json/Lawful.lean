/-
  A lawful JSON library that knows given texts.

  `knowing table` parses and dumps the texts of the table as the table says; every other
  value is dumped to a code of its own, and nothing else is parsed. The code of a value is
  a list of bytes that is not a proper prefix of another one, so different values have
  different codes (`code_append_inj`) and the library is lawful (`lawful_knowing`).
  `dumping table` also throws on what is no UTF-8.
-/
import Axtp.Json.Members

namespace Axtp

namespace Json

/-! ### Codes -/

def codeBytes : Bytes → Bytes
  | [] => [0]
  | a :: s => 1 :: a :: codeBytes s

mutual

def code : Json → Bytes
  | null => [0]
  | boolean value => [1, if value then 1 else 0]
  | unsigned value => 2 :: writeU64 value
  | integer value => 3 :: writeU64 value.toUInt64
  | float bits => 4 :: writeU64 bits
  | string value => 5 :: codeBytes value
  | array items => 6 :: codeItems items
  | object members => 7 :: codeMembers members

def codeItems : List Json → Bytes
  | [] => [0]
  | item :: items => 1 :: (code item ++ codeItems items)

def codeMembers : List (Bytes × Json) → Bytes
  | [] => [0]
  | (key, value) :: members => 1 :: (codeBytes key ++ (code value ++ codeMembers members))

end

theorem codeBytes_append_inj {s t rest rest' : Bytes}
    (h : codeBytes s ++ rest = codeBytes t ++ rest') : s = t ∧ rest = rest' := by
  induction s generalizing t with
  | nil =>
    cases t with
    | nil => exact ⟨rfl, by simpa [codeBytes] using h⟩
    | cons b t => simp [codeBytes] at h
  | cons a s ih =>
    cases t with
    | nil => simp [codeBytes] at h
    | cons b t =>
      simp only [codeBytes, List.cons_append, List.cons.injEq, true_and] at h
      obtain ⟨rfl, hrest⟩ := ih h.2
      exact ⟨by rw [h.1], hrest⟩

theorem writeU64_append_inj {v w : UInt64} {rest rest' : Bytes}
    (h : writeU64 v ++ rest = writeU64 w ++ rest') : v = w ∧ rest = rest' := by
  have hread := congrArg readU64 h
  rw [readU64_writeU64, readU64_writeU64, Option.some.injEq, Prod.mk.injEq] at hread
  exact hread

mutual

/-- **Different values have different codes**, whatever follows them. -/
theorem code_append_inj : ∀ {v w : Json} {rest rest' : Bytes},
    code v ++ rest = code w ++ rest' → v = w ∧ rest = rest'
  | null, w, rest, rest', h => by
    cases w <;> simp [code] at h
    exact ⟨rfl, h⟩
  | boolean b, w, rest, rest', h => by
    cases w with
    | boolean b' => cases b <;> cases b' <;> simp [code] at h <;> exact ⟨rfl, h⟩
    | _ => simp [code] at h
  | unsigned v, w, rest, rest', h => by
    cases w with
    | unsigned v' =>
      simp only [code, List.cons_append, List.cons.injEq, true_and] at h
      obtain ⟨rfl, hrest⟩ := writeU64_append_inj h
      exact ⟨rfl, hrest⟩
    | _ => simp [code] at h
  | integer v, w, rest, rest', h => by
    cases w with
    | integer v' =>
      simp only [code, List.cons_append, List.cons.injEq, true_and] at h
      obtain ⟨heq, hrest⟩ := writeU64_append_inj h
      cases v
      cases v'
      cases heq
      exact ⟨rfl, hrest⟩
    | _ => simp [code] at h
  | float v, w, rest, rest', h => by
    cases w with
    | float v' =>
      simp only [code, List.cons_append, List.cons.injEq, true_and] at h
      obtain ⟨rfl, hrest⟩ := writeU64_append_inj h
      exact ⟨rfl, hrest⟩
    | _ => simp [code] at h
  | string s, w, rest, rest', h => by
    cases w with
    | string s' =>
      simp only [code, List.cons_append, List.cons.injEq, true_and] at h
      obtain ⟨rfl, hrest⟩ := codeBytes_append_inj h
      exact ⟨rfl, hrest⟩
    | _ => simp [code] at h
  | array items, w, rest, rest', h => by
    cases w with
    | array items' =>
      simp only [code, List.cons_append, List.cons.injEq, true_and] at h
      obtain ⟨rfl, hrest⟩ := codeItems_append_inj h
      exact ⟨rfl, hrest⟩
    | _ => simp [code] at h
  | object members, w, rest, rest', h => by
    cases w with
    | object members' =>
      simp only [code, List.cons_append, List.cons.injEq, true_and] at h
      obtain ⟨rfl, hrest⟩ := codeMembers_append_inj h
      exact ⟨rfl, hrest⟩
    | _ => simp [code] at h

theorem codeItems_append_inj : ∀ {v w : List Json} {rest rest' : Bytes},
    codeItems v ++ rest = codeItems w ++ rest' → v = w ∧ rest = rest'
  | [], w, rest, rest', h => by
    cases w <;> simp [codeItems] at h
    exact ⟨rfl, h⟩
  | item :: items, w, rest, rest', h => by
    cases w with
    | nil => simp [codeItems] at h
    | cons item' items' =>
      simp only [codeItems, List.cons_append, List.append_assoc, List.cons.injEq, true_and] at h
      obtain ⟨rfl, hitems⟩ := code_append_inj h
      obtain ⟨rfl, hrest⟩ := codeItems_append_inj hitems
      exact ⟨rfl, hrest⟩

theorem codeMembers_append_inj : ∀ {v w : List (Bytes × Json)} {rest rest' : Bytes},
    codeMembers v ++ rest = codeMembers w ++ rest' → v = w ∧ rest = rest'
  | [], w, rest, rest', h => by
    cases w <;> simp [codeMembers] at h
    exact ⟨rfl, h⟩
  | (key, value) :: members, w, rest, rest', h => by
    cases w with
    | nil => simp [codeMembers] at h
    | cons member' members' =>
      obtain ⟨key', value'⟩ := member'
      simp only [codeMembers, List.cons_append, List.append_assoc, List.cons.injEq, true_and] at h
      obtain ⟨rfl, hvalue⟩ := codeBytes_append_inj h
      obtain ⟨rfl, hmembers⟩ := code_append_inj hvalue
      obtain ⟨rfl, hrest⟩ := codeMembers_append_inj hmembers
      exact ⟨rfl, hrest⟩

end

theorem code_injective : Function.Injective code := by
  intro v w h
  have hcodes : code v ++ [] = code w ++ [] := congrArg (· ++ []) h
  exact (code_append_inj hcodes).1

/-- No code starts like a JSON object. -/
theorem head_code_ne (v : Json) : (code v).head? ≠ some 0x7B := by
  cases v <;> simp [code]

theorem code_ne_nil (v : Json) : code v ≠ [] := by
  cases v <;> simp [code]

end Json

/-! ### The library -/

namespace JsonLibrary

open Json

variable (table : List (Bytes × Json))

/-- The text of a value: that of the table, or its code. The kinds of the integers make no
difference. -/
def textOf (value : Json) : Bytes :=
  match table.find? fun entry => code entry.2 = code value.normalize with
  | some entry => entry.1
  | none => code value.normalize

open Classical in
noncomputable def knowing : JsonLibrary where
  parse text :=
    match table.lookup text with
    | some value => some value
    | none =>
      if h : ∃ value : Json, value.Valid ∧ textOf table value = text then some h.choose.normalize
      else none
  dump value := some (textOf table value)

/-- The texts look like objects and differ from each other, and so do the values, which are valid.
-/
structure Proper : Prop where
  texts : (table.map Prod.fst).Nodup
  values : ∀ entry ∈ table, entry.2.Valid
  heads : ∀ entry ∈ table, entry.1.head? = some 0x7B

variable {table}

theorem lookup_of_mem (h : (table.map Prod.fst).Nodup) {entry : Bytes × Json}
    (hmem : entry ∈ table) :
    table.lookup entry.1 = some entry.2 := by
  induction table with
  | nil => cases hmem
  | cons first rest ih =>
    rw [List.map_cons, List.nodup_cons] at h
    obtain ⟨text, value⟩ := first
    rw [lookup_cons_eq]
    rcases List.mem_cons.mp hmem with rfl | hmem
    · rw [if_pos rfl]
    · rw [if_neg fun heq => h.1 (List.mem_map.mpr ⟨entry, hmem, heq⟩)]
      exact ih h.2 hmem

theorem textOf_eq_or (table : List (Bytes × Json)) (value : Json) :
    (∃ entry ∈ table, entry.2 = value.normalize ∧ textOf table value = entry.1) ∨
      textOf table value = code value.normalize := by
  rcases hfind : table.find? fun entry => code entry.2 = code value.normalize with _ | entry
  · exact .inr (by rw [textOf, hfind])
  · have hcode := List.find?_some hfind
    exact .inl ⟨entry, List.mem_of_find?_eq_some hfind, code_injective (of_decide_eq_true hcode),
      by rw [textOf, hfind]⟩

theorem Proper.lookup_code (h : Proper table) (value : Json) :
    table.lookup (code value) = none := by
  rw [List.lookup_eq_none_iff]
  intro entry hmem
  rw [bne_iff_ne]
  intro heq
  exact head_code_ne value (heq ▸ h.heads entry hmem)

/-- **The library is lawful.** -/
theorem lawful_knowing (h : Proper table) : (knowing table).Lawful where
  valid_of_parse {text value} hparse := by
    simp only [knowing] at hparse
    rcases hlookup : table.lookup text with _ | found
    · rw [hlookup] at hparse
      simp only at hparse
      split_ifs at hparse with hex
      rw [← Option.some.inj hparse]
      exact hex.choose_spec.1.normalize
    · rw [hlookup] at hparse
      obtain rfl := Option.some.inj hparse
      obtain ⟨before, after, rfl, -⟩ := List.lookup_eq_some_iff.mp hlookup
      exact h.values (text, found) (by simp)
  parse_dump {value} hvalid := by
    refine ⟨textOf table value, rfl, ?_⟩
    simp only [knowing]
    rcases textOf_eq_or table value with ⟨entry, hmem, hvalue, htext⟩ | htext
    · rw [htext, lookup_of_mem h.texts hmem, hvalue]
    · have hex : ∃ v : Json, v.Valid ∧ textOf table v = textOf table value := ⟨value, hvalid, rfl⟩
      rw [htext, h.lookup_code]
      rw [htext] at hex
      simp only [dif_pos hex, Option.some.injEq]
      -- the chosen value has the same text, which is a code
      rcases textOf_eq_or table hex.choose with ⟨entry, hmem, -, hentry⟩ | hcode
      · have hhead := h.heads entry hmem
        rw [← hentry, hex.choose_spec.2] at hhead
        exact absurd hhead (head_code_ne _)
      · exact code_injective (hcode.symm.trans hex.choose_spec.2)
  dump_normalize value := by
    simp only [knowing, textOf, normalize_normalize]

/-- A text that is in no table and the code of nothing is not parsed. -/
theorem parse_eq_none {text : Bytes} (hlookup : table.lookup text = none)
    (hcode : ∀ value : Json, code value ≠ text) : (knowing table).parse text = none := by
  simp only [knowing, hlookup]
  rw [dif_neg]
  rintro ⟨value, -, htext⟩
  rcases textOf_eq_or table value with ⟨entry, hmem, -, hentry⟩ | hcoded
  · rw [List.lookup_eq_none_iff] at hlookup
    exact absurd (htext.symm.trans hentry) (bne_iff_ne.mp (hlookup entry hmem))
  · exact hcode value.normalize (hcoded.symm.trans htext)

/-- An empty text is not parsed. -/
theorem Proper.parse_nil (h : Proper table) : (knowing table).parse [] = none := by
  refine parse_eq_none (List.lookup_eq_none_iff.mpr fun entry hmem => ?_) code_ne_nil
  rw [bne_iff_ne]
  intro heq
  have hhead := h.heads entry hmem
  rw [← heq] at hhead
  cases hhead

/-- A text that starts like an object and is not in the table is not parsed. -/
theorem parse_brace {text : Bytes} (hhead : text.head? = some 0x7B)
    (hlookup : table.lookup text = none) : (knowing table).parse text = none :=
  parse_eq_none hlookup fun value hcode => head_code_ne value (hcode ▸ hhead)

theorem proper_nil : Proper ([] : List (Bytes × Json)) := ⟨List.nodup_nil, by simp, by simp⟩

/-! ### A `dump` that throws -/

variable (table) in
/-- The library that dumps only what is UTF-8, as the real one does. -/
noncomputable def dumping : JsonLibrary :=
  { knowing table with
    dump := fun value => if value.isText then (knowing table).dump value else none }

theorem dumpsText_dumping (table : List (Bytes × Json)) : (dumping table).DumpsText := by
  intro value
  simp only [dumping]
  split_ifs with htext
  · rw [htext]
    rfl
  · rw [Option.isSome_none, (Bool.not_eq_true _).mp htext]

theorem lawful_dumping (h : Proper table) : (dumping table).Lawful where
  valid_of_parse hparse := (lawful_knowing h).valid_of_parse hparse
  parse_dump {value} hvalid := by
    obtain ⟨text, hdump, hparse⟩ := (lawful_knowing h).parse_dump hvalid
    refine ⟨text, ?_, hparse⟩
    simp only [dumping, hvalid.isText, if_true]
    exact hdump
  dump_normalize value := by
    simp only [dumping, isText_normalize, (lawful_knowing h).dump_normalize]

end JsonLibrary

end Axtp
