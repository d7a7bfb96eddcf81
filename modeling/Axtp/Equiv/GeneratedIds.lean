/-
  The id enums that the generator prints are well formed, and when.

  `cppName` keeps the letters and digits of a name and decides anew which of them are
  capitals. So two names have one identifier exactly if they agree in the letters and
  digits and in these capitals (`cppName_eq_iff`), and what a name is printed as is an
  identifier exactly if a letter comes first of these (`isIdentifier_cppName_iff`). The
  range check looks at the last 32 bits of an id only (`toInt32_bounds`).
-/
import Axtp.Devtools.Ids
import Mathlib.Data.List.Perm.Basic

namespace Axtp.Devtools

/-! ### Letters -/

theorem toNat_bounds (ch : Byte) (low high : ℕ) (hlow : low < 256) (hhigh : high < 256) :
    (UInt8.ofNat low ≤ ch ∧ ch ≤ UInt8.ofNat high) ↔ low ≤ ch.toNat ∧ ch.toNat ≤ high := by
  rw [UInt8.le_iff_toNat_le, UInt8.le_iff_toNat_le, UInt8.toNat_ofNat_of_lt' hlow,
    UInt8.toNat_ofNat_of_lt' hhigh]

theorem isLower_iff {ch : Byte} : isLower ch = true ↔ 97 ≤ ch.toNat ∧ ch.toNat ≤ 122 := by
  rw [isLower, decide_eq_true_iff]
  exact toNat_bounds ch 97 122 (by omega) (by omega)

theorem isUpper_iff {ch : Byte} : isUpper ch = true ↔ 65 ≤ ch.toNat ∧ ch.toNat ≤ 90 := by
  rw [isUpper, decide_eq_true_iff]
  exact toNat_bounds ch 65 90 (by omega) (by omega)

theorem toNat_toUpper (ch : Byte) :
    (toUpper ch).toNat = if 97 ≤ ch.toNat ∧ ch.toNat ≤ 122 then ch.toNat - 32 else ch.toNat := by
  unfold toUpper
  by_cases h : isLower ch = true
  · have hrange := isLower_iff.mp h
    rw [if_pos h, if_pos hrange, UInt8.toNat_sub_of_le ch 32 (UInt8.le_iff_toNat_le.mpr
      (by show 32 ≤ ch.toNat; omega))]
    rfl
  · rw [if_neg h, if_neg (mt isLower_iff.mpr h)]

theorem toNat_toLower (ch : Byte) :
    (toLower ch).toNat = if 65 ≤ ch.toNat ∧ ch.toNat ≤ 90 then ch.toNat + 32 else ch.toNat := by
  unfold toLower
  by_cases h : isUpper ch = true
  · have hrange := isUpper_iff.mp h
    rw [if_pos h, if_pos hrange, UInt8.toNat_add]
    show (ch.toNat + 32) % 256 = ch.toNat + 32
    omega
  · rw [if_neg h, if_neg (mt isUpper_iff.mpr h)]

/-- A character is known by its small letter and whether it is a capital. -/
theorem eq_of_toLower_eq {a b : Byte} (hlower : toLower a = toLower b)
    (hupper : isUpper a = isUpper b) : a = b := by
  have hlower' := congrArg UInt8.toNat hlower
  rw [toNat_toLower, toNat_toLower] at hlower'
  have hiff : (65 ≤ a.toNat ∧ a.toNat ≤ 90) ↔ (65 ≤ b.toNat ∧ b.toNat ≤ 90) := by
    rw [← isUpper_iff, ← isUpper_iff, hupper]
  apply UInt8.toNat_inj.mp
  split_ifs at hlower' <;> omega

/-! ### Identifiers -/

/-- The letters and digits of a name, whatever their case. -/
def letters (name : Bytes) : Bytes := (name.filter isAlphanumeric).map toLower

/-- Which characters of a word are capitals in an identifier: the first one, if it is a letter,
and those that are capitals in a word that has small letters too. -/
def capitalsOfWord : Bytes → List Bool
  | [] => []
  | first :: rest =>
    (isLower first || isUpper first) ::
      rest.map fun ch => isUpper ch && (first :: rest).any isLower

def capitals (name : Bytes) : List Bool := (words name).flatMap capitalsOfWord

/-- Two names have the same letters and digits in the same order, and the same ones of them are
capitals in an identifier. -/
def FoldTogether (a b : Bytes) : Prop := letters a = letters b ∧ capitals a = capitals b

theorem toLower_toUpper (ch : Byte) : toLower (toUpper ch) = toLower ch := by
  apply UInt8.toNat_inj.mp
  rw [toNat_toLower, toNat_toLower, toNat_toUpper]
  split_ifs <;> omega

theorem toLower_toLower (ch : Byte) : toLower (toLower ch) = toLower ch := by
  apply UInt8.toNat_inj.mp
  rw [toNat_toLower, toNat_toLower]
  split_ifs <;> omega

theorem isUpper_toUpper (ch : Byte) : isUpper (toUpper ch) = (isLower ch || isUpper ch) := by
  rw [Bool.eq_iff_iff, Bool.or_eq_true, isUpper_iff, isUpper_iff, isLower_iff, toNat_toUpper]
  split_ifs <;> omega

theorem isUpper_toLower (ch : Byte) : isUpper (toLower ch) = false := by
  rw [Bool.eq_false_iff, ne_eq, isUpper_iff, toNat_toLower]
  split_ifs <;> omega

theorem isLetter_toLower (ch : Byte) :
    (isLower (toLower ch) || isUpper (toLower ch)) = (isLower ch || isUpper ch) := by
  rw [Bool.eq_iff_iff, Bool.or_eq_true, Bool.or_eq_true, isUpper_iff, isUpper_iff, isLower_iff,
    isLower_iff, toNat_toLower]
  split_ifs <;> omega

theorem toUpper_eq_self_iff {ch : Byte} : toUpper ch = ch ↔ isLower ch = false := by
  rw [← UInt8.toNat_inj, toNat_toUpper, Bool.eq_false_iff, ne_eq, isLower_iff]
  split_ifs <;> omega

/-- `part === part.toUpperCase()`. -/
theorem eq_map_toUpper_iff {part : Bytes} :
    part = part.map toUpper ↔ part.any isLower = false := by
  induction part with
  | nil => simp
  | cons ch part ih =>
    rw [List.map_cons, List.cons.injEq, List.any_cons, Bool.or_eq_false_iff, ih,
      eq_comm (a := ch), toUpper_eq_self_iff]

theorem map_toLower_capitalised (part : Bytes) :
    (capitalised part).map toLower = part.map toLower := by
  have hcase : ∀ normalized : Bytes,
      ((normalized.take 1).map toUpper ++ normalized.drop 1).map toLower =
        normalized.map toLower := by
    intro normalized
    rw [List.map_append, List.map_map]
    have hhead : (normalized.take 1).map (toLower ∘ toUpper) = (normalized.take 1).map toLower :=
      List.map_congr_left fun ch _ => toLower_toUpper ch
    rw [hhead, ← List.map_append, List.take_append_drop]
  unfold capitalised
  dsimp only
  rw [hcase]
  split_ifs
  · rw [List.map_map]
    exact List.map_congr_left fun ch _ => toLower_toLower ch
  · rfl

theorem map_isUpper_capitalised (part : Bytes) :
    (capitalised part).map isUpper = capitalsOfWord part := by
  cases part with
  | nil => rfl
  | cons first rest =>
    unfold capitalised capitalsOfWord
    dsimp only
    by_cases h : first :: rest = (first :: rest).map toUpper
    · -- all in capitals: only the first one stays
      have hany := eq_map_toUpper_iff.mp h
      rw [if_pos h, hany]
      show isUpper (toUpper (toLower first)) :: (rest.map toLower).map isUpper = _
      rw [isUpper_toUpper, isLetter_toLower, List.map_map]
      congr 1
      apply List.map_congr_left
      intro ch _
      rw [Function.comp_apply, isUpper_toLower, Bool.and_false]
    · have hany : (first :: rest).any isLower = true := by
        rw [← Bool.not_eq_false]
        exact mt eq_map_toUpper_iff.mpr h
      rw [if_neg h, hany]
      show isUpper (toUpper first) :: rest.map isUpper = _
      rw [isUpper_toUpper]
      congr 1
      apply List.map_congr_left
      intro ch _
      rw [Bool.and_true]

theorem flatten_words (name : Bytes) : (words name).flatten = name.filter isAlphanumeric := by
  unfold words
  rw [List.flatten_filter_ne_nil]
  induction name with
  | nil => rfl
  | cons ch name ih =>
    rw [List.splitOnP_cons_eq_if_modifyHead]
    by_cases h : isAlphanumeric ch = true
    · rw [List.filter_cons_of_pos h, ← ih, h]
      obtain ⟨part, parts, hparts⟩ := List.exists_cons_of_ne_nil
        (List.splitOnP_ne_nil (fun ch => !isAlphanumeric ch) name)
      rw [hparts]
      rfl
    · rw [List.filter_cons_of_neg h, ← ih, Bool.eq_false_iff.mpr h]
      rfl

/-- The letters of an identifier are those of the name. -/
theorem map_toLower_cppName (name : Bytes) : (cppName name).map toLower = letters name := by
  unfold cppName letters
  rw [← flatten_words, List.map_flatMap, List.map_flatten, List.flatMap_def]
  congr 1
  exact List.map_congr_left fun part _ => map_toLower_capitalised part

theorem map_isUpper_cppName (name : Bytes) : (cppName name).map isUpper = capitals name := by
  unfold cppName capitals
  rw [List.map_flatMap]
  congr 1
  funext part
  exact map_isUpper_capitalised part

/-- **Two names share an identifier** exactly if they fold together. -/
theorem cppName_eq_iff {a b : Bytes} : cppName a = cppName b ↔ FoldTogether a b := by
  unfold FoldTogether
  rw [← map_toLower_cppName, ← map_toLower_cppName, ← map_isUpper_cppName,
    ← map_isUpper_cppName]
  constructor
  · intro h
    rw [h]
    exact ⟨rfl, rfl⟩
  · rintro ⟨hlower, hupper⟩
    have hpair : Function.Injective fun ch => (toLower ch, isUpper ch) := by
      intro ch ch' h
      obtain ⟨hl, hu⟩ := Prod.mk.inj h
      exact eq_of_toLower_eq hl hu
    apply List.map_injective_iff.mpr hpair
    rw [← List.zip_map', ← List.zip_map', hlower, hupper]

def isLetter (ch : Byte) : Bool := isLower ch || isUpper ch

/-- An identifier of C++ of letters and digits. -/
def IsIdentifier (name : Bytes) : Prop :=
  (∃ first, name.head? = some first ∧ isLetter first = true) ∧
    ∀ ch ∈ name, isAlphanumeric ch = true

/-- The first letter or digit of a name is a letter. -/
def LetterFirst (name : Bytes) : Prop :=
  ∃ first, name.find? isAlphanumeric = some first ∧ isLetter first = true

theorem isAlphanumeric_toLower (ch : Byte) :
    isAlphanumeric (toLower ch) = isAlphanumeric ch := by
  have hdigit (ch : Byte) : (0x30 ≤ ch ∧ ch ≤ 0x39) ↔ 48 ≤ ch.toNat ∧ ch.toNat ≤ 57 :=
    toNat_bounds ch 48 57 (by omega) (by omega)
  rw [Bool.eq_iff_iff, isAlphanumeric, isAlphanumeric, decide_eq_true_iff, decide_eq_true_iff,
    isLower_iff, isLower_iff, isUpper_iff, isUpper_iff, hdigit, hdigit, toNat_toLower]
  split_ifs <;> omega

theorem isAlphanumeric_of_mem_cppName {name : Bytes} {ch : Byte} (h : ch ∈ cppName name) :
    isAlphanumeric ch = true := by
  have hmem : toLower ch ∈ letters name := by
    rw [← map_toLower_cppName]
    exact List.mem_map_of_mem h
  obtain ⟨kept, hkept, heq⟩ := List.mem_map.mp hmem
  rw [← isAlphanumeric_toLower, ← heq, isAlphanumeric_toLower]
  exact (List.mem_filter.mp hkept).2

/-- The first character of an identifier is the first letter or digit of the name. -/
theorem map_toLower_head?_cppName (name : Bytes) :
    (cppName name).head?.map toLower = (name.find? isAlphanumeric).map toLower := by
  rw [← List.head?_map, map_toLower_cppName, letters, List.head?_map, List.head?_filter]

/-- **A name is printed as an identifier** exactly if its first letter or digit is a letter. -/
theorem isIdentifier_cppName_iff {name : Bytes} :
    IsIdentifier (cppName name) ↔ LetterFirst name := by
  have hhead := map_toLower_head?_cppName name
  constructor
  · rintro ⟨⟨first, hfirst, hletter⟩, -⟩
    rw [hfirst, Option.map_some, eq_comm, Option.map_eq_some_iff] at hhead
    obtain ⟨found, hfound, heq⟩ := hhead
    refine ⟨found, hfound, ?_⟩
    unfold isLetter at hletter ⊢
    rw [← isLetter_toLower, heq, isLetter_toLower, hletter]
  · rintro ⟨found, hfound, hletter⟩
    rw [hfound, Option.map_some, Option.map_eq_some_iff] at hhead
    obtain ⟨first, hfirst, heq⟩ := hhead
    refine ⟨⟨first, hfirst, ?_⟩, fun ch hmem => isAlphanumeric_of_mem_cppName hmem⟩
    unfold isLetter at hletter ⊢
    rw [← isLetter_toLower, heq, isLetter_toLower, hletter]

/-! ### Ids -/

/-- Keys that are all named are checked to differ. -/
theorem nodup_of_uniqueKeys {κ : Type} [BEq κ] [LawfulBEq κ] {seen entries : List (κ × Bytes)}
    (h : uniqueKeys seen entries = true) (hseen : ∀ entry ∈ seen, entry.2 ≠ [])
    (hentries : ∀ entry ∈ entries, entry.2 ≠ []) :
    (entries.map Prod.fst).Nodup ∧ ∀ entry ∈ entries, entry.1 ∉ seen.map Prod.fst := by
  induction entries generalizing seen with
  | nil => exact ⟨List.nodup_nil, fun entry hmem => absurd hmem List.not_mem_nil⟩
  | cons entry rest ih =>
    rw [uniqueKeys, decide_eq_true_iff] at h
    obtain ⟨hnew, hrest⟩ := h
    have hentry := hentries entry (List.mem_cons_self ..)
    -- an empty name would be overwritten unseen, but no name is empty
    have hfresh : entry.1 ∉ seen.map Prod.fst := by
      intro hmem
      obtain ⟨name, hname⟩ : ∃ name, seen.lookup entry.1 = some name := by
        rw [← Option.isSome_iff_exists, List.lookup_isSome_iff]
        obtain ⟨earlier, hearlier, heq⟩ := List.mem_map.mp hmem
        exact ⟨earlier, hearlier, by rw [heq]; exact beq_self_eq_true _⟩
      obtain ⟨before, after, heq, -⟩ := List.lookup_eq_some_iff.mp hname
      have hne : name ≠ [] := hseen (entry.1, name) (by rw [heq]; simp)
      rw [hname, given, Option.filter_some, if_pos (decide_eq_true hne)] at hnew
      cases hnew
    obtain ⟨hnodup, hdisjoint⟩ := ih hrest
      (List.forall_mem_cons.mpr ⟨hentry, hseen⟩)
      (fun later hlater => hentries later (List.mem_cons_of_mem _ hlater))
    rw [List.map_cons, List.nodup_cons]
    refine ⟨⟨fun hmem => ?_, hnodup⟩, List.forall_mem_cons.mpr ⟨hfresh, fun later hlater => ?_⟩⟩
    · obtain ⟨later, hlater, heq⟩ := List.mem_map.mp hmem
      exact hdisjoint later hlater (by rw [heq]; simp)
    · exact fun hmem => hdisjoint later hlater (List.mem_cons_of_mem _ hmem)

/-- The high bytes of a map. -/
def IsByteMap (mapping : DomainByHighByte) : Prop :=
  ∀ entry ∈ mapping, 0 ≤ entry.1 ∧ entry.1 ≤ 0xFF

theorem addDomain_isByteMap {mapping mapping' : DomainByHighByte} {highByte : ℤ} {domain : Bytes}
    (hmap : IsByteMap mapping) (h : addDomain mapping highByte domain = some mapping') :
    IsByteMap mapping' := by
  unfold addDomain at h
  split_ifs at h with hrange hother
  obtain rfl := Option.some.inj h
  exact List.forall_mem_cons.mpr ⟨by show 0 ≤ highByte ∧ highByte ≤ 0xFF; omega, hmap⟩

theorem foldlM_isByteMap {α : Type} {add : DomainByHighByte → α → Option DomainByHighByte}
    (hadd : ∀ mapping item mapping', IsByteMap mapping → add mapping item = some mapping' →
      IsByteMap mapping') {items : List α} {mapping mapping' : DomainByHighByte}
    (hmap : IsByteMap mapping) (h : items.foldlM add mapping = some mapping') :
    IsByteMap mapping' := by
  induction items generalizing mapping with
  | nil =>
    obtain rfl : mapping = mapping' := Option.some.inj h
    exact hmap
  | cons item items ih =>
    rw [List.foldlM_cons, Option.bind_eq_bind, Option.bind_eq_some_iff] at h
    obtain ⟨next, hnext, hrest⟩ := h
    exact ih (hadd mapping item next hmap hnext) hrest

theorem addItemDomain_isByteMap (mapping : DomainByHighByte) (item : RegistryItem)
    (mapping' : DomainByHighByte) (hmap : IsByteMap mapping)
    (h : addItemDomain mapping item = some mapping') : IsByteMap mapping' := by
  unfold addItemDomain at h
  split_ifs at h
  · exact addDomain_isByteMap hmap h
  · obtain rfl := Option.some.inj h
    exact hmap

theorem buildSourceDomainByHighByte_isByteMap {source : SpecModel} {mapping : DomainByHighByte}
    (h : buildSourceDomainByHighByte source = some mapping) : IsByteMap mapping := by
  have hempty : IsByteMap [] := fun entry hmem => absurd hmem List.not_mem_nil
  unfold buildSourceDomainByHighByte at h
  rw [Option.bind_eq_bind, Option.bind_eq_some_iff] at h
  obtain ⟨declared, hdeclared, h⟩ := h
  split_ifs at h
  · obtain rfl : declared = mapping := Option.some.inj h
    exact foldlM_isByteMap (fun _ _ _ => addDomain_isByteMap) hempty hdeclared
  · rw [Option.bind_eq_some_iff] at h
    obtain ⟨ofMethods, hmethods, h⟩ := h
    rw [Option.bind_eq_some_iff] at h
    obtain ⟨ofEvents, hevents, herrors⟩ := h
    have hmap := foldlM_isByteMap addItemDomain_isByteMap hempty hmethods
    exact foldlM_isByteMap addItemDomain_isByteMap (foldlM_isByteMap addItemDomain_isByteMap hmap
      hevents) herrors

/-- **The range check** sees the last 32 bits of an id. -/
theorem toInt32_bounds {zeroByteDomains : List Bytes} {mapping : DomainByHighByte}
    {item : RegistryItem} (hmap : IsByteMap mapping)
    (h : SpecModel.assertRegistryDomainRange zeroByteDomains mapping item = true) :
    0 ≤ toInt32 item.id ∧ toInt32 item.id ≤ 0xFFFF := by
  have hbyte : 0 ≤ highByteOf item.id ∧ highByteOf item.id ≤ 0xFF := by
    unfold SpecModel.assertRegistryDomainRange at h
    cases hexpected : given (mapping.lookup (highByteOf item.id)) with
    | some expected =>
      obtain ⟨hlookup, -⟩ := Option.filter_eq_some_iff.mp hexpected
      obtain ⟨before, after, heq, -⟩ := List.lookup_eq_some_iff.mp hlookup
      exact hmap (highByteOf item.id, expected) (by rw [heq]; simp)
    | none =>
      simp only [hexpected, decide_eq_true_eq] at h
      omega
  unfold highByteOf at hbyte
  omega

/-- An id that passes the check is of 16 bits unless it is not of 32. -/
theorem id_bounds_iff {id : ℤ} (h : 0 ≤ toInt32 id ∧ toInt32 id ≤ 0xFFFF) :
    (0 ≤ id ∧ id ≤ 0xFFFF) ↔ 0 ≤ id ∧ id < 2 ^ 32 := by
  unfold toInt32 at h
  have hmod := Int.bmod_def id (2 ^ 32)
  rw [hmod] at h
  split_ifs at h <;> omega

/-! ### Enums -/

/-- An enum of 16 bits that can be compiled: the names of its enumerators are identifiers, which
differ, and their values are of 16 bits and differ. -/
structure WellFormed (enum : List Enumerator) : Prop where
  named : ∀ row ∈ enum, IsIdentifier row.name
  names : (enum.map Enumerator.name).Nodup
  in_range : ∀ row ∈ enum, 0 ≤ row.value ∧ row.value ≤ 0xFFFF
  values : (enum.map Enumerator.value).Nodup

/-- The items of a registry have names in which a letter comes first of the letters and digits and
of which no two fold together, and ids of 32 bits. -/
structure Printable (items : List RegistryItem) : Prop where
  named : ∀ item ∈ items, LetterFirst item.name
  names : items.Pairwise fun a b => ¬ FoldTogether a.name b.name
  in_range : ∀ item ∈ items, 0 ≤ item.id ∧ item.id < 2 ^ 32

variable {localeCompare : Bytes → Bytes → ℤ}

/-- **An enum** of checked items is well formed exactly if these are printable. -/
theorem wellFormed_enumBlock_iff {items : List RegistryItem}
    (hids : SpecModel.assertUniqueIds items = true)
    (hrange : ∀ item ∈ items, 0 ≤ toInt32 item.id ∧ toInt32 item.id ≤ 0xFFFF) :
    WellFormed (enumBlock localeCompare items) ↔ Printable items := by
  have hperm : (sortById localeCompare items).Perm items := List.perm_insertionSort ..
  have hrow : ∀ P : Enumerator → Prop, (∀ row ∈ enumBlock localeCompare items, P row) ↔
      ∀ item ∈ items, P { name := cppName item.name, value := item.id } := by
    intro P
    unfold enumBlock
    rw [List.forall_mem_map]
    exact forall_congr' fun item => imp_congr_left hperm.mem_iff
  have hnames : ((enumBlock localeCompare items).map Enumerator.name).Nodup ↔
      items.Pairwise fun a b => ¬ FoldTogether a.name b.name := by
    unfold enumBlock
    rw [List.map_map, (hperm.map _).nodup_iff, List.Nodup, List.pairwise_map]
    exact List.Pairwise.iff fun a b => not_congr cppName_eq_iff
  have hnamed : (∀ row ∈ enumBlock localeCompare items, IsIdentifier row.name) ↔
      ∀ item ∈ items, LetterFirst item.name := by
    rw [hrow]
    exact forall₂_congr fun item _ => isIdentifier_cppName_iff
  have hbounds : (∀ row ∈ enumBlock localeCompare items, 0 ≤ row.value ∧ row.value ≤ 0xFFFF) ↔
      ∀ item ∈ items, 0 ≤ item.id ∧ item.id < 2 ^ 32 := by
    rw [hrow]
    exact forall₂_congr fun item hmem => id_bounds_iff (hrange item hmem)
  constructor
  · intro h
    exact ⟨hnamed.mp h.named, hnames.mp h.names, hbounds.mp h.in_range⟩
  · intro h
    refine ⟨hnamed.mpr h.named, hnames.mpr h.names, hbounds.mpr h.in_range, ?_⟩
    -- a name with a letter is not empty, so that its id was compared with the others
    have hnonempty : ∀ entry ∈ items.map fun item => (item.id, item.name), entry.2 ≠ [] := by
      intro entry hentry
      obtain ⟨item, hitem, rfl⟩ := List.mem_map.mp hentry
      obtain ⟨ch, hch, -⟩ := h.named item hitem
      exact List.ne_nil_of_mem (List.mem_of_find?_eq_some hch)
    have hnodup := (nodup_of_uniqueKeys hids (fun _ hmem => absurd hmem List.not_mem_nil)
      hnonempty).1
    unfold enumBlock
    rw [List.map_map, (hperm.map _).nodup_iff]
    rw [List.map_map] at hnodup
    exact hnodup

/-! ### Accepted specs -/

/-- What `validateSpec` says of the ids of the four registries. -/
theorem validateSpec_ids {spec : SpecModel} (h : spec.validateSpec = true) :
    ∀ items ∈ [spec.methods.map Method.toRegistryItem, spec.events.map Event.toRegistryItem,
        spec.errors.map ErrorItem.toRegistryItem,
        spec.capabilities.map Capability.toRegistryItem],
      SpecModel.assertUniqueIds items = true ∧
        ∀ item ∈ items, 0 ≤ toInt32 item.id ∧ toInt32 item.id ≤ 0xFFFF := by
  unfold SpecModel.validateSpec at h
  dsimp only at h
  split at h
  · cases h
  rename_i mapping hmapping
  have hmap := buildSourceDomainByHighByte_isByteMap hmapping
  simp only [Bool.and_eq_true] at h
  have hrange : ∀ {items : List RegistryItem} {zeroByteDomains : List Bytes},
      SpecModel.assertRegistryDomainRanges items zeroByteDomains mapping = true →
        ∀ item ∈ items, 0 ≤ toInt32 item.id ∧ toInt32 item.id ≤ 0xFFFF := by
    intro items zeroByteDomains hranges item hmem
    exact toInt32_bounds hmap (List.all_eq_true.mp hranges item hmem)
  intro items hmem
  simp only [List.mem_cons, List.not_mem_nil, or_false] at hmem
  rcases hmem with rfl | rfl | rfl | rfl
  · exact ⟨by tauto, hrange (by tauto)⟩
  · exact ⟨by tauto, hrange (by tauto)⟩
  · exact ⟨by tauto, hrange (by tauto)⟩
  · exact ⟨by tauto, hrange (by tauto)⟩

/-- **The generated id enums are well formed** exactly if the four registries are printable. -/
theorem emitIds_wellFormed_iff {spec : SpecModel} (h : spec.validateSpec = true)
    (localeCompare : Bytes → Bytes → ℤ) :
    (WellFormed (emitIds localeCompare spec).MethodId ∧
      WellFormed (emitIds localeCompare spec).EventId ∧
      WellFormed (emitIds localeCompare spec).ErrorCode ∧
      WellFormed (emitIds localeCompare spec).CapabilityId) ↔
    Printable (spec.methods.map Method.toRegistryItem) ∧
      Printable (spec.events.map Event.toRegistryItem) ∧
      Printable (spec.errors.map ErrorItem.toRegistryItem) ∧
      Printable (spec.capabilities.map Capability.toRegistryItem) := by
  have hcheck := validateSpec_ids h
  have henum : ∀ items ∈ _, WellFormed (enumBlock localeCompare items) ↔ Printable items :=
    fun items hmem => wellFormed_enumBlock_iff (hcheck items hmem).1 (hcheck items hmem).2
  simp only [List.forall_mem_cons] at henum
  obtain ⟨hmethods, hevents, herrors, hcapabilities, -⟩ := henum
  exact and_congr hmethods (and_congr hevents (and_congr herrors hcapabilities))

/-- Two methods, an event and an error of one domain, and no capability. -/
def deviceSpec : SpecModel :=
  { methods :=
      [{ id := 0x0102, name := ascii "device.set_name", domain := ascii "device",
         status := ascii "stable", bitOffset := 1 },
       { id := 0x0101, name := ascii "device.getInfo", domain := ascii "device",
         status := ascii "stable", bitOffset := 0 }]
    events :=
      [{ id := 0x0101, name := ascii "device.changed", domain := ascii "device",
         status := ascii "stable", bitOffset := 0 }]
    errors :=
      [{ id := 0x0103, name := ascii "DEVICE_BUSY", domain := ascii "device",
         status := ascii "stable" }] }

theorem printable_nil : Printable [] where
  named := fun _ hmem => absurd hmem List.not_mem_nil
  names := .nil
  in_range := fun _ hmem => absurd hmem List.not_mem_nil

/-- A name that begins with a letter. -/
theorem letterFirst_of_head? {name : Bytes} (first : Byte) (h : name.head? = some first)
    (hletter : isLetter first = true) : LetterFirst name := by
  obtain ⟨rest, rfl⟩ := List.head?_eq_some_iff.mp h
  have hkept : isAlphanumeric first = true := by
    unfold isAlphanumeric
    rw [isLetter, Bool.or_eq_true] at hletter
    exact decide_eq_true (hletter.imp_right .inl)
  exact ⟨first, List.find?_cons_of_pos hkept, hletter⟩

theorem emitIds_wellFormed_deviceSpec :
    WellFormed (emitIds (fun _ _ => 0) deviceSpec).MethodId ∧
      WellFormed (emitIds (fun _ _ => 0) deviceSpec).EventId ∧
      WellFormed (emitIds (fun _ _ => 0) deviceSpec).ErrorCode ∧
      WellFormed (emitIds (fun _ _ => 0) deviceSpec).CapabilityId := by
  have hfolded : ¬ FoldTogether (ascii "device.set_name") (ascii "device.getInfo") := by
    rw [← cppName_eq_iff]
    decide +kernel
  have hdevice (name : Bytes) (h : name.head? = some 0x64) : LetterFirst name :=
    letterFirst_of_head? 0x64 h (by decide)
  refine (emitIds_wellFormed_iff (by decide +kernel) _).mpr
    ⟨⟨?_, ?_, ?_⟩, ⟨?_, List.pairwise_singleton .., ?_⟩, ⟨?_, List.pairwise_singleton .., ?_⟩,
      printable_nil⟩
  · exact List.forall_mem_cons.mpr ⟨hdevice _ rfl, List.forall_mem_singleton.mpr (hdevice _ rfl)⟩
  · exact List.pairwise_pair.mpr hfolded
  · exact List.forall_mem_cons.mpr ⟨by decide, List.forall_mem_singleton.mpr (by decide)⟩
  · exact List.forall_mem_singleton.mpr (hdevice _ rfl)
  · exact List.forall_mem_singleton.mpr (by decide)
  · exact List.forall_mem_singleton.mpr (letterFirst_of_head? 0x44 rfl (by decide))
  · exact List.forall_mem_singleton.mpr (by decide)

-- Its methods are printed in the order of their ids.
example : (emitIds (fun _ _ => 0) deviceSpec).MethodId.map Enumerator.name =
    [ascii "DeviceGetInfo", ascii "DeviceSetName"] := by decide +kernel

/-- Two methods that differ in the character between the words of their names. -/
def twinMethods : SpecModel :=
  { methods :=
      [{ id := 0x0101, name := ascii "device.info", domain := ascii "device",
         status := ascii "stable", bitOffset := 0 },
       { id := 0x0102, name := ascii "device_info", domain := ascii "device",
         status := ascii "stable", bitOffset := 1 }] }

/-- They are accepted, and both are printed as `DeviceInfo`. -/
theorem not_wellFormed_twinMethods :
    twinMethods.validateSpec = true ∧
      (emitIds (fun _ _ => 0) twinMethods).MethodId.map Enumerator.name =
        [ascii "DeviceInfo", ascii "DeviceInfo"] ∧
      ¬ WellFormed (emitIds (fun _ _ => 0) twinMethods).MethodId := by
  have hrows : (emitIds (fun _ _ => 0) twinMethods).MethodId.map Enumerator.name =
      [ascii "DeviceInfo", ascii "DeviceInfo"] := by decide +kernel
  refine ⟨by decide +kernel, hrows, fun h => ?_⟩
  have hnames := h.names
  rw [hrows] at hnames
  revert hnames
  decide

/-- A method whose id has 16 bits too many and whose name begins with a digit. -/
def wideMethod : SpecModel :=
  { methods :=
      [{ id := 2 ^ 32 + 0x0101, name := ascii "3d.getMode", domain := ascii "device",
         status := ascii "stable", bitOffset := 0 }] }

-- Only the last 32 bits of its id are checked, and nothing of the characters of its name.
example : wideMethod.validateSpec = true ∧
    (emitIds (fun _ _ => 0) wideMethod).MethodId =
      [{ name := ascii "3dGetMode", value := 2 ^ 32 + 0x0101 }] := by
  decide +kernel

end Axtp.Devtools
