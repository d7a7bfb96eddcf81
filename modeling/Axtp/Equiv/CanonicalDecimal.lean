/-
  `isCanonicalUint64Decimal` accepts the decimal numerals of the 64-bit numbers.

  The loop goes on exactly while the digits read so far denote a number below 2^64
  (`isUint64Digits_iff`), so the guard is exact and no update of the accumulator wraps
  (`accumulate_concat`). The length cap of 20 excludes nothing that the guard lets
  through, since the largest 64-bit number has 20 digits.
-/
import Axtp.Lib.Numeral
import Axtp.Wire.SchemaObjectCodec

namespace Axtp

open Numeral

/-- The decimal numeral of a number, without leading zeros. -/
def decimal (n : ℕ) : Bytes :=
  if n = 0 then [0x30] else (Nat.digits 10 n).reverse.map fun digit => 0x30 + UInt8.ofNat digit

example : decimal 18446744073709551615 = ascii "18446744073709551615" := by decide +kernel

namespace CanonicalDecimal

/-- The character is a decimal digit. -/
def IsDigit (ch : Byte) : Prop := 0x30 ≤ ch ∧ ch ≤ 0x39

instance (ch : Byte) : Decidable (IsDigit ch) := by unfold IsDigit; infer_instance

/-- The number that a digit stands for. -/
def digitOf (ch : Byte) : ℕ := ch.toNat - 0x30

theorem digitOf_lt {ch : Byte} (h : IsDigit ch) : digitOf ch < 10 := by
  obtain ⟨hlow, hhigh⟩ := h
  rw [UInt8.le_iff_toNat_le] at hlow hhigh
  have hlow' : 48 ≤ ch.toNat := hlow
  have hhigh' : ch.toNat ≤ 57 := hhigh
  unfold digitOf
  omega

/-- The character of a digit. -/
theorem char_digitOf {ch : Byte} (h : IsDigit ch) : 0x30 + UInt8.ofNat (digitOf ch) = ch := by
  obtain ⟨hlow, hhigh⟩ := h
  rw [UInt8.le_iff_toNat_le] at hlow hhigh
  have hlow' : 48 ≤ ch.toNat := hlow
  have hhigh' : ch.toNat ≤ 57 := hhigh
  apply UInt8.toNat_inj.mp
  rw [UInt8.toNat_add, UInt8.toNat_ofNat']
  unfold digitOf
  show (48 + (ch.toNat - 48) % 256) % 256 = ch.toNat
  omega

theorem isDigit_char {digit : ℕ} (h : digit < 10) : IsDigit (0x30 + UInt8.ofNat digit) := by
  interval_cases digit <;> decide

theorem digitOf_char {digit : ℕ} (h : digit < 10) : digitOf (0x30 + UInt8.ofNat digit) = digit := by
  interval_cases digit <;> rfl

/-- **The loop** runs to the end exactly on digits whose number, after those that make the
accumulator, is below 2^64. -/
theorem isUint64Digits_iff {value : Bytes} {result : ℕ} (hresult : result < 2 ^ 64) :
    isUint64Digits value result = true ↔
      (∀ ch ∈ value, IsDigit ch) ∧ numberAfter 10 (value.map digitOf) result < 2 ^ 64 := by
  induction value generalizing result with
  | nil => simpa [isUint64Digits, numberAfter_nil] using hresult
  | cons ch rest ih =>
    rw [isUint64Digits, decide_eq_true_iff, List.map_cons, numberAfter_cons, List.forall_mem_cons]
    by_cases hdigit : IsDigit ch
    · have hlt := digitOf_lt hdigit
      -- the guard is the bound on the next accumulator
      have hguard : result ≤ (2 ^ 64 - 1 - (ch.toNat - 0x30)) / 10 ↔
          result * 10 + digitOf ch < 2 ^ 64 := by
        show result ≤ (2 ^ 64 - 1 - digitOf ch) / 10 ↔ _
        omega
      rw [hguard]
      by_cases hnext : result * 10 + digitOf ch < 2 ^ 64
      · have hrest := ih hnext
        constructor
        · rintro ⟨-, -, -, hloop⟩
          obtain ⟨hdigits, hnumber⟩ := hrest.mp hloop
          exact ⟨⟨hdigit, hdigits⟩, hnumber⟩
        · rintro ⟨⟨-, hdigits⟩, hnumber⟩
          exact ⟨hdigit.1, hdigit.2, hnext, hrest.mpr ⟨hdigits, hnumber⟩⟩
      · constructor
        · rintro ⟨-, -, hnext', -⟩
          exact absurd hnext' hnext
        · rintro ⟨-, hnumber⟩
          have hle := le_numberAfter (b := 10) (by omega) (rest.map digitOf)
            (result * 10 + digitOf ch)
          omega
    · constructor
      · rintro ⟨hlow, hhigh, -⟩
        exact absurd ⟨hlow, hhigh⟩ hdigit
      · rintro ⟨⟨hdigit', -⟩, -⟩
        exact absurd hdigit' hdigit

/-! ### Numerals without leading zeros -/

theorem map_char_map_digitOf {value : Bytes} (h : ∀ ch ∈ value, IsDigit ch) :
    (value.map digitOf).map (fun digit => 0x30 + UInt8.ofNat digit) = value := by
  rw [List.map_map]
  calc value.map ((fun digit => 0x30 + UInt8.ofNat digit) ∘ digitOf)
      = value.map id := List.map_congr_left fun ch hch => char_digitOf (h ch hch)
    _ = value := List.map_id value

theorem digitOf_eq_zero {ch : Byte} (h : IsDigit ch) (hzero : digitOf ch = 0) : ch = 0x30 := by
  rw [← char_digitOf h, hzero]
  rfl

/-- Digits without a leading zero are the numeral of their number. -/
theorem eq_decimal {value : Bytes} (hne : value ≠ []) (hdigits : ∀ ch ∈ value, IsDigit ch)
    (hhead : ¬ (value.length > 1 ∧ value.head? = some 0x30)) :
    value = decimal (number 10 (value.map digitOf)) := by
  have hlt : ∀ digit ∈ value.map digitOf, digit < 10 := by
    intro digit hdigit
    obtain ⟨ch, hch, rfl⟩ := List.mem_map.mp hdigit
    exact digitOf_lt (hdigits ch hch)
  rcases value with _ | ⟨ch, rest⟩
  · exact absurd rfl hne
  have hch : IsDigit ch := hdigits ch (List.mem_cons_self ..)
  by_cases hzero : ch = 0x30
  · -- a leading zero is the whole numeral
    have hrest : rest = [] := by
      by_contra hrest
      apply hhead
      have hpos := List.length_pos_iff.mpr hrest
      rw [List.length_cons, hzero]
      exact ⟨by omega, rfl⟩
    subst hzero hrest
    rfl
  · have hhead' : ((ch :: rest).map digitOf).head? ≠ some 0 := by
      intro hsome
      exact hzero (digitOf_eq_zero hch (Option.some.inj hsome))
    have hcanonical := digits_number (by omega) hlt hhead'
    have hnumber : number 10 ((ch :: rest).map digitOf) ≠ 0 := by
      intro hnumber
      rw [hnumber, Nat.digits_zero, List.reverse_nil, List.map_cons] at hcanonical
      cases hcanonical
    rw [decimal, if_neg hnumber, hcanonical, map_char_map_digitOf hdigits]

theorem isDigit_of_mem_decimal {n : ℕ} {ch : Byte} (h : ch ∈ decimal n) : IsDigit ch := by
  unfold decimal at h
  split_ifs at h
  · obtain rfl := List.mem_singleton.mp h
    decide
  · obtain ⟨digit, hdigit, rfl⟩ := List.mem_map.mp h
    exact isDigit_char (Nat.digits_lt_base (by omega) (List.mem_reverse.mp hdigit))

theorem number_decimal (n : ℕ) : number 10 ((decimal n).map digitOf) = n := by
  unfold decimal
  split_ifs with hzero
  · rw [hzero]
    rfl
  · rw [List.map_map]
    have hdigits : (Nat.digits 10 n).reverse.map
        (digitOf ∘ fun digit => 0x30 + UInt8.ofNat digit) = (Nat.digits 10 n).reverse.map id := by
      apply List.map_congr_left
      intro digit hdigit
      exact digitOf_char (Nat.digits_lt_base (by omega) (List.mem_reverse.mp hdigit))
    rw [hdigits, List.map_id, number_digits]

theorem decimal_ne_nil (n : ℕ) : decimal n ≠ [] := by
  unfold decimal
  split_ifs with hzero
  · exact List.cons_ne_nil _ _
  · intro hnil
    rw [List.map_eq_nil_iff, List.reverse_eq_nil_iff] at hnil
    exact Nat.digits_ne_nil_iff_ne_zero.mpr hzero hnil

/-- No numeral of more than one digit has a leading zero. -/
theorem head?_decimal (n : ℕ) : ¬ ((decimal n).length > 1 ∧ (decimal n).head? = some 0x30) := by
  rintro ⟨hlength, hhead⟩
  unfold decimal at hlength hhead
  split_ifs at hlength hhead with hzero
  · rw [List.length_singleton] at hlength
    omega
  · rw [List.head?_map, List.head?_reverse, Option.map_eq_some_iff] at hhead
    obtain ⟨digit, hlast, hchar⟩ := hhead
    have hne : Nat.digits 10 n ≠ [] := Nat.digits_ne_nil_iff_ne_zero.mpr hzero
    rw [List.getLast?_eq_some_getLast hne] at hlast
    have hlast := Option.some.inj hlast
    have hmem : digit ∈ Nat.digits 10 n := hlast ▸ List.getLast_mem hne
    have hdigit := digitOf_char (Nat.digits_lt_base (by omega) hmem)
    rw [hchar] at hdigit
    apply Nat.getLast_digit_ne_zero 10 hzero
    rw [hlast, ← hdigit]
    rfl

/-- A 64-bit number has at most 20 digits. -/
theorem length_decimal_le {n : ℕ} (h : n < 2 ^ 64) : (decimal n).length ≤ 20 := by
  unfold decimal
  split_ifs
  · simp
  · rw [List.length_map, List.length_reverse, Nat.digits_length_le_iff (by omega)]
    omega

/-! ### The accumulator -/

/-- The loop in 64-bit arithmetic: the accumulator after the characters, if none of them makes the
function return. -/
def accumulate : Bytes → UInt64 → Option UInt64
  | [], result => some result
  | ch :: rest, result =>
    let digit := ch.toUInt64 - 0x30
    if 0x30 ≤ ch ∧ ch ≤ 0x39 ∧ ¬ result > (0xFFFFFFFFFFFFFFFF - digit) / 10 then
      accumulate rest (result * 10 + digit)
    else none

/-- The digit in 64 bits. -/
theorem toNat_digit {ch : Byte} (h : IsDigit ch) : (ch.toUInt64 - 0x30).toNat = digitOf ch := by
  obtain ⟨hlow, -⟩ := h
  rw [UInt8.le_iff_toNat_le] at hlow
  have hle : (0x30 : UInt64) ≤ ch.toUInt64 := by
    rw [UInt64.le_iff_toNat_le, UInt8.toNat_toUInt64]
    exact hlow
  rw [UInt64.toNat_sub_of_le _ _ hle, UInt8.toNat_toUInt64]
  rfl

theorem guard_iff {ch : Byte} (h : IsDigit ch) (result : UInt64) :
    ¬ result > (0xFFFFFFFFFFFFFFFF - (ch.toUInt64 - 0x30)) / 10 ↔
      result.toNat ≤ (2 ^ 64 - 1 - digitOf ch) / 10 := by
  have hlt := digitOf_lt h
  have hle : ch.toUInt64 - 0x30 ≤ (0xFFFFFFFFFFFFFFFF : UInt64) := by
    rw [UInt64.le_iff_toNat_le, toNat_digit h]
    show digitOf ch ≤ 18446744073709551615
    omega
  rw [gt_iff_lt, UInt64.not_lt, UInt64.le_iff_toNat_le, UInt64.toNat_div,
    UInt64.toNat_sub_of_le _ _ hle,
    toNat_digit h]
  rfl

/-- One update does not wrap. -/
theorem toNat_update {ch : Byte} (h : IsDigit ch) {result : UInt64}
    (hguard : result.toNat ≤ (2 ^ 64 - 1 - digitOf ch) / 10) :
    (result * 10 + (ch.toUInt64 - 0x30)).toNat = result.toNat * 10 + digitOf ch := by
  have hlt := digitOf_lt h
  rw [UInt64.toNat_add, UInt64.toNat_mul, toNat_digit h]
  show (result.toNat * 10 % 2 ^ 64 + digitOf ch) % 2 ^ 64 = result.toNat * 10 + digitOf ch
  omega

/-- In 64 bits the loop takes the same course. -/
theorem isSome_accumulate (value : Bytes) (result : UInt64) :
    (accumulate value result).isSome = isUint64Digits value result.toNat := by
  induction value generalizing result with
  | nil => rfl
  | cons ch rest ih =>
    simp only [accumulate, isUint64Digits]
    by_cases hdigit : IsDigit ch
    · have hiff := guard_iff hdigit result
      by_cases hguard : result.toNat ≤ (2 ^ 64 - 1 - digitOf ch) / 10
      · rw [if_pos ⟨hdigit.1, hdigit.2, hiff.mpr hguard⟩, ih, toNat_update hdigit hguard]
        simp only [hdigit.1, hdigit.2, true_and]
        have hguard' : result.toNat ≤ (2 ^ 64 - 1 - (ch.toNat - 48)) / 10 := hguard
        simp only [hguard', true_and, Bool.decide_eq_true]
        rfl
      · rw [if_neg (fun hall => hguard (hiff.mp hall.2.2))]
        have hguard' : ¬ result.toNat ≤ (2 ^ 64 - 1 - (ch.toNat - 48)) / 10 := hguard
        simp only [hguard', false_and, and_false, decide_false, Option.isSome_none]
    · rw [if_neg (fun hall => hdigit ⟨hall.1, hall.2.1⟩)]
      symm
      apply decide_eq_false
      rintro ⟨hlow, hhigh, -⟩
      exact hdigit ⟨hlow, hhigh⟩

theorem accumulate_append (before after : Bytes) (result : UInt64) :
    accumulate (before ++ after) result = (accumulate before result).bind (accumulate after) := by
  induction before generalizing result with
  | nil => rfl
  | cons ch rest ih =>
    simp only [List.cons_append, accumulate]
    split_ifs
    · exact ih _
    · rfl

/-- **No update of the accumulator wraps.** -/
theorem accumulate_concat {before : Bytes} {ch : Byte} {result result' : UInt64}
    (hbefore : accumulate before 0 = some result)
    (hafter : accumulate (before ++ [ch]) 0 = some result') :
    IsDigit ch ∧ result'.toNat = result.toNat * 10 + digitOf ch := by
  rw [accumulate_append, hbefore, Option.bind_some, accumulate] at hafter
  split_ifs at hafter with hstep
  obtain ⟨hlow, hhigh, hguard⟩ := hstep
  have hdigit : IsDigit ch := ⟨hlow, hhigh⟩
  obtain rfl := Option.some.inj hafter
  exact ⟨hdigit, toNat_update hdigit ((guard_iff hdigit result).mp hguard)⟩

/-! ### The main result -/

/-- **Canonical 64-bit decimals.** What is accepted are the decimal numerals, without leading zeros,
of the numbers below 2^64; the loop in 64-bit arithmetic takes the same course, and none of its
updates wraps, whatever the input. -/
theorem isCanonicalUint64Decimal_iff (value : Bytes) :
    (isCanonicalUint64Decimal value = true ↔ ∃ n < 2 ^ 64, value = decimal n) ∧
      (accumulate value 0).isSome = isUint64Digits value 0 ∧
      ∀ before ch after result result', value = before ++ ch :: after →
        accumulate before 0 = some result → accumulate (before ++ [ch]) 0 = some result' →
          result'.toNat = result.toNat * 10 + digitOf ch := by
  refine ⟨?_, isSome_accumulate value 0, ?_⟩
  · rw [isCanonicalUint64Decimal, decide_eq_true_iff, isUint64Digits_iff (by omega)]
    constructor
    · rintro ⟨hne, -, hhead, hdigits, hnumber⟩
      exact ⟨_, hnumber, eq_decimal hne hdigits hhead⟩
    · rintro ⟨n, hn, rfl⟩
      refine ⟨decimal_ne_nil n, length_decimal_le hn, head?_decimal n,
        fun ch hch => isDigit_of_mem_decimal hch, ?_⟩
      show number 10 ((decimal n).map digitOf) < 2 ^ 64
      rw [number_decimal]
      exact hn
  · intro before ch after result result' _ hbefore hafter
    exact (accumulate_concat hbefore hafter).2

end CanonicalDecimal

end Axtp
