/-
  `std::stoull`: the number at the beginning of a text.

  The function skips white space, takes a sign, in base 16 an optional `0x`, and then as
  many digits as follow; what comes after them is ignored. It throws where there is no
  digit and where the number needs more than 64 bits. A minus sign negates the number
  modulo 2^64.

  `Reading` takes a text apart along this grammar, each text in one way only: what
  `stoull` returns is the value of the reading (`stoull_eq_some_iff`).
-/
import Axtp.Lib.Numeral
import Mathlib.Data.List.TakeWhile

namespace Axtp.Stoull

open Numeral

/-! ### The function -/

/-- `std::isspace` in the standard locale. -/
def isSpace (ch : UInt8) : Bool := ch = 0x20 ∨ (0x09 ≤ ch ∧ ch ≤ 0x0D)

/-- The value of a character as a digit; 36, which is no digit in any base, for the others. -/
def digitValue (ch : UInt8) : ℕ :=
  if 0x30 ≤ ch ∧ ch ≤ 0x39 then ch.toNat - 0x30
  else if 0x61 ≤ ch ∧ ch ≤ 0x7A then ch.toNat - 0x61 + 10
  else if 0x41 ≤ ch ∧ ch ≤ 0x5A then ch.toNat - 0x41 + 10
  else 36

def isDigit (base : ℕ) (ch : UInt8) : Bool := digitValue ch < base

/-- The number that digits denote in a base. -/
def numeral (base : ℕ) (digits : List UInt8) : ℕ := number base (digits.map digitValue)

def isX (ch : UInt8) : Bool := ch = 0x78 ∨ ch = 0x58

/-- The `0x` that base 16 allows, where a digit follows it. -/
def skipPrefix (base : ℕ) : List UInt8 → List UInt8
  | 0x30 :: x :: ch :: rest =>
    if base = 16 ∧ isX x ∧ isDigit 16 ch then ch :: rest else 0x30 :: x :: ch :: rest
  | text => text

/-- What follows the sign, and whether this is a minus. -/
def skipSign : List UInt8 → Bool × List UInt8
  | 0x2D :: rest => (true, rest)
  | 0x2B :: rest => (false, rest)
  | text => (false, text)

/-- A number with its sign, in 64 bits. -/
def signed (negative : Bool) (n : ℕ) : ℕ := if negative then (2 ^ 64 - n) % 2 ^ 64 else n

/-- `std::stoull(text, nullptr, base)`, `none` where it throws. -/
def stoull (text : List UInt8) (base : ℕ) : Option ℕ :=
  let (negative, text) := skipSign (text.dropWhile isSpace)
  let digits := (skipPrefix base text).takeWhile (isDigit base)
  if digits = [] ∨ 2 ^ 64 ≤ numeral base digits then none
  else some (signed negative (numeral base digits))

/-! ### The grammar -/

/-- A sign and whether it is a minus. -/
inductive Sign : List UInt8 → Bool → Prop
  | absent : Sign [] false
  | plus : Sign [0x2B] false
  | minus : Sign [0x2D] true

/-- What may stand between the sign and the digits. -/
inductive Prefixed (base : ℕ) : List UInt8 → Prop
  | absent : Prefixed base []
  | hexadecimal {x : UInt8} (hbase : base = 16) (hx : isX x = true) : Prefixed base [0x30, x]

/-- The parts of a text that begins with a number. The digits end where no digit follows, and
the zero of a `0x` before a digit is none of them. -/
structure Reading (base : ℕ) (text blanks sign mark digits rest : List UInt8) (negative : Bool) :
    Prop where
  text_eq : text = blanks ++ (sign ++ (mark ++ (digits ++ rest)))
  all_blank : ∀ ch ∈ blanks, isSpace ch = true
  sign_ok : Sign sign negative
  mark_ok : Prefixed base mark
  digits_ne : digits ≠ []
  all_digit : ∀ ch ∈ digits, isDigit base ch = true
  stops : ∀ ch ∈ rest.head?, isDigit base ch = false
  unmarked : mark = [] → skipPrefix base (digits ++ rest) = digits ++ rest

/-! ### What the steps of the function take off -/

theorem skipSign_spec (text : List UInt8) :
    ∃ sign, Sign sign (skipSign text).1 ∧ text = sign ++ (skipSign text).2 := by
  unfold skipSign
  split
  · exact ⟨_, .minus, rfl⟩
  · exact ⟨_, .plus, rfl⟩
  · exact ⟨_, .absent, rfl⟩

theorem skipSign_append {sign text : List UInt8} {negative : Bool} (h : Sign sign negative)
    (htext : ∀ ch ∈ text.head?, ch ≠ 0x2D ∧ ch ≠ 0x2B) :
    skipSign (sign ++ text) = (negative, text) := by
  cases h with
  | plus => rfl
  | minus => rfl
  | absent =>
    rw [List.nil_append]
    unfold skipSign
    split
    · exact absurd rfl (htext 0x2D rfl).1
    · exact absurd rfl (htext 0x2B rfl).2
    · rfl

theorem skipPrefix_spec (base : ℕ) (text : List UInt8) :
    ∃ mark, Prefixed base mark ∧ text = mark ++ skipPrefix base text := by
  unfold skipPrefix
  split
  · split_ifs with h
    · exact ⟨_, .hexadecimal h.1 h.2.1, rfl⟩
    · exact ⟨_, .absent, rfl⟩
  · exact ⟨_, .absent, rfl⟩

theorem skipPrefix_mark {x ch : UInt8} {rest : List UInt8} (hx : isX x = true)
    (hch : isDigit 16 ch = true) : skipPrefix 16 (0x30 :: x :: ch :: rest) = ch :: rest :=
  if_pos ⟨rfl, hx, hch⟩

theorem le_of_digitValue {ch : UInt8} (h : digitValue ch < 36) : 48 ≤ ch.toNat := by
  unfold digitValue at h
  split_ifs at h with hdecimal hlower hupper
  · exact UInt8.le_iff_toNat_le.mp hdecimal.1
  · have hle : 97 ≤ ch.toNat := UInt8.le_iff_toNat_le.mp hlower.1
    omega
  · have hle : 65 ≤ ch.toNat := UInt8.le_iff_toNat_le.mp hupper.1
    omega
  · omega

/-- A digit is neither a blank nor a sign. -/
theorem isSpace_of_isDigit {base : ℕ} {ch : UInt8} (hbase : base ≤ 36)
    (h : isDigit base ch = true) : isSpace ch = false ∧ ch ≠ 0x2D ∧ ch ≠ 0x2B := by
  have hle := le_of_digitValue (lt_of_lt_of_le (of_decide_eq_true h) hbase)
  have hne : ∀ other : UInt8, other.toNat < 48 → ch ≠ other := by
    rintro other hlt rfl
    omega
  refine ⟨decide_eq_false ?_, hne _ (by decide), hne _ (by decide)⟩
  rintro (hspace | ⟨-, htab⟩)
  · exact hne _ (by decide) hspace
  · have hle' : ch.toNat ≤ 13 := UInt8.le_iff_toNat_le.mp htab
    omega

/-- What follows a list of characters with a property is what is left without them. -/
theorem dropWhile_append_eq {p : UInt8 → Bool} {body rest : List UInt8}
    (hbody : ∀ ch ∈ body, p ch = true) (hrest : ∀ ch ∈ rest.head?, p ch = false) :
    (body ++ rest).dropWhile p = rest := by
  rw [List.dropWhile_append_of_pos hbody]
  cases rest with
  | nil => rfl
  | cons ch rest =>
    have hch := hrest ch rfl
    exact List.dropWhile_cons_of_neg (by rw [hch]; exact Bool.false_ne_true)

theorem takeWhile_append_eq {p : UInt8 → Bool} {body rest : List UInt8}
    (hbody : ∀ ch ∈ body, p ch = true) (hrest : ∀ ch ∈ rest.head?, p ch = false) :
    (body ++ rest).takeWhile p = body := by
  rw [List.takeWhile_append_of_pos hbody]
  cases rest with
  | nil => exact List.append_nil body
  | cons ch rest =>
    have hch := hrest ch rfl
    rw [List.takeWhile_cons_of_neg (by rw [hch]; exact Bool.false_ne_true)]
    exact List.append_nil body

theorem head?_dropWhile_eq_false {p : UInt8 → Bool} (text : List UInt8) :
    ∀ ch ∈ (text.dropWhile p).head?, p ch = false := by
  intro ch hch
  have hne : text.dropWhile p ≠ [] := by
    intro hnil
    rw [hnil] at hch
    cases hch
  have hhead := List.head_dropWhile_not p hne
  rw [List.head?_eq_some_head hne] at hch
  rw [← Option.some.inj hch]
  exact hhead

/-! ### The function and the grammar -/

variable {base : ℕ} {text blanks sign mark digits rest : List UInt8} {negative : Bool}

/-- What follows the sign begins with a digit or with the zero of the mark. -/
theorem Reading.head_digit (h : Reading base text blanks sign mark digits rest negative) :
    ∃ ch tail, mark ++ (digits ++ rest) = ch :: tail ∧ (ch = 0x30 ∨ isDigit base ch = true) := by
  cases h.mark_ok with
  | hexadecimal hbase hx => exact ⟨_, _, rfl, .inl rfl⟩
  | absent =>
    obtain ⟨ch, tail, rfl⟩ := List.exists_cons_of_ne_nil h.digits_ne
    exact ⟨ch, tail ++ rest, rfl, .inr (h.all_digit ch (List.mem_cons_self ..))⟩

theorem Reading.skipPrefix_eq (h : Reading base text blanks sign mark digits rest negative) :
    skipPrefix base (mark ++ (digits ++ rest)) = digits ++ rest := by
  cases h.mark_ok with
  | absent => exact h.unmarked rfl
  | hexadecimal hbase hx =>
    subst hbase
    obtain ⟨ch, tail, rfl⟩ := List.exists_cons_of_ne_nil h.digits_ne
    exact skipPrefix_mark hx (h.all_digit ch (List.mem_cons_self ..))

/-- A text is read as its reading says. -/
theorem Reading.stoull_eq (hbase : base ≤ 36)
    (h : Reading base text blanks sign mark digits rest negative) :
    stoull text base = if 2 ^ 64 ≤ numeral base digits then none
      else some (signed negative (numeral base digits)) := by
  obtain ⟨ch, tail, heq, hch⟩ := h.head_digit
  have hnone : isSpace ch = false ∧ ch ≠ 0x2D ∧ ch ≠ 0x2B := by
    rcases hch with rfl | hch
    · decide
    · exact isSpace_of_isDigit hbase hch
  have hblanks : text.dropWhile isSpace = sign ++ (mark ++ (digits ++ rest)) := by
    rw [h.text_eq]
    refine dropWhile_append_eq h.all_blank fun first hfirst => ?_
    rw [heq] at hfirst
    cases h.sign_ok with
    | absent => exact Option.some.inj hfirst ▸ hnone.1
    | plus => exact Option.some.inj hfirst ▸ rfl
    | minus => exact Option.some.inj hfirst ▸ rfl
  have hsign : skipSign (sign ++ (mark ++ (digits ++ rest))) =
      (negative, mark ++ (digits ++ rest)) := by
    refine skipSign_append h.sign_ok fun first hfirst => ?_
    rw [heq] at hfirst
    exact Option.some.inj hfirst ▸ hnone.2
  unfold stoull
  rw [hblanks, hsign]
  simp only [h.skipPrefix_eq, takeWhile_append_eq h.all_digit h.stops, h.digits_ne, false_or]

/-- Where a text is read, it has a reading. -/
theorem exists_reading {value : ℕ} (h : stoull text base = some value) :
    ∃ blanks sign mark digits rest negative,
      Reading base text blanks sign mark digits rest negative := by
  obtain ⟨sign, hsign, htext⟩ := skipSign_spec (text.dropWhile isSpace)
  obtain ⟨mark, hmark, hafter⟩ := skipPrefix_spec base (skipSign (text.dropWhile isSpace)).2
  set after := (skipSign (text.dropWhile isSpace)).2
  have hne : (skipPrefix base after).takeWhile (isDigit base) ≠ [] := by
    intro hnil
    have hthrow : stoull text base = none := if_pos (.inl hnil)
    rw [hthrow] at h
    cases h
  have hsplit := List.takeWhile_append_dropWhile (p := isDigit base) (l := skipPrefix base after)
  refine ⟨text.takeWhile isSpace, sign, mark, (skipPrefix base after).takeWhile (isDigit base),
    _, _, ⟨?_, ?_, hsign, hmark, hne, ?_, head?_dropWhile_eq_false (skipPrefix base after), ?_⟩⟩
  · rw [hsplit, ← hafter, ← htext, List.takeWhile_append_dropWhile]
  · intro ch hch
    exact List.mem_takeWhile_imp hch
  · intro ch hch
    exact List.mem_takeWhile_imp hch
  · rintro rfl
    rw [hsplit]
    exact (congrArg (skipPrefix base) hafter).symm

/-- **`stoull` returns** the value of the reading of its text, if that fits 64 bits. -/
theorem stoull_eq_some_iff (hbase : base ≤ 36) {value : ℕ} :
    stoull text base = some value ↔ ∃ blanks sign mark digits rest negative,
      Reading base text blanks sign mark digits rest negative ∧
        numeral base digits < 2 ^ 64 ∧ value = signed negative (numeral base digits) := by
  constructor
  · intro h
    obtain ⟨blanks, sign, mark, digits, rest, negative, hreading⟩ := exists_reading h
    rw [hreading.stoull_eq hbase] at h
    split_ifs at h with hlt
    exact ⟨_, _, _, _, _, _, hreading, not_le.mp hlt, (Option.some.inj h).symm⟩
  · rintro ⟨blanks, sign, mark, digits, rest, negative, hreading, hlt, rfl⟩
    rw [hreading.stoull_eq hbase, if_neg (not_le.mpr hlt)]

/-! ### Texts of digits only -/

theorem isDigit_x {base : ℕ} {x : UInt8} (hbase : base ≤ 16) (hx : isX x = true) :
    isDigit base x = false := by
  rcases of_decide_eq_true hx with rfl | rfl
  · exact decide_eq_false (by show ¬ 33 < base; omega)
  · exact decide_eq_false (by show ¬ 33 < base; omega)

/-- A reading of nothing but digits has no other parts. -/
theorem Reading.eq_of_all_digit {base : ℕ} {text blanks sign mark digits rest : List UInt8}
    {negative : Bool} (hbase : base ≤ 16)
    (h : Reading base text blanks sign mark digits rest negative)
    (hall : ∀ ch ∈ text, isDigit base ch = true) :
    blanks = [] ∧ sign = [] ∧ mark = [] ∧ rest = [] := by
  have hpart : ∀ ch, ch ∈ blanks ∨ ch ∈ sign ∨ ch ∈ mark ∨ ch ∈ digits ∨ ch ∈ rest →
      isDigit base ch = true := by
    intro ch hch
    apply hall
    rw [h.text_eq]
    simpa only [List.mem_append] using hch
  -- a digit is no blank and no sign, and stops no number
  have hdigit := fun ch hch => isSpace_of_isDigit (show base ≤ 36 by omega) (hpart ch hch)
  refine ⟨?_, ?_, ?_, ?_⟩
  · apply List.eq_nil_iff_forall_not_mem.mpr
    intro ch hch
    have hspace := (hdigit ch (.inl hch)).1
    rw [h.all_blank ch hch] at hspace
    cases hspace
  · cases h.sign_ok with
    | absent => rfl
    | plus => exact absurd rfl (hdigit 0x2B (.inr (.inl (List.mem_cons_self ..)))).2.2
    | minus => exact absurd rfl (hdigit 0x2D (.inr (.inl (List.mem_cons_self ..)))).2.1
  · cases h.mark_ok with
    | absent => rfl
    | @hexadecimal x _ hx =>
      have hxdigit := hpart x (.inr (.inr (.inl (by simp))))
      rw [isDigit_x hbase hx] at hxdigit
      cases hxdigit
  · cases rest with
    | nil => rfl
    | cons ch rest =>
      have hch := hpart ch (.inr (.inr (.inr (.inr (List.mem_cons_self ..)))))
      rw [h.stops ch rfl] at hch
      cases hch

end Axtp.Stoull
