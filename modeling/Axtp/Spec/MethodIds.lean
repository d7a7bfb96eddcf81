/-
  The ids that a JSON document can give a method.

  An id is an integer that fits 32 bits, or a text that as a whole is the decimal numeral
  of one, or the hexadecimal one after `0x`. `ReadLoosely` are the other texts in which the
  standard library finds a number that fits: with blanks, a sign or one more `0x` before
  the digits, or anything after them.
-/
import Axtp.Lib.Stoull
import Axtp.Wire.SchemaObjectCodec

namespace Axtp.MethodIds

open Stoull

/-- The number that an id denotes. -/
inductive Denotes : Json → ℕ → Prop
  | integer {id : Json} {n : ℕ} (hid : SchemaObjectCodec.number id = some (n : ℤ))
      (hlt : n < 2 ^ 32) : Denotes id n
  | decimal {digits : Bytes} (hne : digits ≠ []) (hdigits : ∀ ch ∈ digits, isDigit 10 ch = true)
      (hlt : numeral 10 digits < 2 ^ 32) : Denotes (.string digits) (numeral 10 digits)
  | hexadecimal {x : Byte} {digits : Bytes} (hx : isX x = true) (hne : digits ≠ [])
      (hdigits : ∀ ch ∈ digits, isDigit 16 ch = true) (hlt : numeral 16 digits < 2 ^ 32) :
      Denotes (.string (0x30 :: x :: digits)) (numeral 16 digits)

/-- A text without the `0x` before something, and the base that this says. -/
inductive Body : Bytes → Bytes → ℕ → Prop
  | hexadecimal {x : Byte} {body : Bytes} (hx : isX x = true) (hne : body ≠ []) :
      Body (0x30 :: x :: body) body 16
  | decimal {text : Bytes} (h : ∀ x body, isX x = true → body ≠ [] → text ≠ 0x30 :: x :: body) :
      Body text text 10

/-- A text of more than digits that reads as a number of 32 bits. -/
def ReadLoosely (text : Bytes) : Prop :=
  ∃ body base blanks sign mark digits rest negative, Body text body base ∧
    Reading base body blanks sign mark digits rest negative ∧
    numeral base digits < 2 ^ 64 ∧ signed negative (numeral base digits) < 2 ^ 32 ∧
    ¬ (blanks = [] ∧ sign = [] ∧ mark = [] ∧ rest = [])

end Axtp.MethodIds
