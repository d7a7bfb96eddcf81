/-
  Bytes, and big-endian reading and writing of integers (`support/io`).

  A `ByteWriter` is the bytes written so far, so each `write` is given by the
  bytes it appends. A `ByteReader` is the bytes not read yet; a `read` returns
  the value and the bytes left, or fails when too few remain.

  Each width has one round-trip lemma (`readU16_writeU16` and its siblings): what
  was written is read back, whatever follows it.
-/
import Mathlib

namespace Axtp

abbrev Byte := UInt8
/-- A `std::string`, a vector of bytes or a span of them. -/
abbrev Bytes := List Byte

/-- The bytes of an ASCII string literal, seven bits each. -/
def ascii (s : String) : Bytes := s.toByteArray.data.toList.map fun a => a &&& 0x7F

/-- The value of an unsigned `std::size_t` expression whose mathematical value is `n`. -/
def sizeT (n : ℕ) : ℕ := n % 2 ^ 64

/-! ### `ByteWriter` -/

def writeU8 (value : UInt8) : Bytes := [value]

/-- The high byte first, as in all that follow. -/
def writeU16 (value : UInt16) : Bytes := [(value >>> 8).toUInt8, value.toUInt8]

def writeU32 (value : UInt32) : Bytes :=
  [(value >>> 24).toUInt8, (value >>> 16).toUInt8, (value >>> 8).toUInt8, value.toUInt8]

/-- The bytes from the one at bit 56 down to the one at bit 0. -/
def writeU64 (value : UInt64) : Bytes :=
  ([56, 48, 40, 32, 24, 16, 8, 0] : List UInt64).map fun shift => (value >>> shift).toUInt8

/-! ### `ByteReader` -/

/-- The next byte, and what is left of the reader. -/
def readU8 : Bytes → Option (UInt8 × Bytes)
  | a :: rest => some (a, rest)
  | _ => none

def readU16 : Bytes → Option (UInt16 × Bytes)
  | a :: b :: rest => some (a.toUInt16 <<< 8 ||| b.toUInt16, rest)
  | _ => none

def readU32 : Bytes → Option (UInt32 × Bytes)
  | a :: b :: c :: d :: rest =>
    some (a.toUInt32 <<< 24 ||| b.toUInt32 <<< 16 ||| c.toUInt32 <<< 8 ||| d.toUInt32, rest)
  | _ => none

/-- The fold goes through the bytes with their places in the word. -/
def readU64 : Bytes → Option (UInt64 × Bytes)
  | a :: b :: c :: d :: e :: f :: g :: h :: rest =>
    some (([(a, 56), (b, 48), (c, 40), (d, 32), (e, 24), (f, 16), (g, 8), (h, 0)] :
      List (UInt8 × UInt64)).foldl (fun value p => value ||| p.1.toUInt64 <<< p.2) 0, rest)
  | _ => none

/-- The next `size` bytes; none when fewer remain, and then nothing is consumed. -/
def readBytes (size : ℕ) (bytes : Bytes) : Option (Bytes × Bytes) :=
  if size ≤ bytes.length then some (bytes.take size, bytes.drop size) else none

/-- An ASCII string has no byte above 127. -/
theorem lt_of_mem_ascii {s : String} {a : Byte} (h : a ∈ ascii s) : a < 0x80 := by
  obtain ⟨b, -, rfl⟩ := List.mem_map.mp h
  rw [UInt8.lt_iff_toNat_lt, UInt8.toNat_and]
  exact Nat.lt_succ_of_le Nat.and_le_right

/-! ### Sizes -/

@[simp] theorem length_writeU8 (v : UInt8) : (writeU8 v).length = 1 := rfl

@[simp] theorem length_writeU16 (v : UInt16) : (writeU16 v).length = 2 := rfl

@[simp] theorem length_writeU32 (v : UInt32) : (writeU32 v).length = 4 := rfl

@[simp] theorem length_writeU64 (v : UInt64) : (writeU64 v).length = 8 := by
  simp [writeU64]

/-! ### Round trips -/

/-- A number below `2^n` has no bit at or above `n`. -/
theorem testBit_of_lt_two_pow {n v : ℕ} (h : v < 2 ^ n) (i : ℕ) (hi : n ≤ i) :
    v.testBit i = false :=
  Nat.testBit_eq_false_of_lt (lt_of_lt_of_le h (Nat.pow_le_pow_right (by norm_num) hi))

/-- The byte of `v` at bit `s`, put back at bit `s`, is `v` on those eight bits. -/
theorem testBit_byteAt (v s : UInt64) (hs : s.toNat + 8 ≤ 64) (i : ℕ) :
    ((v >>> s).toUInt8.toUInt64 <<< s).toNat.testBit i =
      (decide (s.toNat ≤ i ∧ i < s.toNat + 8) && v.toNat.testBit i) := by
  have hs' : s.toNat % 64 = s.toNat := Nat.mod_eq_of_lt (by omega)
  simp only [UInt64.toNat_shiftLeft, UInt8.toNat_toUInt64, UInt64.toNat_toUInt8,
    UInt64.toNat_shiftRight, hs', Nat.testBit_shiftLeft, Nat.testBit_mod_two_pow,
    Nat.testBit_shiftRight]
  grind

@[simp] theorem readU8_writeU8 (v : UInt8) (rest : Bytes) :
    readU8 (writeU8 v ++ rest) = some (v, rest) := rfl

/-- The two bytes carry disjoint bits of the value, so it is compared bit by bit. -/
@[simp] theorem readU16_writeU16 (v : UInt16) (rest : Bytes) :
    readU16 (writeU16 v ++ rest) = some (v, rest) := by
  have hv := testBit_of_lt_two_pow v.toNat_lt
  have h : (v >>> 8).toUInt8.toUInt16 <<< 8 ||| v.toUInt8.toUInt16 = v := by
    apply UInt16.toNat_inj.mp
    apply Nat.eq_of_testBit_eq
    intro i
    simp only [UInt16.toNat_or, UInt16.toNat_shiftLeft, UInt8.toNat_toUInt16,
      UInt16.toNat_toUInt8, UInt16.toNat_shiftRight, UInt16.reduceToNat, Nat.reduceMod,
      Nat.testBit_or, Nat.testBit_shiftLeft, Nat.testBit_mod_two_pow, Nat.testBit_shiftRight]
    grind
  rw [writeU16, List.cons_append, List.cons_append, List.nil_append, readU16, h]

@[simp] theorem readU32_writeU32 (v : UInt32) (rest : Bytes) :
    readU32 (writeU32 v ++ rest) = some (v, rest) := by
  have hv := testBit_of_lt_two_pow v.toNat_lt
  have h : (v >>> 24).toUInt8.toUInt32 <<< 24 ||| (v >>> 16).toUInt8.toUInt32 <<< 16 |||
      (v >>> 8).toUInt8.toUInt32 <<< 8 ||| v.toUInt8.toUInt32 = v := by
    apply UInt32.toNat_inj.mp
    apply Nat.eq_of_testBit_eq
    intro i
    simp only [UInt32.toNat_or, UInt32.toNat_shiftLeft, UInt8.toNat_toUInt32,
      UInt32.toNat_toUInt8, UInt32.toNat_shiftRight, UInt32.reduceToNat, Nat.reduceMod,
      Nat.testBit_or, Nat.testBit_shiftLeft, Nat.testBit_mod_two_pow, Nat.testBit_shiftRight]
    grind
  rw [writeU32]
  simp only [List.cons_append, List.nil_append, readU32, h]

/-- **What was written is read back**, whatever follows it. -/
@[simp] theorem readU64_writeU64 (v : UInt64) (rest : Bytes) :
    readU64 (writeU64 v ++ rest) = some (v, rest) := by
  have hv := testBit_of_lt_two_pow v.toNat_lt
  simp only [writeU64, List.map_cons, List.map_nil, List.cons_append, List.nil_append, readU64,
    List.foldl_cons, List.foldl_nil, Option.some.injEq, Prod.mk.injEq, and_true]
  apply UInt64.toNat_inj.mp
  apply Nat.eq_of_testBit_eq
  intro i
  simp only [UInt64.toNat_or, Nat.testBit_or, UInt64.toNat_zero, Nat.zero_testBit]
  -- each byte gives back its own eight bits, and together they cover the word
  repeat rw [testBit_byteAt _ _ (by decide)]
  rcases lt_or_ge i 64 with h | h
  · cases v.toNat.testBit i
    · simp
    · simp [UInt64.reduceToNat]
      omega
  · simp [hv i h]

/-- A reader that asks for all there is gets it. -/
@[simp] theorem readBytes_all (bytes : Bytes) :
    readBytes bytes.length bytes = some (bytes, []) := by
  simp [readBytes]

end Axtp
