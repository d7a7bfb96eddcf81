/-
  The bits of bytes, the highest of each byte first, as a big-endian number is read.
-/
import Axtp.Lib.Bits
import Axtp.Support.ByteIo

namespace Axtp

open Bits

/-- The bits of a byte. -/
def byteBits (byte : Byte) : List Bool := ofWord byte.toBitVec

def bitsOf (data : Bytes) : List Bool := data.flatMap byteBits

@[simp] theorem length_byteBits (byte : Byte) : (byteBits byte).length = 8 := rfl

@[simp] theorem bitsOf_nil : bitsOf [] = [] := rfl

@[simp] theorem bitsOf_cons (byte : Byte) (data : Bytes) :
    bitsOf (byte :: data) = byteBits byte ++ bitsOf data := rfl

theorem bitsOf_append (data data' : Bytes) : bitsOf (data ++ data') = bitsOf data ++ bitsOf data' :=
  List.flatMap_append

@[simp] theorem length_bitsOf (data : Bytes) : (bitsOf data).length = data.length * 8 := by
  induction data with
  | nil => rfl
  | cons byte data ih =>
    rw [bitsOf_cons, List.length_append, length_byteBits, ih, List.length_cons]
    omega

theorem byteBits_xor (a b : Byte) :
    byteBits (a ^^^ b) = List.zipWith xor (byteBits a) (byteBits b) := ofWord_xor ..

theorem bitsOf_writeU16 (value : UInt16) : bitsOf (writeU16 value) = ofWord value.toBitVec := by
  have hsplit := ofWord_setWidth_add value.toBitVec 8 8
  rw [BitVec.setWidth_eq] at hsplit
  rw [hsplit]
  simp [writeU16, byteBits]

theorem bitsOf_writeU32 (value : UInt32) : bitsOf (writeU32 value) = ofWord value.toBitVec := by
  have h24 := ofWord_setWidth_add value.toBitVec 8 24
  have h16 := ofWord_setWidth_add value.toBitVec 8 16
  have h8 := ofWord_setWidth_add value.toBitVec 8 8
  rw [BitVec.setWidth_eq] at h24
  rw [h24, h16, h8]
  simp [writeU32, byteBits]

theorem bitsOf_writeU64 (value : UInt64) : bitsOf (writeU64 value) = ofWord value.toBitVec := by
  have h56 := ofWord_setWidth_add value.toBitVec 8 56
  have h48 := ofWord_setWidth_add value.toBitVec 8 48
  have h40 := ofWord_setWidth_add value.toBitVec 8 40
  have h32 := ofWord_setWidth_add value.toBitVec 8 32
  have h24 := ofWord_setWidth_add value.toBitVec 8 24
  have h16 := ofWord_setWidth_add value.toBitVec 8 16
  have h8 := ofWord_setWidth_add value.toBitVec 8 8
  rw [BitVec.setWidth_eq] at h56
  rw [h56, h48, h40, h32, h24, h16, h8]
  simp [writeU64, byteBits]

end Axtp
