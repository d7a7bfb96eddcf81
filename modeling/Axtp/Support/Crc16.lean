/-
  CRC-16/CCITT-FALSE (`support/io/crc16.hpp`): polynomial `0x1021`, initial value
  `0xFFFF`, most significant bit first, no final xor.
-/
import Axtp.Support.ByteIo

namespace Axtp

/-- One turn of the bit loop. -/
def crcBit (crc : UInt16) : UInt16 :=
  if crc &&& 0x8000 ≠ 0 then (crc <<< 1) ^^^ 0x1021 else crc <<< 1

/-- One turn of the byte loop: xor the byte into the high half, then eight bits. -/
def crcByte (crc : UInt16) (byte : Byte) : UInt16 :=
  crcBit^[8] (crc ^^^ byte.toUInt16 <<< 8)

def crc16CcittFalse (data : Bytes) : UInt16 :=
  data.foldl crcByte 0xFFFF

/-- The catalogue's check value. -/
example : crc16CcittFalse (ascii "123456789") = 0x29B1 := by decide +kernel

end Axtp
