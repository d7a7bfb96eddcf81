/-
  The identity of an endpoint (`endpoint/endpoint_identity.hpp`): a hand-written
  SHA-256, and the id that is made of the digest of a key.

  The arrays are lists; `std::array` reads are within bounds throughout.
-/
import Axtp.Support.ByteIo

namespace Axtp

namespace EndpointIdentity

def kSha256RoundConstants : List UInt32 := [
  0x428a2f98, 0x71374491, 0xb5c0fbcf, 0xe9b5dba5, 0x3956c25b, 0x59f111f1, 0x923f82a4, 0xab1c5ed5,
  0xd807aa98, 0x12835b01, 0x243185be, 0x550c7dc3, 0x72be5d74, 0x80deb1fe, 0x9bdc06a7, 0xc19bf174,
  0xe49b69c1, 0xefbe4786, 0x0fc19dc6, 0x240ca1cc, 0x2de92c6f, 0x4a7484aa, 0x5cb0a9dc, 0x76f988da,
  0x983e5152, 0xa831c66d, 0xb00327c8, 0xbf597fc7, 0xc6e00bf3, 0xd5a79147, 0x06ca6351, 0x14292967,
  0x27b70a85, 0x2e1b2138, 0x4d2c6dfc, 0x53380d13, 0x650a7354, 0x766a0abb, 0x81c2c92e, 0x92722c85,
  0xa2bfe8a1, 0xa81a664b, 0xc24b8b70, 0xc76c51a3, 0xd192e819, 0xd6990624, 0xf40e3585, 0x106aa070,
  0x19a4c116, 0x1e376c08, 0x2748774c, 0x34b0bcb5, 0x391c0cb3, 0x4ed8aa4a, 0x5b9cca4f, 0x682e6ff3,
  0x748f82ee, 0x78a5636f, 0x84c87814, 0x8cc70208, 0x90befffa, 0xa4506ceb, 0xbef9a3f7, 0xc67178f2]

def rotateRight (value count : UInt32) : UInt32 := value >>> count ||| value <<< (32 - count)

/-! ### Padding -/

/-- The `while` loop that appends zeros, for at most the given number of turns. -/
def padZeros : ℕ → Bytes → Bytes
  | 0, bytes => bytes
  | turns + 1, bytes => if bytes.length % 64 ≠ 56 then padZeros turns (bytes ++ [0]) else bytes

/-- The bytes that are hashed. The loop stops within 64 turns. -/
def padded (input : Bytes) : Bytes :=
  let bitLength := UInt64.ofNat input.length * 8
  padZeros 64 (input ++ [0x80]) ++ writeU64 bitLength

/-! ### One block -/

def readWord (bytes : Bytes) (wordOffset : ℕ) : UInt32 :=
  (bytes.getD wordOffset 0).toUInt32 <<< 24 ||| (bytes.getD (wordOffset + 1) 0).toUInt32 <<< 16 |||
    (bytes.getD (wordOffset + 2) 0).toUInt32 <<< 8 ||| (bytes.getD (wordOffset + 3) 0).toUInt32

/-- The first loop over the words. -/
def loadWords (bytes : Bytes) (offset : ℕ) : List UInt32 :=
  (List.range 16).foldl (fun words index => words.set index (readWord bytes (offset + index * 4)))
    (List.replicate 64 0)

/-- One turn of the second loop over the words. -/
def extendWords (words : List UInt32) (index : ℕ) : List UInt32 :=
  let w15 := words.getD (index - 15) 0
  let w2 := words.getD (index - 2) 0
  let s0 := rotateRight w15 7 ^^^ rotateRight w15 18 ^^^ w15 >>> 3
  let s1 := rotateRight w2 17 ^^^ rotateRight w2 19 ^^^ w2 >>> 10
  words.set index (words.getD (index - 16) 0 + s0 + words.getD (index - 7) 0 + s1)

def allWords (bytes : Bytes) (offset : ℕ) : List UInt32 :=
  (List.range' 16 48).foldl extendWords (loadWords bytes offset)

/-- The variables `a` to `h`, and the array `state`. -/
structure HashState where
  a : UInt32
  b : UInt32
  c : UInt32
  d : UInt32
  e : UInt32
  f : UInt32
  g : UInt32
  h : UInt32

/-- One turn of the loop over the rounds. -/
def hashRound (words : List UInt32) (s : HashState) (index : ℕ) : HashState :=
  let sum1 := rotateRight s.e 6 ^^^ rotateRight s.e 11 ^^^ rotateRight s.e 25
  let choose := (s.e &&& s.f) ^^^ (~~~s.e &&& s.g)
  let temporary1 :=
    s.h + sum1 + choose + kSha256RoundConstants.getD index 0 + words.getD index 0
  let sum0 := rotateRight s.a 2 ^^^ rotateRight s.a 13 ^^^ rotateRight s.a 22
  let majority := (s.a &&& s.b) ^^^ (s.a &&& s.c) ^^^ (s.b &&& s.c)
  let temporary2 := sum0 + majority
  { h := s.g, g := s.f, f := s.e, e := s.d + temporary1, d := s.c, c := s.b, b := s.a
    a := temporary1 + temporary2 }

/-- The body of the loop over the blocks. -/
def hashBlock (bytes : Bytes) (state : HashState) (offset : ℕ) : HashState :=
  let s := (List.range 64).foldl (hashRound (allWords bytes offset)) state
  { a := state.a + s.a, b := state.b + s.b, c := state.c + s.c, d := state.d + s.d
    e := state.e + s.e, f := state.f + s.f, g := state.g + s.g, h := state.h + s.h }

def initialState : HashState where
  a := 0x6a09e667
  b := 0xbb67ae85
  c := 0x3c6ef372
  d := 0xa54ff53a
  e := 0x510e527f
  f := 0x9b05688c
  g := 0x1f83d9ab
  h := 0x5be0cd19

def sha256 (input : Bytes) : Bytes :=
  let bytes := padded input
  let offsets := (List.range ((bytes.length + 63) / 64)).map (· * 64)
  let state := offsets.foldl (hashBlock bytes) initialState
  writeU32 state.a ++ writeU32 state.b ++ writeU32 state.c ++ writeU32 state.d ++
    writeU32 state.e ++ writeU32 state.f ++ writeU32 state.g ++ writeU32 state.h

/-! ### The id -/

def kHex : Bytes := ascii "0123456789abcdef"

/-- Throws for the empty key. -/
def endpointIdFromKey (endpointKey : Bytes) : Option Bytes :=
  if endpointKey = [] then none
  else
    let digest := sha256 (ascii "AXTP-ENDPOINT-v1|" ++ endpointKey)
    some ((List.range 16).foldl (fun id index =>
      id ++ [kHex.getD (digest.getD index 0 >>> 4).toNat 0] ++
        [kHex.getD (digest.getD index 0 &&& 0x0F).toNat 0]) (ascii "ep_"))

end EndpointIdentity

end Axtp
