/-
  SHA-256 as the standard FIPS 180-4 describes it, on strings of bits.

  The words are bit vectors, and the constants are not a table: they are the first 32
  bits of the fractional parts of the square and cube roots of the first primes.
-/
import Axtp.Lib.Bits

namespace Axtp

namespace Sha256

open Bits

abbrev Word := BitVec 32

/-! ### Functions and constants -/

def ch (x y z : Word) : Word := (x &&& y) ^^^ (~~~x &&& z)

def maj (x y z : Word) : Word := (x &&& y) ^^^ (x &&& z) ^^^ (y &&& z)

def bigSigma0 (x : Word) : Word := x.rotateRight 2 ^^^ x.rotateRight 13 ^^^ x.rotateRight 22

def bigSigma1 (x : Word) : Word := x.rotateRight 6 ^^^ x.rotateRight 11 ^^^ x.rotateRight 25

def smallSigma0 (x : Word) : Word := x.rotateRight 7 ^^^ x.rotateRight 18 ^^^ x >>> 3

def smallSigma1 (x : Word) : Word := x.rotateRight 17 ^^^ x.rotateRight 19 ^^^ x >>> 10

/-- The first 64 prime numbers. -/
def primes : List ℕ := (List.range 312).filter Nat.Prime

/-- The first 32 bits of the fractional part of the `n`-th root of `p`. -/
def rootFraction (n p : ℕ) : Word := BitVec.ofNat 32 (Nat.nthRoot n (p * 2 ^ (32 * n)))

/-- The constant of a round, from a cube root. -/
def constant (t : ℕ) : Word := rootFraction 3 (primes.getD t 0)

/-! ### Padding and parsing -/

theorem exists_zeros (length : ℕ) : ∃ k, (length + 1 + k) % 512 = 448 :=
  ⟨(447 + 512 - length % 512) % 512, by omega⟩

/-- The smallest number of zero bits that fills the message up to 64 bits less than a block. -/
def zeros (length : ℕ) : ℕ := Nat.find (exists_zeros length)

/-- The message, a one, zeros, and the length of the message in 64 bits. -/
def pad (message : List Bool) : List Bool :=
  message ++ true :: (List.replicate (zeros message.length) false ++
    ofWord (BitVec.ofNat 64 message.length))

/-- The `t`-th word of the `i`-th block of 512 bits. -/
def blockWord (padded : List Bool) (i t : ℕ) : Word :=
  word ((padded.drop (512 * i + 32 * t)).take 32)

/-! ### The hash -/

/-- The message schedule of a block. -/
def schedule (block : ℕ → Word) (t : ℕ) : Word :=
  if t < 16 then block t
  else
    smallSigma1 (schedule block (t - 2)) + schedule block (t - 7) +
      smallSigma0 (schedule block (t - 15)) + schedule block (t - 16)

/-- The eight working variables, and the eight words of a hash value. -/
structure Registers where
  a : Word
  b : Word
  c : Word
  d : Word
  e : Word
  f : Word
  g : Word
  h : Word

/-- The first hash value, from square roots. -/
def initial : Registers where
  a := rootFraction 2 (primes.getD 0 0)
  b := rootFraction 2 (primes.getD 1 0)
  c := rootFraction 2 (primes.getD 2 0)
  d := rootFraction 2 (primes.getD 3 0)
  e := rootFraction 2 (primes.getD 4 0)
  f := rootFraction 2 (primes.getD 5 0)
  g := rootFraction 2 (primes.getD 6 0)
  h := rootFraction 2 (primes.getD 7 0)

/-- One round. -/
def round (w : ℕ → Word) (r : Registers) (t : ℕ) : Registers :=
  let t1 := r.h + bigSigma1 r.e + ch r.e r.f r.g + constant t + w t
  let t2 := bigSigma0 r.a + maj r.a r.b r.c
  { a := t1 + t2, b := r.a, c := r.b, d := r.c, e := r.d + t1, f := r.e, g := r.f, h := r.g }

/-- The next hash value. -/
def next (value : Registers) (block : ℕ → Word) : Registers :=
  let r := (List.range 64).foldl (round (schedule block)) value
  { a := r.a + value.a, b := r.b + value.b, c := r.c + value.c, d := r.d + value.d
    e := r.e + value.e, f := r.f + value.f, g := r.g + value.g, h := r.h + value.h }

/-- The hash value of a padded message. -/
def hash (padded : List Bool) : Registers :=
  (List.range (padded.length / 512)).foldl (fun value i => next value (blockWord padded i)) initial

/-- **SHA-256**: the 256 bits of the digest of a message. -/
def sha256 (message : List Bool) : List Bool :=
  let value := hash (pad message)
  ofWord value.a ++ ofWord value.b ++ ofWord value.c ++ ofWord value.d ++ ofWord value.e ++
    ofWord value.f ++ ofWord value.g ++ ofWord value.h

end Sha256

end Axtp
