/-
  The hand-written SHA-256 is that of the standard.

  The padding appends whole bytes where the standard appends bits (`bitsOf_padded`);
  the loops over the words make the message schedule (`toBitVec_allWords`), and each
  round, each block and the whole hash agree with the standard's, register by
  register (`toRegisters_hashBlock`). The constants are checked against the roots of
  the primes.
-/
import Axtp.Endpoint.EndpointIdentity
import Axtp.Spec.Sha256
import Axtp.Support.Bits

namespace Axtp

namespace EndpointIdentity

open Bits Sha256

/-! ### Words -/

theorem toBitVec_rotateRight (x : UInt32) (n : ℕ) (hpos : 0 < n) (h : n < 32) :
    (rotateRight x (UInt32.ofNat n)).toBitVec = x.toBitVec.rotateRight n := by
  have hright : (UInt32.ofNat n).toBitVec % 32 = BitVec.ofNat 32 n := by
    refine BitVec.eq_of_toNat_eq ?_
    simp
    omega
  have hleft : (32 - UInt32.ofNat n).toBitVec % 32 = BitVec.ofNat 32 (32 - n) := by
    refine BitVec.eq_of_toNat_eq ?_
    simp
    omega
  rw [rotateRight, UInt32.toBitVec_or, UInt32.toBitVec_shiftRight, UInt32.toBitVec_shiftLeft,
    hright, hleft, BitVec.rotateRight_def, Nat.mod_eq_of_lt h]
  simp only [BitVec.shiftLeft_eq', BitVec.ushiftRight_eq', BitVec.toNat_ofNat]
  rw [Nat.mod_eq_of_lt (by omega), Nat.mod_eq_of_lt (by omega)]

theorem toBitVec_bigSigma0 (x : UInt32) :
    (rotateRight x 2 ^^^ rotateRight x 13 ^^^ rotateRight x 22).toBitVec =
    bigSigma0 x.toBitVec := by
  rw [bigSigma0, ← toBitVec_rotateRight x 2 (by decide) (by decide),
    ← toBitVec_rotateRight x 13 (by decide) (by decide),
    ← toBitVec_rotateRight x 22 (by decide) (by decide)]
  rfl

theorem toBitVec_bigSigma1 (x : UInt32) :
    (rotateRight x 6 ^^^ rotateRight x 11 ^^^ rotateRight x 25).toBitVec =
    bigSigma1 x.toBitVec := by
  rw [bigSigma1, ← toBitVec_rotateRight x 6 (by decide) (by decide),
    ← toBitVec_rotateRight x 11 (by decide) (by decide),
    ← toBitVec_rotateRight x 25 (by decide) (by decide)]
  rfl

theorem toBitVec_smallSigma0 (x : UInt32) :
    (rotateRight x 7 ^^^ rotateRight x 18 ^^^ x >>> 3).toBitVec = smallSigma0 x.toBitVec := by
  rw [smallSigma0, ← toBitVec_rotateRight x 7 (by decide) (by decide),
    ← toBitVec_rotateRight x 18 (by decide) (by decide)]
  rfl

theorem toBitVec_smallSigma1 (x : UInt32) :
    (rotateRight x 17 ^^^ rotateRight x 19 ^^^ x >>> 10).toBitVec = smallSigma1 x.toBitVec := by
  rw [smallSigma1, ← toBitVec_rotateRight x 17 (by decide) (by decide),
    ← toBitVec_rotateRight x 19 (by decide) (by decide)]
  rfl

theorem toBitVec_choose (x y z : UInt32) :
    ((x &&& y) ^^^ (~~~x &&& z)).toBitVec = ch x.toBitVec y.toBitVec z.toBitVec := rfl

theorem toBitVec_majority (x y z : UInt32) : ((x &&& y) ^^^ (x &&& z) ^^^ (y &&& z)).toBitVec =
    maj x.toBitVec y.toBitVec z.toBitVec := rfl

/-- Below `18 ^ 2` a number is prime if none of the first primes divides it. -/
theorem prime_iff {n : ℕ} (h : n < 18 ^ 2) :
    n.Prime ↔ 2 ≤ n ∧ ∀ p ∈ [2, 3, 5, 7, 11, 13, 17], p ∣ n → p = n := by
  constructor
  · intro hprime
    refine ⟨hprime.two_le, fun p hp hdvd => ?_⟩
    have hne : p ≠ 1 := by
      rintro rfl
      revert hp
      decide
    exact (hprime.eq_one_or_self_of_dvd p hdvd).resolve_left hne
  · rintro ⟨htwo, hnot⟩
    by_contra hprime
    -- the least divisor of a composite number is one of these
    have hleast : n.minFac < 18 := lt_of_pow_lt_pow_left₀ 2 (by omega)
      ((Nat.minFac_sq_le_self (by omega) hprime).trans_lt h)
    have hfactor : n.minFac.Prime := Nat.minFac_prime (by omega)
    have hall : ∀ p < 18, p.Prime → p ∈ [2, 3, 5, 7, 11, 13, 17] := by decide
    exact hprime (hnot _ (hall _ hleast hfactor) n.minFac_dvd ▸ hfactor)

theorem primes_eq : primes =
    [2, 3, 5, 7, 11, 13, 17, 19, 23, 29, 31, 37, 41, 43, 47, 53, 59, 61, 67, 71, 73, 79, 83, 89,
     97, 101, 103, 107, 109, 113, 127, 131, 137, 139, 149, 151, 157, 163, 167, 173, 179, 181,
     191, 193, 197, 199, 211, 223, 227, 229, 233, 239, 241, 251, 257, 263, 269, 271, 277, 281,
     283, 293, 307, 311] := by
  have hsieve : primes = (List.range 312).filter fun n =>
      2 ≤ n ∧ ∀ p ∈ [2, 3, 5, 7, 11, 13, 17], p ∣ n → p = n := by
    apply List.filter_congr
    intro n hn
    rw [decide_eq_decide]
    exact prime_iff ((List.mem_range.mp hn).trans (by decide))
  rw [hsieve]
  decide +kernel

theorem toBitVec_constants :
    kSha256RoundConstants.map UInt32.toBitVec = primes.map (rootFraction 3) := by
  rw [primes_eq]
  decide +kernel

theorem toBitVec_constant (t : ℕ) : (kSha256RoundConstants.getD t 0).toBitVec = constant t := by
  have hword := List.getD_map (l := kSha256RoundConstants) (d := 0) (n := t) UInt32.toBitVec
  have hroot := List.getD_map (l := primes) (d := 0) (n := t) (rootFraction 3)
  rw [constant, ← hword, ← hroot, toBitVec_constants]
  rfl

/-- Four bytes are the bytes of the word that is read from them. -/
theorem writeU32_of_bytes (a b c d : Byte) :
    writeU32 (a.toUInt32 <<< 24 ||| b.toUInt32 <<< 16 ||| c.toUInt32 <<< 8 ||| d.toUInt32) =
      [a, b, c, d] := by
  have hhigh (x : Byte) {i : ℕ} (hi : 8 ≤ i) : x.toBitVec.getLsbD i = false :=
    BitVec.getLsbD_of_ge _ _ hi
  simp only [writeU32, List.cons.injEq, ← UInt8.toBitVec_inj, and_true]
  refine ⟨?_, ?_, ?_, ?_⟩ <;> refine BitVec.eq_of_getLsbD_eq fun i hi => ?_
  · simp
    grind
  · simp
    grind
  · simp
    grind
  · simp

theorem drop_bitsOf (data : Bytes) (n : ℕ) : (bitsOf data).drop (8 * n) = bitsOf (data.drop n) := by
  induction n generalizing data with
  | zero => rfl
  | succ n ih =>
    cases data with
    | nil => simp
    | cons byte data =>
      have hindex : 8 * (n + 1) = (byteBits byte).length + 8 * n := by
        rw [length_byteBits]
        omega
      rw [bitsOf_cons, hindex, List.drop_append, List.drop_succ_cons, Nat.add_sub_cancel_left, ih,
        List.drop_eq_nil_of_le (Nat.le_add_right ..), List.nil_append]

theorem toBitVec_readWord {bytes : Bytes} {i t : ℕ} (h : 64 * i + 4 * t + 4 ≤ bytes.length) :
    (readWord bytes (i * 64 + t * 4)).toBitVec = blockWord (bitsOf bytes) i t := by
  have hindex : 512 * i + 32 * t = 8 * (i * 64 + t * 4) := by ring
  rw [blockWord, hindex, drop_bitsOf]
  obtain ⟨a, b, c, d, rest, hdrop⟩ :
      ∃ a b c d rest, bytes.drop (i * 64 + t * 4) = a :: b :: c :: d :: rest := by
    have hlength : 4 ≤ (bytes.drop (i * 64 + t * 4)).length := by
      rw [List.length_drop]
      omega
    match bytes.drop (i * 64 + t * 4), hlength with
    | a :: b :: c :: d :: rest, _ => exact ⟨a, b, c, d, rest, rfl⟩
  have hget (k : ℕ) : bytes.getD (i * 64 + t * 4 + k) 0 = (a :: b :: c :: d :: rest).getD k 0 := by
    rw [← hdrop, List.getD_eq_getElem?_getD, List.getD_eq_getElem?_getD, List.getElem?_drop]
  have hread : readWord bytes (i * 64 + t * 4) =
      a.toUInt32 <<< 24 ||| b.toUInt32 <<< 16 ||| c.toUInt32 <<< 8 ||| d.toUInt32 := by
    rw [readWord, hget 1, hget 2, hget 3, ← Nat.add_zero (i * 64 + t * 4), hget 0]
    rfl
  have htake : (bitsOf (a :: b :: c :: d :: rest)).take 32 = bitsOf [a, b, c, d] := rfl
  rw [hdrop, htake, ← writeU32_of_bytes, ← hread, bitsOf_writeU32, word_ofWord]

/-! ### The message schedule -/

/-- Writing the elements of a list one after the other. -/
theorem getD_foldl_set {α : Type} (f : ℕ → α) (z : α) (words : List α) {n : ℕ}
    (h : n ≤ words.length) :
    ((List.range n).foldl (fun words index => words.set index (f index)) words).length =
        words.length ∧
      ∀ t < n, ((List.range n).foldl
        (fun words index => words.set index (f index)) words).getD t z =
        f t := by
  induction n with
  | zero => exact ⟨rfl, fun t ht => absurd ht (Nat.not_lt_zero t)⟩
  | succ n ih =>
    obtain ⟨hlength, hget⟩ := ih (Nat.le_of_succ_le h)
    rw [List.range_succ, List.foldl_append]
    refine ⟨by rw [List.foldl_cons, List.foldl_nil, List.length_set, hlength], fun t ht => ?_⟩
    rw [List.foldl_cons, List.foldl_nil, List.getD_eq_getElem?_getD, List.getElem?_set]
    split_ifs with heq hlt
    · rw [heq]
      rfl
    · omega
    · rw [← List.getD_eq_getElem?_getD]
      exact hget t (by omega)

variable (bytes : Bytes) (offset : ℕ)

/-- The words of the block at an offset. -/
def blockAt (t : ℕ) : Word := (readWord bytes (offset + t * 4)).toBitVec

theorem toBitVec_allWords : (allWords bytes offset).length = 64 ∧
    ∀ t < 64, ((allWords bytes offset).getD t 0).toBitVec = schedule (blockAt bytes offset) t := by
  -- on the number of words that the loop has extended
  suffices hall : ∀ n ≤ 48,
      ((List.range' 16 n).foldl extendWords (loadWords bytes offset)).length = 64 ∧
        ∀ t < 16 + n, (((List.range' 16 n).foldl extendWords (loadWords bytes offset)).getD t
          0).toBitVec = schedule (blockAt bytes offset) t from hall 48 le_rfl
  intro n hn
  induction n with
  | zero =>
    obtain ⟨hlength, hget⟩ := getD_foldl_set (fun index => readWord bytes (offset + index * 4)) 0
      (List.replicate 64 0) (show 16 ≤ (List.replicate 64 (0 : UInt32)).length by simp)
    rw [List.range'_zero, List.foldl_nil, loadWords]
    refine ⟨hlength.trans List.length_replicate, fun t ht => ?_⟩
    rw [schedule, if_pos ht, hget t ht, blockAt]
  | succ n ih =>
    obtain ⟨hlength, hget⟩ := ih (by omega)
    rw [List.range'_concat, List.foldl_append, List.foldl_cons, List.foldl_nil]
    set words := (List.range' 16 n).foldl extendWords (loadWords bytes offset) with hwords
    refine ⟨by rw [extendWords, List.length_set, hlength], fun t ht => ?_⟩
    rw [extendWords, List.getD_eq_getElem?_getD, List.getElem?_set]
    by_cases heq : 16 + 1 * n = t
    · have h2 := hget (t - 2) (by omega)
      have h7 := hget (t - 7) (by omega)
      have h15 := hget (t - 15) (by omega)
      have h16 := hget (t - 16) (by omega)
      rw [if_pos heq, if_pos (by omega), schedule, if_neg (by omega), ← h2, ← h7, ← h15, ← h16,
        heq, Option.getD_some]
      simp only [UInt32.toBitVec_add, toBitVec_smallSigma0, toBitVec_smallSigma1]
      ac_rfl
    · rw [if_neg heq, ← List.getD_eq_getElem?_getD]
      exact hget t (by omega)

/-! ### Rounds and blocks -/

/-- The state as the standard's registers. -/
def HashState.toRegisters (s : HashState) : Registers where
  a := s.a.toBitVec
  b := s.b.toBitVec
  c := s.c.toBitVec
  d := s.d.toBitVec
  e := s.e.toBitVec
  f := s.f.toBitVec
  g := s.g.toBitVec
  h := s.h.toBitVec

theorem toRegisters_hashRound {words : List UInt32} {w : ℕ → Word} {t : ℕ}
    (hw : (words.getD t 0).toBitVec = w t) (s : HashState) :
    (hashRound words s t).toRegisters = Sha256.round w s.toRegisters t := by
  simp only [hashRound, Sha256.round, HashState.toRegisters, UInt32.toBitVec_add, hw,
    toBitVec_constant, toBitVec_bigSigma0, toBitVec_bigSigma1, toBitVec_choose, toBitVec_majority]

theorem toRegisters_rounds {words : List UInt32} {w : ℕ → Word}
    (hw : ∀ t < 64, (words.getD t 0).toBitVec = w t) {l : List ℕ} (hl : ∀ t ∈ l, t < 64)
    (s : HashState) :
    (l.foldl (hashRound words) s).toRegisters = l.foldl (Sha256.round w) s.toRegisters := by
  induction l generalizing s with
  | nil => rfl
  | cons t l ih =>
    rw [List.forall_mem_cons] at hl
    rw [List.foldl_cons, List.foldl_cons, ih hl.2, toRegisters_hashRound (hw t hl.1)]

theorem toRegisters_hashBlock (state : HashState) :
    (hashBlock bytes state offset).toRegisters =
      next state.toRegisters (blockAt bytes offset) := by
  have hrounds := toRegisters_rounds (toBitVec_allWords bytes offset).2
    (fun t ht => List.mem_range.mp ht) state
  rw [next, ← hrounds]
  simp only [hashBlock, HashState.toRegisters, UInt32.toBitVec_add, BitVec.add_comm]

/-! ### Padding -/

/-- Zeros up to 56 bytes in the last block. -/
theorem padZeros_eq {turns : ℕ} {bytes : Bytes} (h : (120 - bytes.length % 64) % 64 < turns) :
    padZeros turns bytes = bytes ++ List.replicate ((120 - bytes.length % 64) % 64) 0 := by
  induction turns generalizing bytes with
  | zero => cases h
  | succ turns ih =>
    rw [padZeros]
    split_ifs with hfull
    · have hlength : (bytes ++ [0]).length = bytes.length + 1 := by simp
      have hnext : (120 - bytes.length % 64) % 64 =
          (120 - (bytes ++ [(0 : Byte)]).length % 64) % 64 + 1 := by
        rw [hlength]
        omega
      rw [ih (by omega), hnext, List.append_assoc, List.replicate_succ]
      rfl
    · have hzero : (120 - bytes.length % 64) % 64 = 0 := by omega
      rw [hzero, List.replicate_zero, List.append_nil]

theorem bitsOf_replicate (n : ℕ) : bitsOf (List.replicate n 0) = List.replicate (8 * n) false := by
  induction n with
  | zero => rfl
  | succ n ih =>
    rw [List.replicate_succ, bitsOf_cons, ih, Nat.mul_add_one, Nat.add_comm, List.replicate_add]
    rfl

/-- The bits that the standard appends for whole bytes. -/
theorem zeros_eq (n : ℕ) : zeros (n * 8) = 7 + 8 * ((120 - (n + 1) % 64) % 64) := by
  rw [zeros, Nat.find_eq_iff]
  constructor
  · omega
  · intro k hk
    omega

variable (input : Bytes)

theorem length_padded : (padded input).length = input.length + 1 +
    (120 - (input.length + 1) % 64) % 64 + 8 := by
  have hlength : (input ++ [0x80]).length = input.length + 1 := by simp
  have hturns : (120 - (input ++ [(0x80 : Byte)]).length % 64) % 64 < 64 := by omega
  rw [padded, List.length_append, padZeros_eq hturns, List.length_append, hlength,
    List.length_replicate]
  rfl

/-- **The padding** is that of the standard. -/
theorem bitsOf_padded : bitsOf (padded input) = pad (bitsOf input) := by
  have hlength : (input ++ [0x80]).length = input.length + 1 := by simp
  have hturns : (120 - (input ++ [(0x80 : Byte)]).length % 64) % 64 < 64 := by omega
  have hbits : (UInt64.ofNat input.length * 8).toBitVec = BitVec.ofNat 64 (input.length * 8) := by
    rw [BitVec.ofNat_mul]
    rfl
  have hone : bitsOf [0x80] = true :: List.replicate 7 false := by decide
  rw [padded, padZeros_eq hturns, hlength, bitsOf_append, bitsOf_append, bitsOf_append,
    bitsOf_replicate, bitsOf_writeU64, hbits, hone, pad, length_bitsOf, zeros_eq,
    List.replicate_add]
  simp only [List.append_assoc, List.cons_append]

/-! ### The hash -/

theorem toRegisters_initialState : initialState.toRegisters = initial := by
  rw [initial, primes_eq, HashState.toRegisters, Registers.mk.injEq]
  decide +kernel

theorem schedule_congr {block block' : ℕ → Word} (h : ∀ t < 16, block t = block' t) :
    schedule block = schedule block' := by
  funext t
  induction t using Nat.strong_induction_on with
  | _ t ih =>
    rw [schedule.eq_def block, schedule.eq_def block']
    split_ifs with ht
    · exact h t ht
    · rw [ih (t - 2) (by omega), ih (t - 7) (by omega), ih (t - 15) (by omega),
        ih (t - 16) (by omega)]

/-- The blocks one after the other. -/
theorem toRegisters_foldl {bytes : Bytes} {blocks : List ℕ}
    (h : ∀ i ∈ blocks, 64 * i + 64 ≤ bytes.length) (state : HashState) :
    ((blocks.map (· * 64)).foldl (hashBlock bytes) state).toRegisters =
      blocks.foldl (fun value i => next value (blockWord (bitsOf bytes) i)) state.toRegisters := by
  induction blocks generalizing state with
  | nil => rfl
  | cons i blocks ih =>
    rw [List.forall_mem_cons] at h
    have hblock (t : ℕ) (ht : t < 16) : blockAt bytes (i * 64) t = blockWord (bitsOf bytes) i t :=
      toBitVec_readWord (by omega)
    rw [List.map_cons, List.foldl_cons, List.foldl_cons, ih h.2, toRegisters_hashBlock, next, next,
      schedule_congr hblock]

/-- **SHA-256** is that of the standard. -/
theorem bitsOf_sha256 : bitsOf (sha256 input) = Sha256.sha256 (bitsOf input) := by
  have hlength := length_padded input
  have hcount : (padded input).length * 8 / 512 = ((padded input).length + 63) / 64 := by omega
  have hhash : ((((List.range (((padded input).length + 63) / 64)).map (· * 64)).foldl
      (hashBlock (padded input)) initialState).toRegisters) =
        Sha256.hash (pad (bitsOf input)) := by
    rw [toRegisters_foldl, toRegisters_initialState, ← bitsOf_padded, Sha256.hash, length_bitsOf,
      hcount]
    intro i hi
    rw [List.mem_range] at hi
    omega
  rw [sha256, Sha256.sha256, ← hhash]
  simp only [bitsOf_append, bitsOf_writeU32, HashState.toRegisters]

theorem length_sha256 : (sha256 input).length = 32 := by
  simp only [sha256, List.length_append, length_writeU32]

/-! ### The id -/

/-- A hexadecimal digit, in lower case. -/
def hexDigit (n : ℕ) : Byte := UInt8.ofNat (Nat.digitChar n).toNat

/-- The digits of the bytes, two for each. -/
def hexDigits (data : Bytes) : Bytes :=
  data.flatMap fun byte => [hexDigit (byte.toNat / 16), hexDigit (byte.toNat % 16)]

theorem getD_kHex {n : ℕ} (h : n < 16) : kHex.getD n 0 = hexDigit n := by
  have hall : ∀ n < 16, kHex.getD n 0 = hexDigit n := by decide
  exact hall n h

theorem kHex_of_byte (byte : Byte) :
    [kHex.getD (byte >>> 4).toNat 0, kHex.getD (byte &&& 0x0F).toNat 0] =
      [hexDigit (byte.toNat / 16), hexDigit (byte.toNat % 16)] := by
  have hbyte := byte.toNat_lt
  have hhigh : (byte >>> 4).toNat = byte.toNat / 16 := by
    simp [Nat.shiftRight_eq_div_pow]
  have hlow : (byte &&& 0x0F).toNat = byte.toNat % 16 := by
    rw [UInt8.toNat_and]
    exact Nat.and_two_pow_sub_one_eq_mod byte.toNat 4
  rw [hhigh, hlow, getD_kHex (by omega), getD_kHex (by omega)]

/-- The loop that appends the digits. -/
theorem foldl_kHex (digest start : Bytes) {n : ℕ} (h : n ≤ digest.length) :
    (List.range n).foldl (fun id index =>
      id ++ [kHex.getD (digest.getD index 0 >>> 4).toNat 0] ++
        [kHex.getD (digest.getD index 0 &&& 0x0F).toNat 0]) start =
      start ++ hexDigits (digest.take n) := by
  induction n with
  | zero => simp [hexDigits]
  | succ n ih =>
    have hget : digest.getD n 0 = digest[n] := List.getD_eq_getElem _ _ h
    rw [List.range_succ, List.foldl_append, ih (Nat.le_of_succ_le h), List.foldl_cons,
      List.foldl_nil, List.take_succ_eq_append_getElem h, hexDigits, hexDigits, List.flatMap_append,
      List.append_assoc, List.append_assoc, hget]
    refine congrArg (start ++ ·) (congrArg _ ?_)
    exact (kHex_of_byte digest[n]).trans (List.append_nil _).symm

theorem length_hexDigits (data : Bytes) : (hexDigits data).length = data.length * 2 := by
  simp [hexDigits]

/-- **The id of an endpoint** is made as the canonical algorithm says. The hash is SHA-256 on every
input, and the id of a key that is not empty is `ep_` with the 32 hexadecimal digits of the first 16
bytes of the digest of the prefixed key. -/
theorem endpointIdFromKey_canonical :
    (∀ input : Bytes, bitsOf (sha256 input) = Sha256.sha256 (bitsOf input)) ∧
      ∀ endpointKey : Bytes, endpointKey ≠ [] → ∃ digest : Bytes,
        bitsOf digest = Sha256.sha256 (bitsOf (ascii "AXTP-ENDPOINT-v1|" ++ endpointKey)) ∧
          endpointIdFromKey endpointKey = some (ascii "ep_" ++ hexDigits (digest.take 16)) ∧
          (hexDigits (digest.take 16)).length = 32 := by
  refine ⟨bitsOf_sha256, fun endpointKey hne => ?_⟩
  set input := ascii "AXTP-ENDPOINT-v1|" ++ endpointKey with hinput
  have hlength := length_sha256 input
  refine ⟨sha256 input, bitsOf_sha256 input, ?_, ?_⟩
  · rw [endpointIdFromKey, if_neg hne, ← foldl_kHex (sha256 input) _ (by omega)]
  · rw [length_hexDigits, List.length_take, hlength]
    rfl

theorem endpointIdFromKey_canonical_app :
    ∃ digest : Bytes,
      bitsOf digest = Sha256.sha256 (bitsOf (ascii "AXTP-ENDPOINT-v1|app:nearcast:install-001")) ∧
        endpointIdFromKey (ascii "app:nearcast:install-001") =
          some (ascii "ep_" ++ hexDigits (digest.take 16)) := by
  obtain ⟨digest, hdigest, hid, -⟩ :=
    endpointIdFromKey_canonical.2 (ascii "app:nearcast:install-001") (by decide)
  exact ⟨digest, hdigest, hid⟩

/-- The example of the tests. -/
example : endpointIdFromKey (ascii "app:nearcast:install-001") =
    some (ascii "ep_db5025fc9bd10de9f235ad2637585242") := by
  decide +kernel

end EndpointIdentity

end Axtp
