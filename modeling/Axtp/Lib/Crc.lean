/-
  Cyclic redundancy checks of any width.

  The register takes a message bit by bit, the highest first: a bit is added to the
  top of the register, the register is shifted, and where a bit leaves at the top the
  generator is subtracted. Over two elements addition is exclusive or, so the register
  is linear in the message (`divide_xor`), and shifting loses nothing if the generator
  is odd (`shift_eq_zero`). A message of at most as many bits as the register has is
  added as one word and then shifted (`divide_eq`).

  From these follows that the check detects every burst no longer than the register
  (`divide_ne_of_burst`).
-/
import Axtp.Lib.Bits

namespace Axtp

namespace Crc

open Bits

variable {w : ℕ} {generator : BitVec w}

/-! ### The register -/

/-- Shift by one bit. -/
def shift (generator r : BitVec w) : BitVec w :=
  if r.msb then r <<< 1 ^^^ generator else r <<< 1

/-- What a register becomes through the bits of a message. -/
def divide (generator r : BitVec w) (bits : List Bool) : BitVec w :=
  bits.foldl (fun r b => shift generator (r ^^^ top b)) r

@[simp] theorem shift_zero (generator : BitVec w) : shift generator 0#w = 0#w := by
  simp [shift]

/-- Shifting is linear. -/
theorem shift_xor (generator r s : BitVec w) :
    shift generator (r ^^^ s) = shift generator r ^^^ shift generator s := by
  simp only [shift, BitVec.msb_xor, BitVec.shiftLeft_xor_distrib]
  cases r.msb <;> cases s.msb
  · simp
  · simp only [Bool.false_bne, if_true, Bool.false_eq_true, if_false]
    ac_rfl
  · simp only [Bool.bne_false, if_true, Bool.false_eq_true, if_false]
    ac_rfl
  · -- the generator is subtracted twice
    have hcancel : r <<< 1 ^^^ generator ^^^ (s <<< 1 ^^^ generator) =
        r <<< 1 ^^^ s <<< 1 ^^^ (generator ^^^ generator) := by ac_rfl
    simp [hcancel]

theorem shift_eq_zero (hodd : generator.getLsbD 0 = true) {r : BitVec w}
    (h : shift generator r = 0#w) : r = 0#w := by
  rcases hmsb : r.msb
  · rw [shift, hmsb, if_neg (by simp)] at h
    refine BitVec.eq_of_getMsbD_eq fun i hi => ?_
    cases i with
    | zero =>
      rw [← BitVec.msb_eq_getMsbD_zero, hmsb]
      simp
    | succ i =>
      have hbit := congrArg (fun x => x.getMsbD i) h
      simp only [BitVec.getMsbD_shiftLeft] at hbit
      rw [hbit]
      simp
  · -- the lowest bit of the generator is left
    rw [shift, hmsb, if_pos rfl] at h
    have hbit := congrArg (fun x => x.getLsbD 0) h
    simp [hodd] at hbit

theorem iterate_shift_zero (generator : BitVec w) (n : ℕ) : (shift generator)^[n] 0#w = 0#w :=
  Function.iterate_fixed (shift_zero generator) n

theorem iterate_shift_eq_zero (hodd : generator.getLsbD 0 = true) {r : BitVec w} {n : ℕ}
    (h : (shift generator)^[n] r = 0#w) : r = 0#w := by
  induction n generalizing r with
  | zero => exact h
  | succ n ih => exact shift_eq_zero hodd (ih h)

/-! ### Messages -/

theorem divide_cons (r : BitVec w) (b : Bool) (bits : List Bool) :
    divide generator r (b :: bits) = divide generator (shift generator (r ^^^ top b)) bits := rfl

theorem divide_append (r : BitVec w) (bits bits' : List Bool) :
    divide generator r (bits ++ bits') = divide generator (divide generator r bits) bits' :=
  List.foldl_append

/-- **The register is linear** in what it holds and in the message. -/
theorem divide_xor (generator : BitVec w) {bits bits' : List Bool} (h : bits.length = bits'.length)
    (r s : BitVec w) :
    divide generator (r ^^^ s) (List.zipWith xor bits bits') =
      divide generator r bits ^^^ divide generator s bits' := by
  induction bits generalizing bits' r s with
  | nil =>
    obtain rfl := List.length_eq_zero_iff.mp h.symm
    rfl
  | cons b bits ih =>
    obtain ⟨b', bits', rfl⟩ := List.exists_cons_of_length_eq_add_one h.symm
    have htop : (top (xor b b') : BitVec w) = top b ^^^ top b' := by
      cases b <;> cases b' <;> simp [top]
    have hswap : r ^^^ s ^^^ (top b ^^^ top b') = r ^^^ top b ^^^ (s ^^^ top b') := by ac_rfl
    simp only [List.zipWith_cons_cons, divide_cons, htop, hswap]
    rw [shift_xor]
    exact ih (Nat.succ.inj h) _ _

theorem divide_replicate_false (r : BitVec w) (n : ℕ) :
    divide generator r (List.replicate n false) = (shift generator)^[n] r := by
  induction n generalizing r with
  | zero => rfl
  | succ n ih =>
    rw [List.replicate_succ, Function.iterate_succ_apply, ← ih]
    simp [divide_cons, top]

/-- A word whose last bit is free may be shifted there and back. -/
theorem shift_ushiftRight {x : BitVec w} (h : x.getMsbD (w - 1) = false) :
    shift generator (x >>> 1) = x := by
  have hmsb : (x >>> 1).msb = false := by
    rw [BitVec.msb_eq_getMsbD_zero, BitVec.getMsbD_ushiftRight]
    simp
  rw [shift, hmsb, if_neg (by simp)]
  refine BitVec.eq_of_getMsbD_eq fun i hi => ?_
  rw [BitVec.getMsbD_shiftLeft, BitVec.getMsbD_ushiftRight]
  by_cases hlast : i + 1 < w
  · simp [hlast]
  · obtain rfl : i = w - 1 := by omega
    simp [hlast, h]

/-- **A short message** is added as a word and shifted. -/
theorem divide_eq {bits : List Bool} (h : bits.length ≤ w) (r : BitVec w) :
    divide generator r bits = (shift generator)^[bits.length] (r ^^^ word bits) := by
  induction bits generalizing r with
  | nil => simp [divide, word]
  | cons b bits ih =>
    rw [List.length_cons] at h
    have hfree : (word bits : BitVec w).getMsbD (w - 1) = false := by
      rw [getMsbD_word, List.getD_eq_default _ _ (by omega)]
      rfl
    have hword : shift generator (r ^^^ word (b :: bits)) =
        shift generator (r ^^^ top b) ^^^ word bits := by
      rw [word, ← BitVec.xor_assoc, shift_xor, shift_ushiftRight hfree]
    rw [List.length_cons, Function.iterate_succ_apply, hword, ← ih (by omega)]
    rfl

/-! ### Bursts -/

/-- Some bit is set, and all that are set lie within `n` consecutive ones. -/
def IsBurst (n : ℕ) (bits : List Bool) : Prop :=
  true ∈ bits ∧ ∃ p, ∀ i, bits.getD i false = true → p ≤ i ∧ i < p + n

theorem eq_replicate_of_getD {bits : List Bool} (h : ∀ i, bits.getD i false = false) :
    bits = List.replicate bits.length false := by
  refine List.eq_replicate_iff.mpr ⟨rfl, fun b hmem => ?_⟩
  obtain ⟨i, hi, rfl⟩ := List.mem_iff_getElem.mp hmem
  rw [← h i, List.getD_eq_getElem _ _ hi]

/-- A burst is zeros, a part no longer than it that is not zero, and zeros. -/
theorem IsBurst.eq_append {n : ℕ} {bits : List Bool} (h : IsBurst n bits) :
    ∃ i window j, bits = List.replicate i false ++ window ++ List.replicate j false ∧
      window.length ≤ n ∧ true ∈ window := by
  obtain ⟨hmem, p, hp⟩ := h
  have hbefore : bits.take p = List.replicate (bits.take p).length false := by
    refine eq_replicate_of_getD fun i => Bool.eq_false_iff.mpr fun hi => ?_
    rw [List.getD_eq_getElem?_getD, List.getElem?_take] at hi
    split_ifs at hi with hlt
    · have := (hp i (by rwa [List.getD_eq_getElem?_getD])).1
      omega
    · cases hi
  have hafter : bits.drop (p + n) = List.replicate (bits.drop (p + n)).length false := by
    refine eq_replicate_of_getD fun i => Bool.eq_false_iff.mpr fun hi => ?_
    rw [List.getD_eq_getElem?_getD, List.getElem?_drop] at hi
    have := (hp (p + n + i) (by rwa [List.getD_eq_getElem?_getD])).2
    omega
  have hsplit : bits = bits.take p ++ (bits.drop p).take n ++ bits.drop (p + n) := by
    rw [List.append_assoc, ← List.drop_drop, List.take_append_drop, List.take_append_drop]
  refine ⟨(bits.take p).length, (bits.drop p).take n, (bits.drop (p + n)).length, ?_,
    List.length_take_le .., ?_⟩
  · rw [← hbefore, ← hafter]
    exact hsplit
  · rw [hsplit, List.mem_append, List.mem_append, hbefore, hafter] at hmem
    simpa using hmem

/-- **A burst no longer than the register leaves it changed.** -/
theorem divide_ne_zero (hodd : generator.getLsbD 0 = true) {bits : List Bool}
    (h : IsBurst w bits) : divide generator 0#w bits ≠ 0#w := by
  obtain ⟨i, window, j, rfl, hlen, hmem⟩ := h.eq_append
  intro hzero
  rw [divide_append, divide_append, divide_replicate_false, divide_replicate_false,
    iterate_shift_zero] at hzero
  have hwindow := iterate_shift_eq_zero hodd hzero
  rw [divide_eq hlen] at hwindow
  have hword := iterate_shift_eq_zero hodd hwindow
  rw [BitVec.zero_xor] at hword
  obtain ⟨k, hk, hbit⟩ := List.mem_iff_getElem.mp hmem
  have hset := congrArg (fun x => x.getMsbD k) hword
  simp only [getMsbD_word, List.getD_eq_getElem _ _ hk, hbit] at hset
  simp [show k < w by omega] at hset

/-- A message with a check of as many bits as the register has brings it to zero exactly if the
check is what the message leaves in the register. -/
theorem divide_eq_zero_iff (hodd : generator.getLsbD 0 = true) {bits check : List Bool}
    (h : check.length = w) (r : BitVec w) :
    divide generator r (bits ++ check) = 0#w ↔ word check = divide generator r bits := by
  rw [divide_append, divide_eq h.le]
  constructor
  · intro hzero
    exact (BitVec.xor_eq_zero_iff.mp (iterate_shift_eq_zero hodd hzero)).symm
  · intro hword
    rw [hword, BitVec.xor_self, iterate_shift_zero]

/-- **Bursts are detected.** If the check is right for a message, it is wrong after a burst no
longer than the register, wherever it lies in the message and the check. -/
theorem divide_ne_of_burst (hodd : generator.getLsbD 0 = true) {r : BitVec w}
    {bits check bits' check' error : List Bool} (hcheck : check.length = w)
    (hcheck' : check'.length = w) (hword : word check = divide generator r bits)
    (herror : error.length = (bits ++ check).length) (hburst : IsBurst w error)
    (h : bits' ++ check' = List.zipWith xor (bits ++ check) error) :
    word check' ≠ divide generator r bits' := by
  intro hword'
  have hzero := (divide_eq_zero_iff hodd hcheck r).mpr hword
  have hzero' := (divide_eq_zero_iff hodd hcheck' r).mpr hword'
  have hlinear := divide_xor generator herror.symm r 0#w
  rw [BitVec.xor_zero, ← h, hzero', hzero, BitVec.zero_xor] at hlinear
  exact divide_ne_zero hodd hburst hlinear.symm

end Crc

end Axtp
