/-
  The ids of the sessions that `makeSessionId` names without a seed.

  Both the core and the adapter multiply their counter by an odd constant, which is
  injective in 32 bits (`eq_of_mul_eq`), and write the product in eight hexadecimal
  digits (`hex8_injective`). Until the counter wraps it is not zero, so that the product
  is never replaced.
-/
import Axtp.Lib.Numeral
import Axtp.Runtime.WebSocketJsonRpcAdapter

namespace Axtp

open Numeral Run

namespace AxtpCore

/-! ### The digits -/

/-- The eight hexadecimal digits of a number. -/
def hexDigits (value : UInt32) : List ℕ :=
  ([7, 6, 5, 4, 3, 2, 1, 0] : List ℕ).map fun i => value.toNat / 16 ^ i % 16

theorem lt_of_mem_hexDigits {value : UInt32} {digit : ℕ} (h : digit ∈ hexDigits value) :
    digit < 16 := by
  obtain ⟨i, -, rfl⟩ := List.mem_map.mp h
  exact Nat.mod_lt _ (by omega)

theorem number_hexDigits (value : UInt32) : number 16 (hexDigits value) = value.toNat := by
  have hlt := value.toNat_lt
  -- reading a digit behind what is above it
  have hdigit (i : ℕ) : value.toNat / 16 ^ i =
      value.toNat / 16 ^ (i + 1) * 16 + value.toNat / 16 ^ i % 16 := by
    rw [pow_succ, ← Nat.div_div_eq_div_mul, Nat.div_add_mod']
  have hzero : value.toNat / 16 ^ 8 = 0 := Nat.div_eq_of_lt (by omega)
  have hone : value.toNat / 16 ^ 0 = value.toNat := by rw [pow_zero, Nat.div_one]
  have hstart : number 16 (hexDigits value) =
      numberAfter 16 (hexDigits value) (value.toNat / 16 ^ 8) := by rw [hzero, number]
  rw [hstart, hexDigits]
  simp only [List.map_cons, List.map_nil]
  rw [numberAfter_cons, ← hdigit 7, numberAfter_cons, ← hdigit 6, numberAfter_cons, ← hdigit 5,
    numberAfter_cons, ← hdigit 4, numberAfter_cons, ← hdigit 3, numberAfter_cons, ← hdigit 2,
    numberAfter_cons, ← hdigit 1, numberAfter_cons, ← hdigit 0, numberAfter_nil, hone]

/-- The character of a hexadecimal digit. -/
def hexChar (digit : ℕ) : Byte := (ascii "0123456789ABCDEF").getD digit 0

theorem hex8_eq_map (value : UInt32) : hex8 value = (hexDigits value).map hexChar := by
  rw [hex8, hexDigits, List.map_map]
  rfl

/-- The digit of a character. -/
def hexValue (ch : Byte) : ℕ := (ascii "0123456789ABCDEF").idxOf ch

theorem hexValue_hexChar {digit : ℕ} (h : digit < 16) : hexValue (hexChar digit) = digit := by
  have hall : ∀ digit < 16, hexValue (hexChar digit) = digit := by decide +kernel
  exact hall digit h

theorem map_hexValue_hex8 (value : UInt32) : (hex8 value).map hexValue = hexDigits value := by
  rw [hex8_eq_map, List.map_map]
  calc (hexDigits value).map (hexValue ∘ hexChar)
      = (hexDigits value).map id :=
        List.map_congr_left fun digit hdigit => hexValue_hexChar (lt_of_mem_hexDigits hdigit)
    _ = hexDigits value := List.map_id _

theorem hex8_injective : Function.Injective hex8 := by
  intro value value' h
  apply UInt32.toNat_inj.mp
  rw [← number_hexDigits value, ← number_hexDigits value', ← map_hexValue_hex8, h,
    map_hexValue_hex8]

/-- Exactly eight upper-case hexadecimal digits, and not all of them zero. -/
def IsSessionId (sid : Bytes) : Prop :=
  sid.length = 8 ∧ (∀ ch ∈ sid, ch ∈ ascii "0123456789ABCDEF") ∧ sid ≠ ascii "00000000"

theorem isSessionId_hex8 {value : UInt32} (h : value ≠ 0) : IsSessionId (hex8 value) := by
  have hchar : ∀ digit < 16, hexChar digit ∈ ascii "0123456789ABCDEF" := by decide +kernel
  refine ⟨rfl, ?_, ?_⟩
  · intro ch hch
    rw [hex8_eq_map] at hch
    obtain ⟨digit, hdigit, rfl⟩ := List.mem_map.mp hch
    exact hchar digit (lt_of_mem_hexDigits hdigit)
  · intro hzero
    apply h
    apply hex8_injective
    rw [hzero]
    decide +kernel

/-! ### The counter -/

/-- The constant has an inverse. -/
theorem eq_of_mul_eq {counter counter' : UInt32}
    (h : counter * 0x9E3779B9 = counter' * 0x9E3779B9) : counter = counter' := by
  have hinverse : (0x9E3779B9 : UInt32) * 0x144CBC89 = 1 := by decide
  calc counter = counter * 0x9E3779B9 * 0x144CBC89 := by
        rw [mul_assoc, hinverse, mul_one]
    _ = counter' * 0x9E3779B9 * 0x144CBC89 := by rw [h]
    _ = counter' := by rw [mul_assoc, hinverse, mul_one]

/-- The id that is made without a seed when the counter stands at a number. -/
def sessionIdAt (counter : UInt32) : Bytes :=
  hex8 (if counter * 0x9E3779B9 = 0 then counter + 1 else counter * 0x9E3779B9)

theorem product_ne_zero {counter : UInt32} (h : counter ≠ 0) : counter * 0x9E3779B9 ≠ 0 := by
  intro hzero
  apply h
  apply eq_of_mul_eq
  rw [hzero, zero_mul]

theorem isSessionId_sessionIdAt (counter : UInt32) : IsSessionId (sessionIdAt counter) := by
  unfold sessionIdAt
  split_ifs with hzero
  · -- the counter is zero, and its successor one
    have hcounter : counter = 0 := by
      by_contra hne
      exact product_ne_zero hne hzero
    rw [hcounter]
    exact isSessionId_hex8 (by decide)
  · exact isSessionId_hex8 hzero

theorem sessionIdAt_inj {counter counter' : UInt32} (h : counter ≠ 0) (h' : counter' ≠ 0)
    (heq : sessionIdAt counter = sessionIdAt counter') : counter = counter' := by
  rw [sessionIdAt, sessionIdAt, if_neg (product_ne_zero h), if_neg (product_ne_zero h')] at heq
  exact eq_of_mul_eq (hex8_injective heq)

/-- The ids of successive calls, from a counter on. -/
def sessionIdsFrom (counter n : ℕ) : List Bytes :=
  (List.range n).map fun i => sessionIdAt (UInt32.ofNat (counter + i))

theorem sessionIdsFrom_succ (counter n : ℕ) :
    sessionIdsFrom counter (n + 1) =
      sessionIdAt (UInt32.ofNat counter) :: sessionIdsFrom (counter + 1) n := by
  have hrest : (List.range n).map ((fun i => sessionIdAt (UInt32.ofNat (counter + i))) ∘ Nat.succ) =
      (List.range n).map fun i => sessionIdAt (UInt32.ofNat (counter + 1 + i)) := by
    apply List.map_congr_left
    intro i _
    have hindex : counter + Nat.succ i = counter + 1 + i := by omega
    rw [Function.comp_apply, hindex]
  rw [sessionIdsFrom, List.range_succ_eq_map, List.map_cons, List.map_map, hrest, Nat.add_zero]
  rfl

/-- Before the counter wraps the ids differ. -/
theorem nodup_sessionIdsFrom {counter n : ℕ} (hpos : 0 < counter) (hlt : counter + n ≤ 2 ^ 32) :
    (sessionIdsFrom counter n).Nodup := by
  have hcounter : ∀ i ∈ List.range n, (UInt32.ofNat (counter + i)).toNat = counter + i := by
    intro i hi
    rw [List.mem_range] at hi
    exact UInt32.toNat_ofNat_of_lt' (by show counter + i < 2 ^ 32; omega)
  apply List.Nodup.map_on _ List.nodup_range
  intro i hi j hj heq
  have hne : ∀ k ∈ List.range n, UInt32.ofNat (counter + k) ≠ 0 := by
    intro k hk hzero
    have hvalue := hcounter k hk
    rw [hzero] at hvalue
    have hzero' : (0 : UInt32).toNat = 0 := rfl
    omega
  have hsame := congrArg UInt32.toNat (sessionIdAt_inj (hne i hi) (hne j hj) heq)
  rw [hcounter i hi, hcounter j hj] at hsame
  omega

/-! ### Runs -/

/-- A call of `makeSessionId`, with the id as its output. -/
def sessionIdStep (core : AxtpCore) (randomSeed : UInt32) : AxtpCore × List Bytes :=
  ((core.makeSessionId randomSeed).1, [(core.makeSessionId randomSeed).2])

theorem nextSessionId_run {core : AxtpCore} (seeds : List UInt32) {counter : ℕ}
    (h : core.nextSessionId = UInt32.ofNat counter) :
    (run sessionIdStep core seeds).1.nextSessionId = UInt32.ofNat (counter + seeds.length) := by
  induction seeds generalizing core counter with
  | nil => exact h
  | cons seed seeds ih =>
    have hnext : (sessionIdStep core seed).1.nextSessionId = UInt32.ofNat (counter + 1) := by
      show core.nextSessionId + 1 = _
      rw [h, UInt32.ofNat_add]
      rfl
    rw [run_cons, ih hnext, List.length_cons, Nat.add_right_comm, Nat.add_assoc]

theorem run_sessionIdStep {core : AxtpCore} {counter : ℕ}
    (h : core.nextSessionId = UInt32.ofNat counter) (n : ℕ) :
    (run sessionIdStep core (List.replicate n 0)).2 = sessionIdsFrom counter n := by
  induction n generalizing core counter with
  | zero => rfl
  | succ n ih =>
    have hid : (sessionIdStep core 0).2 = [sessionIdAt (UInt32.ofNat counter)] := by
      rw [← h]
      simp only [sessionIdStep, makeSessionId, sessionIdAt, UInt32.zero_xor]
    have hnext : (sessionIdStep core 0).1.nextSessionId = UInt32.ofNat (counter + 1) := by
      show core.nextSessionId + 1 = _
      rw [h, UInt32.ofNat_add]
      rfl
    rw [List.replicate_succ, run_cons, ih hnext, hid, sessionIdsFrom_succ]
    rfl

end AxtpCore

namespace WebSocketJsonRpcAdapter

/-- A call of `makeSessionId`, with the id as its output. -/
def sessionIdStep (adapter : WebSocketJsonRpcAdapter) (randomSeed : UInt32) :
    WebSocketJsonRpcAdapter × List Bytes :=
  ((adapter.makeSessionId randomSeed).1, [(adapter.makeSessionId randomSeed).2])

/-- The adapter makes the ids that a core with its counter makes. -/
theorem run_sessionIdStep {adapter : WebSocketJsonRpcAdapter} {core : AxtpCore}
    (h : adapter.nextSessionId = core.nextSessionId) (seeds : List UInt32) :
    (run sessionIdStep adapter seeds).2 = (run AxtpCore.sessionIdStep core seeds).2 ∧
      (run sessionIdStep adapter seeds).1.nextSessionId =
        (run AxtpCore.sessionIdStep core seeds).1.nextSessionId := by
  induction seeds generalizing adapter core with
  | nil => exact ⟨rfl, h⟩
  | cons seed seeds ih =>
    have hnext : (sessionIdStep adapter seed).1.nextSessionId =
        (AxtpCore.sessionIdStep core seed).1.nextSessionId := by
      show adapter.nextSessionId + 1 = core.nextSessionId + 1
      rw [h]
    have hid : (sessionIdStep adapter seed).2 = (AxtpCore.sessionIdStep core seed).2 := by
      simp only [sessionIdStep, AxtpCore.sessionIdStep, makeSessionId, AxtpCore.makeSessionId, h]
    obtain ⟨hids, hcounter⟩ := ih hnext
    rw [run_cons, run_cons]
    exact ⟨by rw [hids, hid], hcounter⟩

end WebSocketJsonRpcAdapter

/-- **Session ids.** The ids that successive calls without a seed make in the first 2^32 - 2 calls
of a new core, or of a new adapter, whatever the seeds of the calls before them, are pairwise
distinct; each is eight upper-case hexadecimal digits, not all of them zero. -/
theorem sessionIds_nodup (before : List UInt32) (n : ℕ) (h : before.length + n < 2 ^ 32 - 1) :
    ((run AxtpCore.sessionIdStep (run AxtpCore.sessionIdStep {} before).1
        (List.replicate n 0)).2.Nodup ∧
      ∀ sid ∈ (run AxtpCore.sessionIdStep (run AxtpCore.sessionIdStep {} before).1
        (List.replicate n 0)).2, AxtpCore.IsSessionId sid) ∧
    (run WebSocketJsonRpcAdapter.sessionIdStep
        (run WebSocketJsonRpcAdapter.sessionIdStep {} before).1 (List.replicate n 0)).2.Nodup ∧
      ∀ sid ∈ (run WebSocketJsonRpcAdapter.sessionIdStep
        (run WebSocketJsonRpcAdapter.sessionIdStep {} before).1 (List.replicate n 0)).2,
        AxtpCore.IsSessionId sid := by
  have hcounter := @AxtpCore.nextSessionId_run {} before 1 rfl
  have hids := AxtpCore.run_sessionIdStep hcounter n
  have hadapter := @WebSocketJsonRpcAdapter.run_sessionIdStep {} ({} : AxtpCore) rfl before
  have hadapterIds := (WebSocketJsonRpcAdapter.run_sessionIdStep hadapter.2
    (List.replicate n 0)).1
  rw [hadapterIds, hids]
  have hnodup : (AxtpCore.sessionIdsFrom (1 + before.length) n).Nodup :=
    AxtpCore.nodup_sessionIdsFrom (by omega) (by omega)
  have hform : ∀ sid ∈ AxtpCore.sessionIdsFrom (1 + before.length) n, AxtpCore.IsSessionId sid := by
    intro sid hsid
    obtain ⟨i, -, rfl⟩ := List.mem_map.mp hsid
    exact AxtpCore.isSessionId_sessionIdAt _
  exact ⟨⟨hnodup, hform⟩, hnodup, hform⟩

theorem sessionIds_nodup_three :
    ([7] : List UInt32).length + 3 < 2 ^ 32 - 1 ∧
      (run AxtpCore.sessionIdStep (run AxtpCore.sessionIdStep {} [7]).1
        (List.replicate 3 0)).2.Nodup :=
  ⟨by decide, (sessionIds_nodup [7] 3 (by decide)).1.1⟩

end Axtp
