/-
  What the inbound side keeps between calls is bounded.

  The reassembler keeps a message only while a fragment of it is missing, and counts what
  it keeps (`Incomplete`); this holds from any frames at all (`Bounded.onFrame`). So
  whatever bytes arrive, also from a peer that never completes a message, and whether or
  not the sink throws, the memory is bounded (`memory_bounded`).
-/
import Axtp.Equiv.DecoderResidue
import Axtp.Equiv.InboundProcessor

namespace Axtp

open Slots

/-! ### The reassembler -/

/-- An assembly as it is kept: a slot for each frame, one of them empty, and its own size, which is
within the limit. -/
structure Assembly.Incomplete (limit : ℕ) (assembly : Assembly) : Prop where
  slots : assembly.fragments.length = assembly.frameCount.toNat
  missing : none ∈ assembly.fragments
  size : assembly.totalSize = weight List.length assembly.fragments
  limited : assembly.totalSize ≤ limit

namespace MessageReassembler

def Bounded (r : MessageReassembler) : Prop :=
  ∀ id assembly, r.assemblies id = some assembly → assembly.Incomplete r.maxMessageSize

variable {r : MessageReassembler}

theorem bounded_new (maxMessageSize : ℕ) : Bounded { maxMessageSize } :=
  fun _ _ h => by cases h

theorem Bounded.erase (h : Bounded r) (messageId : UInt16) : Bounded (r.erase messageId) := by
  intro id assembly hheld
  by_cases hid : id = messageId
  · simp only [MessageReassembler.erase, hid, Function.update_self] at hheld
    cases hheld
  · simp only [MessageReassembler.erase, Function.update_of_ne hid] at hheld
    exact h id assembly hheld

theorem Bounded.store (h : Bounded r) (messageId : UInt16) {assembly : Assembly}
    (hassembly : assembly.Incomplete r.maxMessageSize) : Bounded (r.store messageId assembly) := by
  intro id held hheld
  by_cases hid : id = messageId
  · simp only [MessageReassembler.store, hid, Function.update_self] at hheld
    obtain rfl := Option.some.inj hheld
    exact hassembly
  · simp only [MessageReassembler.store, Function.update_of_ne hid] at hheld
    exact h id held hheld

/-- The assembly that a frame finds is one that is kept, unless it has no slots. -/
theorem Bounded.openAssembly (h : Bounded r) (header : FrameHeader)
    (hslots : (r.openAssembly header).fragments ≠ []) :
    (r.openAssembly header).Incomplete r.maxMessageSize := by
  unfold MessageReassembler.openAssembly at hslots ⊢
  rcases hheld : r.assemblies header.messageId with _ | assembly
  · -- a new one; a header that announces no frames gives it no slots
    rw [hheld] at hslots
    simp only [Option.getD_none, List.isEmpty_nil, if_true] at hslots ⊢
    have hpos : header.frameCount.toNat ≠ 0 := fun hzero => hslots (by rw [hzero]; rfl)
    exact {
      slots := List.length_replicate
      missing := List.mem_replicate.mpr ⟨hpos, rfl⟩
      size := (weight_replicate_none List.length _).symm
      limited := Nat.zero_le _ }
  · have hkept := h _ _ hheld
    have hnotEmpty : assembly.fragments.isEmpty = false := by
      rw [List.isEmpty_eq_false_iff]
      exact List.ne_nil_of_mem hkept.missing
    simp only [Option.getD_some, hnotEmpty, Bool.false_eq_true, if_false]
    exact hkept

/-- A fragment that leaves another one missing. -/
theorem incomplete_set {limit : ℕ} {assembly : Assembly} (h : assembly.Incomplete limit) {i : ℕ}
    (hslot : assembly.fragments[i]? = some none) {payload : Bytes}
    (hlimit : assembly.totalSize + payload.length ≤ limit)
    (hmissing : ¬ (assembly.fragments.set i (some payload)).all Option.isSome = true) :
    Assembly.Incomplete limit
      { assembly with
        totalSize := assembly.totalSize + payload.length
        fragments := assembly.fragments.set i (some payload) } := by
  obtain ⟨hi, hnone⟩ := List.getElem?_eq_some_iff.mp hslot
  refine ⟨?_, ?_, ?_, hlimit⟩
  · rw [List.length_set]
    exact h.slots
  · rw [List.all_eq_true] at hmissing
    push Not at hmissing
    obtain ⟨fragment, hmem, hfragment⟩ := hmissing
    rw [ne_eq, Bool.not_eq_true, Option.isSome_eq_false_iff, Option.isNone_iff_eq_none] at hfragment
    rw [← hfragment]
    exact hmem
  · show assembly.totalSize + payload.length = _
    rw [weight_set_some List.length _ _ hi hnone, h.size]

/-- **Step lemma**: any frame. -/
theorem Bounded.onFrame (h : Bounded r) (f : Frame) : Bounded (r.onFrame f).1 := by
  unfold MessageReassembler.onFrame
  simp only
  by_cases hone : f.header.frameCount = 1
  · rw [if_pos hone]
    split_ifs <;> exact h
  rw [if_neg hone]
  by_cases hmismatch : (r.openAssembly f.header).payloadType ≠ f.header.payloadType ∨
      (r.openAssembly f.header).frameCount ≠ f.header.frameCount
  · rw [if_pos hmismatch]
    exact h.erase _
  rw [if_neg hmismatch]
  -- no such slot, an empty one, or one that is taken
  rcases hslot : (r.openAssembly f.header).fragments[f.header.frameIndex.toNat]? with
    _ | _ | fragment
  · exact h.erase _
  · have hkept := h.openAssembly f.header fun hnil => by rw [hnil] at hslot; cases hslot
    simp only
    -- too large, complete, or kept
    split_ifs with hsize hcomplete
    · exact h.erase _
    · exact h.erase _
    · exact h.store _ (incomplete_set hkept hslot (by omega) hcomplete)
  · have hkept := h.openAssembly f.header fun hnil => by rw [hnil] at hslot; cases hslot
    exact h.store _ hkept

/-- The bytes of all fragments that are kept. -/
def keptBytes (r : MessageReassembler) : ℕ :=
  ((List.range (2 ^ 16)).map fun id =>
    ((r.assemblies (UInt16.ofNat id)).map fun assembly =>
      weight List.length assembly.fragments).getD 0).sum

theorem Bounded.keptBytes_le (h : Bounded r) : r.keptBytes ≤ 2 ^ 16 * r.maxMessageSize := by
  have hsum := List.sum_le_card_nsmul ((List.range (2 ^ 16)).map fun id =>
    ((r.assemblies (UInt16.ofNat id)).map fun assembly =>
      weight List.length assembly.fragments).getD 0) r.maxMessageSize fun size hsize => by
    obtain ⟨id, -, rfl⟩ := List.mem_map.mp hsize
    rcases hheld : r.assemblies (UInt16.ofNat id) with _ | assembly
    · exact Nat.zero_le _
    · have hkept := h _ _ hheld
      rw [Option.map_some, Option.getD_some, ← hkept.size]
      exact hkept.limited
  rw [List.length_map, List.length_range, smul_eq_mul] at hsum
  exact hsum

end MessageReassembler

/-! ### The inbound side -/

namespace InboundProcessor

variable {σ : Type*} (lib : JsonLibrary) (sink : Sink σ Payload)

/-- After calls of `onBytes`, of which some may have thrown. -/
def afterCalls (calls : List Bytes) (start : InboundProcessor × σ) : InboundProcessor × σ :=
  calls.foldl (fun state data =>
    ((state.1.onBytes lib sink data state.2).1, (state.1.onBytes lib sink data state.2).2.1)) start

/-- What a call keeps: the reassembler is bounded and has its limit, and the mode stays. -/
theorem bounded_onBytes {inbound : InboundProcessor} (h : inbound.messageReassembler.Bounded)
    (data : Bytes) (s : σ) :
    (inbound.onBytes lib sink data s).1.messageReassembler.Bounded ∧
      (inbound.onBytes lib sink data s).1.messageReassembler.maxMessageSize =
        inbound.messageReassembler.maxMessageSize ∧
      (inbound.onBytes lib sink data s).1.wireMode = inbound.wireMode := by
  unfold onBytes
  split_ifs with hmode
  · exact ⟨h, rfl, rfl⟩
  · have hfeed := congrArg Prod.fst
      (FrameDecoder.onBytes_spec (onFrame lib sink) inbound.buffer data
        (inbound.messageReassembler, s)).1
    have hkept : (FrameDecoder.onBytes (onFrame lib sink) inbound.buffer data
        (inbound.messageReassembler, s)).2.1.1.Bounded ∧
        (FrameDecoder.onBytes (onFrame lib sink) inbound.buffer data
          (inbound.messageReassembler, s)).2.1.1.maxMessageSize =
          inbound.messageReassembler.maxMessageSize := by
      rw [hfeed]
      exact Sink.feed_invariant
        (I := fun state : MessageReassembler × σ => state.1.Bounded ∧
          state.1.maxMessageSize = inbound.messageReassembler.maxMessageSize)
        (fun state hstate f _ => ⟨hstate.1.onFrame f,
          (MessageReassembler.onFrame_maxMessageSize _ f).trans hstate.2⟩) ⟨h, rfl⟩
    exact ⟨hkept.1, hkept.2, rfl⟩

theorem bounded_afterCalls (calls : List Bytes) {start : InboundProcessor × σ}
    (h : start.1.messageReassembler.Bounded) :
    (afterCalls lib sink calls start).1.messageReassembler.Bounded ∧
      (afterCalls lib sink calls start).1.messageReassembler.maxMessageSize =
        start.1.messageReassembler.maxMessageSize ∧
      (afterCalls lib sink calls start).1.wireMode = start.1.wireMode := by
  induction calls generalizing start with
  | nil => exact ⟨h, rfl, rfl⟩
  | cons data calls ih =>
    obtain ⟨hbounded, hlimit, hmode⟩ := bounded_onBytes lib sink h data start.2
    obtain ⟨hbounded', hlimit', hmode'⟩ := @ih (_, _) hbounded
    exact ⟨hbounded', hlimit'.trans hlimit, hmode'.trans hmode⟩

/-- **Inbound memory is bounded.** After any calls of a new processor, whatever the sink does, each
message that is kept misses a fragment and has at most 1 MiB in at most 255 fragments, all of them
together at most 64 GiB; and a call that returns leaves at most 65548 bytes in front of them. -/
theorem memory_bounded (calls : List Bytes) (data : Bytes) (s : σ) :
    let state : InboundProcessor × σ := afterCalls lib sink calls ({}, s)
    let inbound := (state.1.onBytes lib sink data state.2).1
    (∀ id assembly, inbound.messageReassembler.assemblies id = some assembly →
      none ∈ assembly.fragments ∧ assembly.fragments.length ≤ 255 ∧
        weight List.length assembly.fragments ≤ 2 ^ 20) ∧
      inbound.messageReassembler.keptBytes ≤ 2 ^ 36 ∧
      ((state.1.onBytes lib sink data state.2).2.2 = .returned →
        inbound.buffer.length ≤ 65548) := by
  intro state inbound
  obtain ⟨hbefore, hlimit, hmode⟩ := @bounded_afterCalls _ lib sink calls ({}, s)
    (MessageReassembler.bounded_new _)
  obtain ⟨hbounded, hlimit', -⟩ := bounded_onBytes lib sink hbefore data state.2
  have hmax : inbound.messageReassembler.maxMessageSize = 2 ^ 20 := hlimit'.trans hlimit
  refine ⟨fun id assembly hheld => ?_, ?_, fun hreturned => ?_⟩
  · have hkept := hbounded id assembly hheld
    have hcount := assembly.frameCount.toNat_lt
    refine ⟨hkept.missing, ?_, ?_⟩
    · rw [hkept.slots]
      omega
    · rw [← hkept.size, ← hmax]
      exact hkept.limited
  · have hle := hbounded.keptBytes_le
    rw [hmax] at hle
    exact hle
  · exact FrameDecoder.length_le_of_residue (buffer_onBytes lib hmode sink data state.2 hreturned)

end InboundProcessor

end Axtp
