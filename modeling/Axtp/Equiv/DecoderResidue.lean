/-
  Progress of the frame decoder's loop, and what it leaves in its buffer.

  A turn that goes on leaves fewer bytes (`turn_spec`), so the `while (true)` loop ends
  from every buffer (`loopEnds_parseLoop`). When it returns, the scanner waits on what is
  left, and that is at most the beginning of one frame (`residue_of_wait`).
-/
import Axtp.Equiv.FrameDecoder
import Axtp.Equiv.SessionBookkeeping

namespace Axtp

namespace FrameDecoder

open FrameScan

variable {σ : Type*}

/-! ### The loop ends -/

/-- The `while (true)` loop, entered with a buffer and a state of the sink, ends, leaving these. -/
inductive LoopEnds (sink : Sink σ Frame) : Bytes → σ → Bytes × σ × Exit → Prop
  | wait {buffer buffer' : Bytes} {s : σ} (hturn : turn buffer = .wait buffer') :
      LoopEnds sink buffer s (buffer', s, .returned)
  | resume {buffer buffer' : Bytes} {s : σ} {result : Bytes × σ × Exit}
      (hturn : turn buffer = .resume buffer') (hrest : LoopEnds sink buffer' s result) :
      LoopEnds sink buffer s result
  | deliver {buffer buffer' : Bytes} {s s' : σ} {frame : Frame} {result : Bytes × σ × Exit}
      (hturn : turn buffer = .deliver frame buffer') (hsink : sink s frame = (s', .returned))
      (hrest : LoopEnds sink buffer' s' result) : LoopEnds sink buffer s result
  | threw {buffer buffer' : Bytes} {s s' : σ} {frame : Frame}
      (hturn : turn buffer = .deliver frame buffer') (hsink : sink s frame = (s', .threw)) :
      LoopEnds sink buffer s (buffer', s', .threw)

/-- A turn that goes on removes at least one byte. -/
def Progresses (buffer : Bytes) : Turn → Prop
  | .wait _ => True
  | .resume buffer' => buffer'.length < buffer.length
  | .deliver _ buffer' => buffer'.length < buffer.length

theorem progresses_turn (buffer : Bytes) : Progresses buffer (turn buffer) := by
  have hturn := turn_spec buffer
  cases ht : turn buffer with
  | wait buffer' => trivial
  | resume buffer' =>
    rw [ht] at hturn
    exact hturn.2
  | deliver frame buffer' =>
    rw [ht] at hturn
    exact hturn.2

/-- With more turns than bytes the loop runs to its end. -/
theorem loopEnds_parseLoopFor (sink : Sink σ Frame) (turns : ℕ) (buffer : Bytes) (s : σ)
    (h : buffer.length < turns) : LoopEnds sink buffer s (parseLoopFor sink turns buffer s) := by
  induction turns generalizing buffer s with
  | zero => omega
  | succ turns ih =>
    have hprogress := progresses_turn buffer
    rw [parseLoopFor]
    cases ht : turn buffer with
    | wait buffer' => exact .wait ht
    | resume buffer' =>
      rw [ht] at hprogress
      have hless : buffer'.length < buffer.length := hprogress
      exact .resume ht (ih buffer' s (by omega))
    | deliver frame buffer' =>
      rw [ht] at hprogress
      have hless : buffer'.length < buffer.length := hprogress
      rcases hsink : sink s frame with ⟨s', _ | _⟩ <;> simp only [hsink]
      · exact .deliver ht hsink (ih buffer' s' (by omega))
      · exact .threw ht hsink

theorem loopEnds_parseLoop (sink : Sink σ Frame) (buffer : Bytes) (s : σ) :
    LoopEnds sink buffer s (parseLoop sink buffer s) :=
  loopEnds_parseLoopFor sink _ buffer s (Nat.lt_succ_self _)

/-! ### What is left -/

/-- Nothing, a lone first magic byte, or the beginning of one frame: fewer bytes than an empty frame
has, or a legal header with fewer bytes than its frame has. -/
def Residue (buffer : Bytes) : Prop :=
  buffer = [] ∨ buffer = [0x41] ∨
    (AtMagic buffer ∧
      (buffer.length < 14 ∨ (LegalHeader buffer ∧ buffer.length < 14 + payloadLength buffer)))

/-- The scanner waits on nothing else. -/
theorem residue_of_wait {buffer : Bytes} (h : verdictAt buffer = .wait) : Residue buffer := by
  unfold verdictAt at h
  by_cases hmagic : AtMagic buffer
  · rw [if_neg (not_not.mpr hmagic)] at h
    by_cases hlength : buffer.length < 14
    · exact .inr (.inr ⟨hmagic, .inl hlength⟩)
    rw [if_neg hlength] at h
    by_cases hlegal : LegalHeader buffer
    · rw [if_neg (not_not.mpr hlegal)] at h
      by_cases htotal : buffer.length < 14 + payloadLength buffer
      · exact .inr (.inr ⟨hmagic, .inr ⟨hlegal, htotal⟩⟩)
      · -- a complete frame is taken or skipped
        rw [if_neg htotal] at h
        split_ifs at h
    · rw [if_pos hlegal] at h
      cases h
  · rw [if_pos hmagic] at h
    split_ifs at h with hshort
    rcases hshort with hnil | hone
    · exact .inl hnil
    · exact .inr (.inl hone)

/-- The payload length of a header has 16 bits. -/
theorem length_le_of_residue {buffer : Bytes} (h : Residue buffer) : buffer.length ≤ 65548 := by
  have hpayload : payloadLength buffer < 2 ^ 16 := UInt16.toNat_lt _
  rcases h with rfl | rfl | ⟨-, hlength | ⟨-, hlength⟩⟩
  · simp
  · simp
  · omega
  · omega

theorem residue_onBytes (sink : Sink σ Frame) (buffer data : Bytes) (s : σ)
    (h : (onBytes sink buffer data s).2.2 = .returned) :
    Residue (onBytes sink buffer data s).1 := by
  rw [(onBytes_spec sink buffer data s).2 h]
  exact residue_of_wait (frameScanner.verdict_scan_rest _)

/-- The decoder after calls of `onBytes`, of which some may have thrown. -/
def afterCalls (sink : Sink σ Frame) (calls : List Bytes) (start : Bytes × σ) : Bytes × σ :=
  calls.foldl (fun state data =>
    ((onBytes sink state.1 data state.2).1, (onBytes sink state.1 data state.2).2.1)) start

end FrameDecoder

/-! ### The decoder of a core -/

theorem InboundProcessor.buffer_onBytes (lib : JsonLibrary) {inbound : InboundProcessor}
    (hmode : inbound.wireMode = .framedBinary) {σ : Type*} (sink : Sink σ Payload) (data : Bytes)
    (s : σ) (h : (inbound.onBytes lib sink data s).2.2 = .returned) :
    FrameDecoder.Residue (inbound.onBytes lib sink data s).1.buffer := by
  have hne : inbound.wireMode ≠ .webSocketJsonRpc := by
    rw [hmode]
    decide
  rw [InboundProcessor.onBytes, if_neg hne] at h ⊢
  exact FrameDecoder.residue_onBytes _ _ _ _ h

namespace FrameDecoder

/-- **Progress and residue** of the frame decoder. A turn of the loop that goes on removes at least
one byte, and the loop ends from every buffer. After any calls, a call that returns leaves at most
the beginning of one frame, 65548 bytes at most. In a core nothing throws, so every call leaves
that. -/
theorem parseLoop_progress {σ : Type*} (sink : Sink σ Frame) :
    (∀ buffer, Progresses buffer (turn buffer)) ∧
    (∀ buffer s, LoopEnds sink buffer s (parseLoop sink buffer s)) ∧
    (∀ (calls : List Bytes) (s : σ) (data : Bytes),
      let state := afterCalls sink calls ([], s)
      (onBytes sink state.1 data state.2).2.2 = .returned →
        Residue (onBytes sink state.1 data state.2).1 ∧
          (onBytes sink state.1 data state.2).1.length ≤ 65548) ∧
    ∀ (lib : JsonLibrary), lib.Lawful → ∀ (core : AxtpCore) (ingress : ℕ → Ingress) (data : Bytes),
      core.inbound.wireMode = .framedBinary →
        Residue (core.handleBytes lib ingress data).1.inbound.buffer ∧
          (core.handleBytes lib ingress data).1.inbound.buffer.length ≤ 65548 := by
  refine ⟨progresses_turn, loopEnds_parseLoop sink, ?_, ?_⟩
  · intro calls s data state hreturned
    have hresidue := residue_onBytes sink state.1 data state.2 hreturned
    exact ⟨hresidue, length_le_of_residue hresidue⟩
  · intro lib hlib core ingress data hmode
    have hreturned : (core.inbound.onBytes lib (AxtpCore.payloadSink lib ingress) data
        (core, 0)).2.2 = .returned := by
      rw [InboundProcessor.onBytes_of_returned lib (AxtpCore.onMessage_returned hlib ingress)]
    have hresidue : Residue (core.handleBytes lib ingress data).1.inbound.buffer :=
      InboundProcessor.buffer_onBytes lib hmode _ data (core, 0) hreturned
    exact ⟨hresidue, length_le_of_residue hresidue⟩

end FrameDecoder

end Axtp
