/-
  The message ids that a fragmenter puts on the wire.

  A call of `fragment` either returns frames that all carry the next id, which is used up
  then, or returns no frame and leaves the counters alone (`fragment_cases`). The calls
  that return frames are therefore numbered 1, …, 65535, 1, … whatever the bodies and the
  frame sizes are (`callIds_run`).
-/
import Axtp.Equiv.MessageFragmenter
import Axtp.Lib.Run

namespace Axtp

namespace MessageFragmenter

open Run

variable {f : MessageFragmenter} {message : Message}

/-! ### One call -/

/-- All frames carry the id. -/
def Carry (messageId : UInt16) (frames : List Frame) : Prop :=
  ∀ frame ∈ frames, frame.header.messageId = messageId

/-- **One call** returns no frame and changes nothing, or returns frames with the next id. -/
theorem fragment_cases (f : MessageFragmenter) (message : Message) :
    f.fragment message = (f, []) ∨
      ∃ frames, f.fragment message = (f.afterMessage, frames) ∧ frames ≠ [] ∧
        Carry f.nextMessageId frames := by
  by_cases hempty : f.payloadCapacity = 0 ∨ message.body = []
  · right
    refine ⟨_, fragment_of_empty hempty, List.cons_ne_nil _ _, ?_⟩
    intro frame hframe
    obtain rfl := List.mem_singleton.mp hframe
    rfl
  · obtain ⟨hcapacity, hbody⟩ := not_or.mp hempty
    have hpos : 0 < f.payloadCapacity := Nat.pos_of_ne_zero hcapacity
    by_cases hcount : (frameCountFor message.body.length f.payloadCapacity).toNat = 0
    · left
      exact fragment_of_wrapped hpos hbody hcount
    · right
      refine ⟨_, fragment_of_body hpos hbody rfl (Nat.pos_of_ne_zero hcount), ?_, ?_⟩
      · intro hnil
        rw [List.map_eq_nil_iff, List.range_eq_nil] at hnil
        exact hcount hnil
      · intro frame hframe
        obtain ⟨i, -, rfl⟩ := List.mem_map.mp hframe
        rfl

/-! ### Sequences of calls -/

/-- A call, with the frame size set before it, and the frames it returns. -/
def fragmentStep (f : MessageFragmenter) (call : ℕ × Message) :
    MessageFragmenter × List (List Frame) :=
  (((f.setMaxFrameSize call.1).fragment call.2).1, [((f.setMaxFrameSize call.1).fragment call.2).2])

/-- The frames of each call on a new fragmenter. -/
def framesOfCalls (calls : List (ℕ × Message)) : List (List Frame) :=
  (run fragmentStep {} calls).2

/-- The id of each call that returns a frame, read off its first frame. -/
def callIds (frames : List (List Frame)) : List UInt16 :=
  frames.filterMap fun frames => frames.head?.map fun frame => frame.header.messageId

/-- The id of the call with a number among those that return a frame. -/
def idAt (k : ℕ) : UInt16 := UInt16.ofNat (k % 65535 + 1)

theorem toNat_idAt (k : ℕ) : (idAt k).toNat = k % 65535 + 1 :=
  UInt16.toNat_ofNat_of_lt' (by show k % 65535 + 1 < 2 ^ 16; omega)

theorem idAt_ne_zero (k : ℕ) : idAt k ≠ 0 := by
  intro hzero
  have hvalue := toNat_idAt k
  rw [hzero, UInt16.toNat_zero] at hvalue
  omega

theorem nextMessageId_afterMessage {k : ℕ} (h : f.nextMessageId = idAt k) :
    f.afterMessage.nextMessageId = idAt (k + 1) := by
  have hne : f.nextMessageId ≠ 0 := by
    rw [h]
    exact idAt_ne_zero k
  apply UInt16.toNat_inj.mp
  rw [toNat_takeMessageId hne, h, toNat_idAt, toNat_idAt]
  omega

/-- **A sequence of calls** uses the ids in their order, one for each call that returns a frame. -/
theorem run_fragmentStep {k : ℕ} (h : f.nextMessageId = idAt k) (calls : List (ℕ × Message)) :
    (∀ frames ∈ (run fragmentStep f calls).2, ∃ j, Carry (idAt j) frames) ∧
      callIds (run fragmentStep f calls).2 =
        (List.range (callIds (run fragmentStep f calls).2).length).map fun i => idAt (k + i) := by
  -- on the calls, for every number of ids drawn before them
  induction calls generalizing f k with
  | nil => exact ⟨fun frames hframes => absurd hframes List.not_mem_nil, rfl⟩
  | cons call calls ih =>
    have hsize : (f.setMaxFrameSize call.1).nextMessageId = idAt k := h
    rw [run_cons]
    rcases fragment_cases (f.setMaxFrameSize call.1) call.2 with heq | ⟨frames, heq, hne, hcarry⟩
    · -- no frame: the id is still to be used
      obtain ⟨hcarries, hids⟩ := ih (show (fragmentStep f call).1.nextMessageId = idAt k by
        rw [fragmentStep, heq]
        exact hsize)
      have hout : (fragmentStep f call).2 = [[]] := by rw [fragmentStep, heq]
      rw [hout]
      refine ⟨?_, hids⟩
      intro frames hframes
      rcases List.mem_cons.mp hframes with rfl | hframes
      · exact ⟨0, fun frame hframe => absurd hframe List.not_mem_nil⟩
      · exact hcarries frames hframes
    · -- frames: they carry the id, and the next calls start with the following one
      obtain ⟨hcarries, hids⟩ := ih
        (show (fragmentStep f call).1.nextMessageId = idAt (k + 1) by
          rw [fragmentStep, heq]
          exact nextMessageId_afterMessage hsize)
      have hout : (fragmentStep f call).2 = [frames] := by rw [fragmentStep, heq]
      rw [hsize] at hcarry
      rw [hout]
      constructor
      · intro frames' hframes'
        rcases List.mem_cons.mp hframes' with rfl | hframes'
        · exact ⟨k, hcarry⟩
        · exact hcarries frames' hframes'
      · rcases frames with _ | ⟨frame, rest⟩
        · exact absurd rfl hne
        have hfirst :
            callIds ([frame :: rest] ++ (run fragmentStep (fragmentStep f call).1 calls).2) =
            idAt k :: callIds (run fragmentStep (fragmentStep f call).1 calls).2 := by
          rw [← hcarry frame (List.mem_cons_self ..)]
          rfl
        rw [hfirst, List.length_cons, List.range_succ_eq_map, List.map_cons, List.map_map]
        congr 1
        conv_lhs => rw [hids]
        apply List.map_congr_left
        intro i _
        show idAt (k + 1 + i) = idAt (k + (i + 1))
        rw [Nat.add_right_comm, Nat.add_assoc]

theorem nodup_idAt {k n : ℕ} (h : n ≤ 65535) :
    ((List.range n).map fun i => idAt (k + i)).Nodup := by
  apply List.Nodup.map_on _ List.nodup_range
  intro i hi j hj heq
  rw [List.mem_range] at hi hj
  have hvalue := congrArg UInt16.toNat heq
  rw [toNat_idAt, toNat_idAt] at hvalue
  omega

/-- **Message ids on the wire.** Whatever bodies and frame sizes a sequence of calls on one
fragmenter has, the frames that one call returns carry one id, which is not zero, and any 65535
consecutive calls among those that return a frame carry pairwise distinct ids. -/
theorem messageIds_distinct (calls : List (ℕ × Message)) :
    (∀ frames ∈ framesOfCalls calls, ∃ messageId ≠ 0, Carry messageId frames) ∧
      ∀ before window after, callIds (framesOfCalls calls) = before ++ window ++ after →
        window.length ≤ 65535 → window.Nodup := by
  obtain ⟨hcarries, hids⟩ := run_fragmentStep (show ({} : MessageFragmenter).nextMessageId = idAt 0
    from rfl) calls
  constructor
  · intro frames hframes
    obtain ⟨j, hcarry⟩ := hcarries frames hframes
    exact ⟨idAt j, idAt_ne_zero j, hcarry⟩
  · intro before window after hsplit hlength
    -- the window is a run of the cycle, from the number of ids taken before it
    have hwindow : window = (List.range window.length).map fun i => idAt (before.length + i) := by
      apply List.ext_getElem
      · rw [List.length_map, List.length_range]
      · intro i hi _
        have hlt : before.length + i < (callIds (framesOfCalls calls)).length := by
          rw [hsplit, List.length_append, List.length_append]
          omega
        have hget : (callIds (framesOfCalls calls))[before.length + i] = window[i] := by
          simp only [hsplit, List.append_assoc]
          rw [List.getElem_append_right (by omega)]
          simp only [Nat.add_sub_cancel_left]
          exact List.getElem_append_left hi
        have hid :
            (callIds (framesOfCalls calls))[before.length + i] = idAt (before.length + i) := by
          have hget' := List.getElem_of_eq hids hlt
          rw [List.getElem_map, List.getElem_range, Nat.zero_add] at hget'
          exact hget'
        rw [List.getElem_map, List.getElem_range, ← hget, hid]
    rw [hwindow]
    exact nodup_idAt hlength

end MessageFragmenter

end Axtp
