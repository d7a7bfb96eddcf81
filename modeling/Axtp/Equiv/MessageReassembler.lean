/-
  Reassembly of interleaved, reordered and repeated fragments.

  A `SplitMessage` is a message cut into 1 to 255 fragments. While its fragments
  arrive, the reassembler holds for it exactly the slots of the fragments seen so
  far (`SplitMessage.assemblyAfter`), whatever their order and repetition; this is
  the invariant `Tracks`, preserved by every frame (`tracks_onFrame`). The message
  is handed over when the last missing fragment fills its slot.
-/
import Axtp.Lib.Run
import Axtp.Lib.Slots
import Axtp.Wire.MessageReassembler

namespace Axtp

open Slots Run

/-- A message cut into fragments, one per frame. -/
structure SplitMessage where
  messageId : UInt16
  payloadType : PayloadType
  fragments : List Bytes
  /-- There is at least one fragment. -/
  length_pos : 0 < fragments.length
  /-- The count fits the 8-bit header field. -/
  length_le : fragments.length ≤ 255

namespace SplitMessage

variable (m : SplitMessage)

def message : Message :=
  { messageId := m.messageId, payloadType := m.payloadType, body := m.fragments.flatten }

/-- The total payload size. -/
def size : ℕ := (m.fragments.map List.length).sum

def frameCount : UInt8 := UInt8.ofNat m.fragments.length

/-- The frame is a copy of one of the message's fragments. Source and destination are free. -/
def Owns (f : Frame) : Prop :=
  f.header.messageId = m.messageId ∧ f.header.payloadType = m.payloadType ∧
    f.header.frameCount = m.frameCount ∧
    m.fragments[f.header.frameIndex.toNat]? = some f.payload

instance (f : Frame) : Decidable (m.Owns f) := by unfold Owns; infer_instance

/-- The fragment indices that arrived under a message id. -/
def seen (frames : List Frame) (messageId : UInt16) : Finset ℕ :=
  ((frames.filter fun f => f.header.messageId = messageId).map
    fun f => f.header.frameIndex.toNat).toFinset

/-- Every fragment of the message has arrived. -/
def Complete (frames : List Frame) : Prop :=
  ∀ i < m.fragments.length, i ∈ seen frames m.messageId

instance (frames : List Frame) : Decidable (m.Complete frames) := by
  unfold Complete; infer_instance

/-- The assembly that holds the fragments in `S`. -/
def assembly (S : Finset ℕ) : Assembly :=
  { payloadType := m.payloadType
    frameCount := m.frameCount
    totalSize := weight List.length (fill m.fragments S)
    fragments := fill m.fragments S }

/-- What the reassembler holds for the message after the given frames. -/
def assemblyAfter (frames : List Frame) : Option Assembly :=
  if m.fragments.length = 1 ∨ seen frames m.messageId = ∅ ∨ m.Complete frames then none
  else some (m.assembly (seen frames m.messageId))

theorem toNat_frameCount : m.frameCount.toNat = m.fragments.length := by
  rw [frameCount, UInt8.toNat_ofNat', Nat.mod_eq_of_lt]
  have := m.length_le
  omega

theorem frameCount_eq_one_iff : m.frameCount = 1 ↔ m.fragments.length = 1 := by
  rw [← m.toNat_frameCount, ← UInt8.toNat_inj]
  rfl

theorem seen_append_singleton (frames : List Frame) (f : Frame) (id : UInt16) :
    seen (frames ++ [f]) id =
      if f.header.messageId = id then insert f.header.frameIndex.toNat (seen frames id)
      else seen frames id := by
  unfold seen
  rw [List.filter_append, List.map_append]
  split_ifs with h
  · ext i
    simp [h]
  · simp [h]

theorem seen_append_of_ne {f : Frame} (frames : List Frame)
    (h : f.header.messageId ≠ m.messageId) :
    seen (frames ++ [f]) m.messageId = seen frames m.messageId := by
  rw [seen_append_singleton, if_neg h]

theorem complete_append_of_ne {f : Frame} (frames : List Frame)
    (h : f.header.messageId ≠ m.messageId) :
    m.Complete (frames ++ [f]) ↔ m.Complete frames := by
  rw [Complete, m.seen_append_of_ne frames h, Complete]

theorem assemblyAfter_append_of_ne {f : Frame} (frames : List Frame)
    (h : f.header.messageId ≠ m.messageId) :
    m.assemblyAfter (frames ++ [f]) = m.assemblyAfter frames := by
  simp only [assemblyAfter, m.seen_append_of_ne frames h, m.complete_append_of_ne frames h]

variable {m} in
theorem Owns.seen_append {f : Frame} (h : m.Owns f) (frames : List Frame) :
    seen (frames ++ [f]) m.messageId =
      insert f.header.frameIndex.toNat (seen frames m.messageId) := by
  rw [seen_append_singleton, if_pos h.1]

variable {m} in
theorem Owns.frameIndex_lt {f : Frame} (h : m.Owns f) :
    f.header.frameIndex.toNat < m.fragments.length :=
  (List.getElem?_eq_some_iff.mp h.2.2.2).1

variable {m} in
theorem Owns.payload_eq {f : Frame} (h : m.Owns f) :
    m.fragments.get ⟨f.header.frameIndex.toNat, h.frameIndex_lt⟩ = f.payload :=
  (List.getElem?_eq_some_iff.mp h.2.2.2).2

end SplitMessage

namespace MessageReassembler

open SplitMessage

variable {r : MessageReassembler} {m : SplitMessage} {f : Frame} {frames : List Frame}

@[simp] theorem assemblies_erase (r : MessageReassembler) (id id' : UInt16) :
    (r.erase id).assemblies id' = if id' = id then none else r.assemblies id' := by
  simp [erase, Function.update_apply]

@[simp] theorem assemblies_store (r : MessageReassembler) (id id' : UInt16) (a : Assembly) :
    (r.store id a).assemblies id' = if id' = id then some a else r.assemblies id' := by
  simp [store, Function.update_apply]

@[simp] theorem maxMessageSize_erase (r : MessageReassembler) (id : UInt16) :
    (r.erase id).maxMessageSize = r.maxMessageSize := rfl

@[simp] theorem maxMessageSize_store (r : MessageReassembler) (id : UInt16) (a : Assembly) :
    (r.store id a).maxMessageSize = r.maxMessageSize := rfl

/-- Frames under other ids leave an id's assembly alone. -/
theorem onFrame_assemblies_of_ne (r : MessageReassembler) (f : Frame) {id : UInt16}
    (h : id ≠ f.header.messageId) : (r.onFrame f).1.assemblies id = r.assemblies id := by
  unfold onFrame
  dsimp only
  repeat' split
  all_goals simp [h]

theorem onFrame_maxMessageSize (r : MessageReassembler) (f : Frame) :
    (r.onFrame f).1.maxMessageSize = r.maxMessageSize := by
  unfold onFrame
  dsimp only
  repeat' split
  all_goals rfl

/-! ### One fragment of a message -/

/-- A message in a single frame passes through. -/
theorem onFrame_of_single (h : m.Owns f) (h1 : m.fragments.length = 1) :
    r.onFrame f = (r, [m.message]) := by
  have hindex : f.header.frameIndex = 0 := by
    have := h.frameIndex_lt
    apply UInt8.toNat_inj.mp
    rw [UInt8.toNat_zero]
    omega
  have hpayload := h.payload_eq
  obtain ⟨x, hx⟩ := List.length_eq_one_iff.mp h1
  have hbody : f.payload = x := by
    simp only [List.get_eq_getElem, hindex, hx] at hpayload
    exact hpayload.symm
  unfold onFrame
  simp only [h.1, h.2.1, h.2.2.1, m.frameCount_eq_one_iff.mpr h1, hindex, hbody, message, hx,
    List.flatten_cons, List.flatten_nil, List.append_nil, if_true, ne_eq, not_true_eq_false,
    if_false]

/-- An assembly that holds fragments of the message is opened as it is; none held, an empty one is
made from the header. -/
theorem openAssembly_eq {S : Finset ℕ} (h : m.Owns f)
    (hheld : r.assemblies m.messageId = some (m.assembly S) ∨
      r.assemblies m.messageId = none ∧ S = ∅) :
    r.openAssembly f.header = m.assembly S := by
  unfold openAssembly
  rw [h.1]
  rcases hheld with hheld | ⟨hheld, rfl⟩
  · have hne : (fill m.fragments S).isEmpty = false := by
      rw [List.isEmpty_eq_false_iff, ← List.length_pos_iff, length_fill]
      exact m.length_pos
    simp [hheld, assembly, hne]
  · simp only [hheld, Option.getD_none, List.isEmpty_nil, if_true, h.2.1, h.2.2.1,
      m.toNat_frameCount]
    simp [assembly, fill_empty, weight_replicate_none]

/-- A fragment that does not match the open assembly under its id discards it. -/
theorem onFrame_of_mismatch {assembly : Assembly} (hcount : f.header.frameCount ≠ 1)
    (hheld : r.assemblies f.header.messageId = some assembly)
    (hfragments : assembly.fragments ≠ [])
    (hmismatch : ¬ (assembly.payloadType = f.header.payloadType ∧
      assembly.frameCount = f.header.frameCount)) :
    r.onFrame f = (r.erase f.header.messageId, []) := by
  have hopen : r.openAssembly f.header = assembly := by
    unfold openAssembly
    simp [hheld, hfragments]
  unfold onFrame
  simp only [hcount, if_false, hopen]
  rw [if_pos (by tauto)]

/-- **One fragment of a message** in several frames, while the fragments in `S` are held: a
repeated fragment changes nothing, a new one fills its slot unless the size limit is passed, and
the last missing one hands the message over. -/
theorem onFrame_of_owns {S : Finset ℕ} (h : m.Owns f) (hone : m.fragments.length ≠ 1)
    (hheld : r.assemblies m.messageId = some (m.assembly S) ∨
      r.assemblies m.messageId = none ∧ S = ∅) :
    r.onFrame f =
      if f.header.frameIndex.toNat ∈ S then (r.store m.messageId (m.assembly S), [])
      else if r.maxMessageSize < (m.assembly (insert f.header.frameIndex.toNat S)).totalSize then
        (r.erase m.messageId, [])
      else if ∀ j < m.fragments.length, j ∈ insert f.header.frameIndex.toNat S then
        (r.erase m.messageId, [m.message])
      else (r.store m.messageId (m.assembly (insert f.header.frameIndex.toNat S)), []) := by
  have hopen := openAssembly_eq h hheld
  have hcount : f.header.frameCount ≠ 1 := by
    rw [h.2.2.1]
    exact fun hc => hone (m.frameCount_eq_one_iff.mp hc)
  obtain ⟨i, hi, hlt, hpayload⟩ : ∃ i, f.header.frameIndex.toNat = i ∧
      ∃ hlt : i < m.fragments.length, m.fragments[i] = f.payload :=
    ⟨_, rfl, h.frameIndex_lt, h.payload_eq⟩
  -- the slot of the frame is free exactly if its index was not seen
  have hslot : (m.assembly S).fragments[i]? = some (if i ∈ S then some f.payload else none) := by
    rw [List.getElem?_eq_getElem (by simpa [assembly] using hlt), ← hpayload]
    simp only [assembly, getElem_fill, List.get_eq_getElem]
  have hmatch : ¬ ((m.assembly S).payloadType ≠ f.header.payloadType ∨
      (m.assembly S).frameCount ≠ f.header.frameCount) := by
    rw [h.2.1, h.2.2.1]
    simp [assembly]
  unfold onFrame
  simp only [hcount, if_false, hopen, h.1, hi]
  rw [if_neg hmatch, hslot]
  by_cases hdup : i ∈ S
  · simp only [hdup, if_true]
  -- storing the fragment adds its length and fills its slot
  have hweight : (m.assembly S).totalSize + f.payload.length =
      (m.assembly (insert i S)).totalSize := by
    rw [← hpayload]
    exact (weight_fill_insert List.length m.fragments S i hlt hdup).symm
  have hset : (m.assembly S).fragments.set i (some f.payload) =
      fill m.fragments (insert i S) := by
    rw [← hpayload]
    exact fill_set m.fragments S i hlt
  have hall : ((fill m.fragments (insert i S)).all Option.isSome = true) ↔
      ∀ j < m.fragments.length, j ∈ insert i S := by
    rw [List.all_eq_true, fill_all_isSome]
  simp only [hdup, if_false, hweight, hset, hall, gt_iff_lt]
  refine if_congr Iff.rfl rfl ?_
  by_cases hcomplete : ∀ j < m.fragments.length, j ∈ insert i S
  · rw [if_pos hcomplete, if_pos hcomplete, fill_reduceOption _ _ hcomplete]
    rfl
  · rw [if_neg hcomplete, if_neg hcomplete]
    rfl

/-- One fragment of a message that fits and is not complete yet: the reassembler then holds what
was seen including it, and hands the message over exactly when it is complete. -/
theorem onFrame_of_pending (h : m.Owns f) (hsize : m.size ≤ r.maxMessageSize)
    (hpending : ¬ m.Complete frames)
    (hheld : r.assemblies m.messageId = m.assemblyAfter frames) :
    (r.onFrame f).1.assemblies m.messageId = m.assemblyAfter (frames ++ [f]) ∧
      (r.onFrame f).2 = if m.Complete (frames ++ [f]) then [m.message] else [] := by
  have hseen := h.seen_append frames
  by_cases hone : m.fragments.length = 1
  · have hcomplete : m.Complete (frames ++ [f]) := by
      intro i hi
      rw [hseen]
      have := h.frameIndex_lt
      exact Finset.mem_insert.mpr (.inl (by omega))
    rw [onFrame_of_single h hone, if_pos hcomplete, hheld]
    exact ⟨by simp [assemblyAfter, hone], rfl⟩
  have hnonempty : seen (frames ++ [f]) m.messageId ≠ ∅ := by
    rw [hseen]
    exact Finset.insert_ne_empty _ _
  have hheld' : r.assemblies m.messageId = some (m.assembly (seen frames m.messageId)) ∨
      r.assemblies m.messageId = none ∧ seen frames m.messageId = ∅ := by
    rw [hheld, assemblyAfter]
    by_cases hempty : seen frames m.messageId = ∅
    · exact .inr ⟨if_pos (.inr (.inl hempty)), hempty⟩
    · exact .inl (if_neg (by tauto))
  have hfits : ¬ r.maxMessageSize <
      (m.assembly (insert f.header.frameIndex.toNat (seen frames m.messageId))).totalSize := by
    have := weight_fill_le List.length m.fragments
      (insert f.header.frameIndex.toNat (seen frames m.messageId))
    exact not_lt.mpr (this.trans hsize)
  rw [onFrame_of_owns h hone hheld', if_neg hfits, ← hseen]
  by_cases hdup : f.header.frameIndex.toNat ∈ seen frames m.messageId
  · -- a repeated fragment: nothing changes
    have hsame : seen (frames ++ [f]) m.messageId = seen frames m.messageId := by
      rw [hseen, Finset.insert_eq_of_mem hdup]
    have hpending' : ¬ m.Complete (frames ++ [f]) := by
      rw [Complete, hsame]
      exact hpending
    rw [if_pos hdup, if_neg hpending', assemblies_store, if_pos rfl, assemblyAfter, hsame]
    exact ⟨(if_neg (by rw [hsame] at hnonempty; tauto)).symm, rfl⟩
  · rw [if_neg hdup]
    by_cases hcomplete : m.Complete (frames ++ [f])
    · have hcomplete' : ∀ j < m.fragments.length, j ∈ seen (frames ++ [f]) m.messageId := hcomplete
      rw [if_pos hcomplete, if_pos hcomplete', assemblies_erase, if_pos rfl, assemblyAfter]
      exact ⟨(if_pos (.inr (.inr hcomplete))).symm, rfl⟩
    · have hcomplete' : ¬ ∀ j < m.fragments.length, j ∈ seen (frames ++ [f]) m.messageId :=
        hcomplete
      rw [if_neg hcomplete, if_neg hcomplete', assemblies_store, if_pos rfl, assemblyAfter]
      exact ⟨(if_neg (by tauto)).symm, rfl⟩

/-! ### All messages together -/

/-- After `frames`, the reassembler holds for each message what was seen of it, and nothing
else. -/
structure Tracks (ms : List SplitMessage) (frames : List Frame) (r : MessageReassembler) :
    Prop where
  held : ∀ m ∈ ms, r.assemblies m.messageId = m.assemblyAfter frames
  nothing_else : ∀ id, (∀ m ∈ ms, m.messageId ≠ id) → r.assemblies id = none

theorem tracks_onFrame {ms : List SplitMessage} (hids : (ms.map SplitMessage.messageId).Nodup)
    (hr : Tracks ms frames r) (hm : m ∈ ms) (h : m.Owns f) (hsize : m.size ≤ r.maxMessageSize)
    (hpending : ¬ m.Complete frames) : Tracks ms (frames ++ [f]) (r.onFrame f).1 where
  held m' hm' := by
    by_cases heq : m'.messageId = m.messageId
    · have hsame : m' = m := List.inj_on_of_nodup_map hids hm' hm heq
      rw [hsame]
      exact (onFrame_of_pending h hsize hpending (hr.held m hm)).1
    · have hne : m'.messageId ≠ f.header.messageId := by rwa [h.1]
      rw [onFrame_assemblies_of_ne r f hne, m'.assemblyAfter_append_of_ne frames (Ne.symm hne)]
      exact hr.held m' hm'
  nothing_else id hid := by
    rw [onFrame_assemblies_of_ne r f (by rw [h.1]; exact (hid m hm).symm)]
    exact hr.nothing_else id hid

/-- The frames of a set of messages in some order: every fragment arrives, and further copies of a
fragment arrive only while its message is still incomplete. -/
structure Arrival (ms : List SplitMessage) (frames : List Frame) : Prop where
  owned : ∀ f ∈ frames, ∃ m ∈ ms, m.Owns f
  pending : ∀ i (hi : i < frames.length), ∀ m ∈ ms,
    m.messageId = frames[i].header.messageId → ¬ m.Complete (frames.take i)
  all : ∀ m ∈ ms, m.Complete frames

/-- The reassembler that takes messages of at most `maxMessageSize` bytes, with nothing held. -/
def fresh (maxMessageSize : ℕ) : MessageReassembler := { maxMessageSize }

section Arrival

variable {ms : List SplitMessage} (hids : (ms.map SplitMessage.messageId).Nodup)
  {maxMessageSize : ℕ} (hsize : ∀ m ∈ ms, m.size ≤ maxMessageSize) (h : Arrival ms frames)

include hids hsize h

/-- The invariant along the arrival, with the messages handed over so far: each complete one
once. -/
theorem run_take_spec (i : ℕ) (hi : i ≤ frames.length) :
    Tracks ms (frames.take i) (run onFrame (fresh maxMessageSize) (frames.take i)).1 ∧
      (run onFrame (fresh maxMessageSize) (frames.take i)).1.maxMessageSize = maxMessageSize ∧
      (run onFrame (fresh maxMessageSize) (frames.take i)).2.Nodup ∧
      ∀ x, x ∈ (run onFrame (fresh maxMessageSize) (frames.take i)).2 ↔
        ∃ m ∈ ms, m.Complete (frames.take i) ∧ x = m.message := by
  induction i with
  | zero =>
    have hnot : ∀ m : SplitMessage, ¬ m.Complete [] := fun m hc => by
      simpa [seen] using hc 0 m.length_pos
    refine ⟨⟨fun m _ => ?_, fun id _ => rfl⟩, rfl, List.nodup_nil, fun x => ?_⟩
    · simp [assemblyAfter, seen, fresh]
    · simp [hnot]
  | succ i ih =>
    obtain ⟨hr, hmax, hnodup, hout⟩ := ih (by omega)
    set r := (run onFrame (fresh maxMessageSize) (frames.take i)).1 with hrdef
    have hlt : i < frames.length := by omega
    have htake : frames.take (i + 1) = frames.take i ++ [frames[i]] :=
      (List.take_append_getElem hlt).symm
    obtain ⟨m, hm, hown⟩ := h.owned frames[i] (List.getElem_mem hlt)
    -- the next frame is of a message that is not complete yet
    have hpending := h.pending i hlt m hm hown.1.symm
    have hfits : m.size ≤ r.maxMessageSize := by rw [hmax]; exact hsize m hm
    have hstep := onFrame_of_pending hown hfits hpending (hr.held m hm)
    rw [htake, run_append, run_singleton, ← hrdef]
    refine ⟨tracks_onFrame hids hr hm hown hfits hpending,
      by rw [onFrame_maxMessageSize, hmax], ?_, fun x => ?_⟩
    · -- the message handed over was not complete before, so it is new
      rw [hstep.2]
      split_ifs
      · refine List.nodup_append.mpr ⟨hnodup, List.nodup_singleton _, ?_⟩
        rintro x hx y hy rfl
        rw [List.mem_singleton] at hy
        obtain ⟨m', hm', hcomplete, hx'⟩ := (hout x).mp hx
        have hid : m'.messageId = m.messageId := congrArg Message.messageId (hx'.symm.trans hy)
        rw [List.inj_on_of_nodup_map hids hm' hm hid] at hcomplete
        exact hpending hcomplete
      · simpa using hnodup
    · rw [List.mem_append, hout, hstep.2]
      constructor
      · rintro (⟨m', hm', hcomplete, hx⟩ | hx)
        · refine ⟨m', hm', ?_, hx⟩
          by_cases hid : frames[i].header.messageId = m'.messageId
          · exact absurd hcomplete (h.pending i hlt m' hm' hid.symm)
          · exact (m'.complete_append_of_ne _ hid).mpr hcomplete
        · split_ifs at hx with hc
          · exact ⟨m, hm, hc, List.mem_singleton.mp hx⟩
          · cases hx
      · rintro ⟨m', hm', hcomplete, hx⟩
        by_cases hid : frames[i].header.messageId = m'.messageId
        · have hsame : m' = m := List.inj_on_of_nodup_map hids hm' hm (hid.symm.trans hown.1)
          rw [hsame] at hcomplete hx
          exact .inr (by rw [if_pos hcomplete, hx]; exact List.mem_singleton_self _)
        · exact .inl ⟨m', hm', (m'.complete_append_of_ne _ hid).mp hcomplete, hx⟩

/-- The messages handed over in the end are the given ones, once each. -/
theorem perm_of_arrival :
    (run onFrame (fresh maxMessageSize) frames).2.Perm (ms.map SplitMessage.message) := by
  obtain ⟨-, -, hnodup, hout⟩ := run_take_spec hids hsize h frames.length le_rfl
  rw [List.take_length] at hnodup hout
  have hmessages : (ms.map SplitMessage.message).Nodup := by
    apply List.Nodup.of_map Message.messageId
    rwa [List.map_map]
  refine (List.perm_ext_iff_of_nodup hnodup hmessages).mpr fun x => ?_
  rw [hout, List.mem_map]
  exact ⟨fun ⟨m, hm, _, hx⟩ => ⟨m, hm, hx.symm⟩, fun ⟨m, hm, hx⟩ => ⟨m, hm, h.all m hm, hx.symm⟩⟩

/-- No assembly is left in the end. -/
theorem assemblies_of_arrival (id : UInt16) :
    (run onFrame (fresh maxMessageSize) frames).1.assemblies id = none := by
  obtain ⟨hr, -, -, -⟩ := run_take_spec hids hsize h frames.length le_rfl
  rw [List.take_length] at hr
  by_cases hid : ∃ m ∈ ms, m.messageId = id
  · obtain ⟨m, hm, rfl⟩ := hid
    rw [hr.held m hm, assemblyAfter]
    simp [h.all m hm]
  · push Not at hid
    exact hr.nothing_else id hid

end Arrival

/-- **Order-insensitive reassembly.** For messages under distinct ids that fit the size limit, in
any order and interleaving of their frames, with further copies of a fragment before its message is
complete: each frame completes its message or makes nothing, the messages handed over are exactly
the given ones, once each, and no assembly is left. -/
theorem reassemble_any_order (ms : List SplitMessage) (maxMessageSize : ℕ) (frames : List Frame)
    (hids : (ms.map SplitMessage.messageId).Nodup) (hsize : ∀ m ∈ ms, m.size ≤ maxMessageSize)
    (h : Arrival ms frames) :
    (∀ i (hi : i < frames.length), ∀ m ∈ ms, m.messageId = frames[i].header.messageId →
        (onFrame (run onFrame (fresh maxMessageSize) (frames.take i)).1 frames[i]).2 =
          if m.Complete (frames.take (i + 1)) then [m.message] else []) ∧
      (run onFrame (fresh maxMessageSize) frames).2.Perm (ms.map SplitMessage.message) ∧
      ∀ id, (run onFrame (fresh maxMessageSize) frames).1.assemblies id = none := by
  refine ⟨fun i hi m hm hid => ?_, perm_of_arrival hids hsize h, assemblies_of_arrival hids hsize h⟩
  obtain ⟨hr, hmax, -, -⟩ := run_take_spec hids hsize h i hi.le
  obtain ⟨m', hm', hown⟩ := h.owned frames[i] (List.getElem_mem hi)
  have hsame : m = m' := List.inj_on_of_nodup_map hids hm hm' (hid.trans hown.1)
  subst hsame
  rw [← List.take_append_getElem hi]
  exact (onFrame_of_pending hown (by rw [hmax]; exact hsize m hm) (h.pending i hi m hm hid)
    (hr.held m hm)).2

/-- A message in three frames, one of them empty, and one in a single frame. -/
def threeAndOne : List SplitMessage :=
  [{ messageId := 7, payloadType := .rpc, fragments := [[1], [], [2, 3]], length_pos := by decide,
     length_le := by decide },
   { messageId := 9, payloadType := .stream, fragments := [[4]], length_pos := by decide,
     length_le := by decide }]

/-- The three frames arrive last to first, the last one twice, around the single frame. -/
def threeAndOneFrames : List Frame :=
  [{ header := { messageId := 7, frameIndex := 2, frameCount := 3 }, payload := [2, 3] },
   { header := { messageId := 7, frameIndex := 1, frameCount := 3 }, payload := [] },
   { header := { messageId := 9, payloadType := .stream }, payload := [4] },
   { header := { messageId := 7, frameIndex := 2, frameCount := 3 }, payload := [2, 3] },
   { header := { messageId := 7, frameIndex := 0, frameCount := 3 }, payload := [1] }]

theorem reassemble_threeAndOne :
    (∀ i (hi : i < threeAndOneFrames.length), ∀ m ∈ threeAndOne,
        m.messageId = threeAndOneFrames[i].header.messageId →
          (onFrame (run onFrame (fresh 1024) (threeAndOneFrames.take i)).1
              threeAndOneFrames[i]).2 =
            if m.Complete (threeAndOneFrames.take (i + 1)) then [m.message] else []) ∧
      (run onFrame (fresh 1024) threeAndOneFrames).2.Perm (threeAndOne.map SplitMessage.message) ∧
      ∀ id, (run onFrame (fresh 1024) threeAndOneFrames).1.assemblies id = none :=
  reassemble_any_order threeAndOne 1024 threeAndOneFrames (by decide) (by decide)
    ⟨by decide, by decide, by decide⟩

end MessageReassembler

end Axtp
