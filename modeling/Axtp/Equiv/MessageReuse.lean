/-
  Reassembly when message ids are reused.

  A `MessageFragmenter` numbers its messages 1, …, 65535, 1, … and the reassembler
  knows a message by that number alone. As long as no fragment meets an assembly
  that an earlier message under the same id has left open, each assembly holds
  fragments of one message only (`Owned`, preserved by every arrival), and what is
  delivered is that message.
-/
import Axtp.Equiv.MessageFragmenter

namespace Axtp

open Run MessageFragmenter MessageReassembler SplitMessage

namespace MessageReuse

/-- A frame that arrives, with the position of the message it was made from among those sent. -/
structure Copy where
  sent : ℕ
  frame : Frame
  deriving DecidableEq, Repr

/-- The fragmenter before it is given the `k`-th message. -/
def stateBefore (maxFrameSize : ℕ) (messages : List Message) (k : ℕ) : MessageFragmenter :=
  (run fragment { maxFrameSize } (messages.take k)).1

/-- The frames made of the `k`-th message. -/
def framesSent (maxFrameSize : ℕ) (messages : List Message) (k : ℕ) : List Frame :=
  match messages[k]? with
  | none => []
  | some message => ((stateBefore maxFrameSize messages k).fragment message).2

/-- The message whose fragment arrived last under an id. A frame that is a whole message does not
count. -/
def lastUnder (messageId : UInt16) (arrivals : List Copy) : Option ℕ :=
  ((arrivals.filter fun c =>
    c.frame.header.messageId = messageId ∧ c.frame.header.frameCount ≠ 1).getLast?).map Copy.sent

/-- The reassembler after the arrivals. -/
def received (maxMessageSize : ℕ) (arrivals : List Copy) : MessageReassembler × List Message :=
  run onFrame (fresh maxMessageSize) (arrivals.map Copy.frame)

/-- A fragment that finds an assembly to join under its id comes from the same message as the
fragment before it under that id. -/
def Separated (maxMessageSize : ℕ) (arrivals : List Copy) : Prop :=
  ∀ i (hi : i < arrivals.length) (assembly : Assembly),
    (received maxMessageSize (arrivals.take i)).1.assemblies arrivals[i].frame.header.messageId =
        some assembly →
      assembly.payloadType = arrivals[i].frame.header.payloadType →
      assembly.frameCount = arrivals[i].frame.header.frameCount →
      lastUnder arrivals[i].frame.header.messageId (arrivals.take i) = some arrivals[i].sent

/-! ### The sequence of message ids -/

section Sent

variable {maxFrameSize : ℕ} {messages : List Message}
  (hsplits : ∀ m ∈ messages, Splits maxFrameSize m.body)

include hsplits

/-- **The ids count modulo 65535**, from 1 on, zero left out. -/
theorem stateBefore_spec (k : ℕ) (hk : k ≤ messages.length) :
    (stateBefore maxFrameSize messages k).nextMessageId.toNat = k % 65535 + 1 ∧
      (stateBefore maxFrameSize messages k).maxFrameSize = maxFrameSize := by
  induction k with
  | zero => exact ⟨rfl, rfl⟩
  | succ k ih =>
    obtain ⟨hid, hsize⟩ := ih (by omega)
    have hstep : stateBefore maxFrameSize messages (k + 1) =
        (stateBefore maxFrameSize messages k).afterMessage := by
      have hmem : messages[k] ∈ messages := List.getElem_mem (by omega)
      rw [stateBefore, ← List.take_append_getElem (by omega : k < messages.length), run_append,
        run_singleton]
      exact fragment_state (by rw [← stateBefore, hsize]; exact hsplits _ hmem)
    have hne : (stateBefore maxFrameSize messages k).nextMessageId ≠ 0 := by
      intro h0
      rw [h0, UInt16.toNat_zero] at hid
      omega
    rw [hstep, toNat_takeMessageId hne, hid]
    exact ⟨by omega, hsize⟩

/-- The `k`-th message as the reassembler sees it. -/
def splitSent (k : ℕ) (hk : k < messages.length) : SplitMessage :=
  splitOf maxFrameSize (stateBefore maxFrameSize messages k).nextMessageId messages[k]
    (hsplits _ (List.getElem_mem hk))

/-- A frame that was sent is a fragment of its message. -/
theorem owns_of_framesSent {k : ℕ} {frame : Frame}
    (h : frame ∈ framesSent maxFrameSize messages k) :
    ∃ hk : k < messages.length, (splitSent hsplits k hk).Owns frame := by
  unfold framesSent at h
  split at h
  · cases h
  · rename_i message hmessage
    obtain ⟨hk, rfl⟩ := List.getElem?_eq_some_iff.mp hmessage
    have hsize := (stateBefore_spec hsplits k (by omega)).2
    refine ⟨hk, ?_⟩
    have hown := owns_of_mem_fragment (f := stateBefore maxFrameSize messages k)
      (by rw [hsize]; exact hsplits _ (List.getElem_mem hk)) h
    simp only [splitSent]
    convert hown using 2
    exact hsize.symm

/-- Among at most 65535 messages no id is used twice. -/
theorem eq_of_sent_id (hlen : messages.length ≤ 65535) {j k : ℕ} (hj : j < messages.length)
    (hk : k < messages.length)
    (h : (splitSent hsplits j hj).messageId = (splitSent hsplits k hk).messageId) : j = k := by
  have hid : (stateBefore maxFrameSize messages j).nextMessageId =
      (stateBefore maxFrameSize messages k).nextMessageId := h
  have hnat := congrArg UInt16.toNat hid
  rw [(stateBefore_spec hsplits j hj.le).1, (stateBefore_spec hsplits k hk.le).1] at hnat
  omega

end Sent

/-! ### One message to an assembly -/

theorem lastUnder_append (arrivals : List Copy) (c : Copy) (messageId : UInt16) :
    lastUnder messageId (arrivals ++ [c]) =
      if c.frame.header.messageId = messageId ∧ c.frame.header.frameCount ≠ 1 then some c.sent
      else lastUnder messageId arrivals := by
  unfold lastUnder
  rw [List.filter_append, List.filter_singleton]
  split_ifs with h
  · rw [decide_eq_true h, cond_true, List.getLast?_concat, Option.map_some]
  · rw [decide_eq_false h, cond_false, List.append_nil]

theorem mem_of_lastUnder {arrivals : List Copy} {messageId : UInt16} {k : ℕ}
    (h : lastUnder messageId arrivals = some k) :
    ∃ c ∈ arrivals, c.frame.header.messageId = messageId ∧ c.sent = k := by
  obtain ⟨c, hc, hk⟩ := Option.map_eq_some_iff.mp h
  have hmem := List.mem_of_getLast? hc
  rw [List.mem_filter] at hmem
  exact ⟨c, hmem.1, (of_decide_eq_true hmem.2).1, hk⟩

section Received

variable {maxFrameSize maxMessageSize : ℕ} {messages : List Message} {arrivals : List Copy}
  (hsplits : ∀ m ∈ messages, Splits maxFrameSize m.body)
  (hsent : ∀ c ∈ arrivals, c.frame ∈ framesSent maxFrameSize messages c.sent)

/-- An open assembly holds fragments of the message whose fragment came last under its id. -/
def Owned (arrivals : List Copy) (r : MessageReassembler) : Prop :=
  ∀ id assembly, r.assemblies id = some assembly →
    ∃ k, ∃ hk : k < messages.length, ∃ S, lastUnder id arrivals = some k ∧
      (splitSent hsplits k hk).messageId = id ∧
      (splitSent hsplits k hk).fragments.length ≠ 1 ∧
      assembly = (splitSent hsplits k hk).assembly S

/-- One arrival: the assemblies stay owned, and a message delivered is one that was sent. -/
theorem owned_onFrame {r : MessageReassembler} {c : Copy}
    (hc : c.frame ∈ framesSent maxFrameSize messages c.sent)
    (hr : Owned hsplits arrivals r)
    (hsep : ∀ assembly, r.assemblies c.frame.header.messageId = some assembly →
      assembly.payloadType = c.frame.header.payloadType →
      assembly.frameCount = c.frame.header.frameCount →
      lastUnder c.frame.header.messageId arrivals = some c.sent) :
    Owned hsplits (arrivals ++ [c]) (r.onFrame c.frame).1 ∧
      ∀ x ∈ (r.onFrame c.frame).2,
        ∃ m ∈ messages, x.payloadType = m.payloadType ∧ x.body = m.body := by
  obtain ⟨hk, hown⟩ := owns_of_framesSent hsplits hc
  set m := splitSent hsplits c.sent hk with hm
  have hmessage : m.message.payloadType = messages[c.sent].payloadType ∧
      m.message.body = messages[c.sent].body := by
    rw [hm, splitSent, message_splitOf]
    exact ⟨rfl, rfl⟩
  have hdelivered : ∀ x, x = m.message →
      ∃ m ∈ messages, x.payloadType = m.payloadType ∧ x.body = m.body := by
    rintro x rfl
    exact ⟨_, List.getElem_mem hk, hmessage⟩
  by_cases hone : m.fragments.length = 1
  · have hcount : c.frame.header.frameCount = 1 := by
      rw [hown.2.2.1]
      exact m.frameCount_eq_one_iff.mpr hone
    rw [onFrame_of_single hown hone]
    refine ⟨fun id assembly hid => ?_, fun x hx => hdelivered x (List.mem_singleton.mp hx)⟩
    rw [lastUnder_append, if_neg (by simp [hcount])]
    exact hr id assembly hid
  have hcount : c.frame.header.frameCount ≠ 1 := by
    rw [hown.2.2.1]
    exact fun h => hone (m.frameCount_eq_one_iff.mp h)
  -- the assembly under the frame's id is this message's, missing, or does not match
  have hother : ∀ (r' : MessageReassembler), (∀ id, id ≠ m.messageId →
      r'.assemblies id = r.assemblies id) →
      (∀ assembly, r'.assemblies m.messageId = some assembly → ∃ S, assembly = m.assembly S) →
      Owned hsplits (arrivals ++ [c]) r' := by
    intro r' hframe hown' id assembly hid
    by_cases heq : id = m.messageId
    · subst heq
      obtain ⟨S, rfl⟩ := hown' assembly hid
      refine ⟨c.sent, hk, S, ?_, rfl, hone, rfl⟩
      rw [lastUnder_append, if_pos ⟨hown.1, hcount⟩]
    · rw [lastUnder_append, if_neg (by rw [hown.1]; tauto)]
      exact hr id assembly (by rw [← hframe id heq]; exact hid)
  have hframe : ∀ id, id ≠ m.messageId →
      (r.onFrame c.frame).1.assemblies id = r.assemblies id := fun id hid =>
    onFrame_assemblies_of_ne r c.frame (by rw [hown.1]; exact hid)
  -- a frame that finds its own message's assembly, or none, goes on with it
  have howned : ∀ S, (r.assemblies m.messageId = some (m.assembly S) ∨
      r.assemblies m.messageId = none ∧ S = ∅) →
      Owned hsplits (arrivals ++ [c]) (r.onFrame c.frame).1 ∧
        ∀ x ∈ (r.onFrame c.frame).2,
          ∃ m ∈ messages, x.payloadType = m.payloadType ∧ x.body = m.body := by
    intro S hheld
    have hstep := onFrame_of_owns (S := S) hown hone hheld
    refine ⟨hother _ hframe fun assembly hassembly => ?_, fun x hx => ?_⟩
    · rw [hstep] at hassembly
      split_ifs at hassembly <;> simp at hassembly <;> exact ⟨_, hassembly.symm⟩
    · rw [hstep] at hx
      split_ifs at hx <;> simp at hx
      exact hdelivered x hx
  rcases hheld : r.assemblies m.messageId with _ | assembly
  · exact howned ∅ (.inr ⟨hheld, rfl⟩)
  · by_cases hmatch : assembly.payloadType = c.frame.header.payloadType ∧
        assembly.frameCount = c.frame.header.frameCount
    · have hlast := hsep assembly (by rw [hown.1]; exact hheld) hmatch.1 hmatch.2
      obtain ⟨k, hk', S, hlast', hid, -, rfl⟩ := hr _ _ hheld
      rw [hown.1, hlast', Option.some.injEq] at hlast
      subst hlast
      exact howned S (.inl hheld)
    · -- the frame discards what it does not match
      obtain ⟨k, hk', S, -, -, -, rfl⟩ := hr _ _ hheld
      have hfragments : ((splitSent hsplits k hk').assembly S).fragments ≠ [] := by
        rw [← List.length_pos_iff, assembly, Slots.length_fill]
        exact (splitSent hsplits k hk').length_pos
      have hstep := onFrame_of_mismatch hcount (by rw [hown.1]; exact hheld) hfragments hmatch
      rw [hstep]
      refine ⟨hother _ (by rw [← hstep]; exact hframe) fun assembly hassembly => ?_, by simp⟩
      simp [hown.1] at hassembly

include hsplits hsent

/-- **Along the arrivals** every open assembly is owned, and every message delivered was sent. -/
theorem owned_received (hsep : Separated maxMessageSize arrivals) (i : ℕ)
    (hi : i ≤ arrivals.length) :
    Owned hsplits (arrivals.take i) (received maxMessageSize (arrivals.take i)).1 ∧
      ∀ x ∈ (received maxMessageSize (arrivals.take i)).2,
        ∃ m ∈ messages, x.payloadType = m.payloadType ∧ x.body = m.body := by
  induction i with
  | zero =>
    refine ⟨fun id assembly hid => ?_, fun x hx => ?_⟩
    · simp [received, fresh] at hid
    · simp [received] at hx
  | succ i ih =>
    obtain ⟨howned, hout⟩ := ih (by omega)
    have hlt : i < arrivals.length := by omega
    have hstep := owned_onFrame hsplits (hsent _ (List.getElem_mem hlt)) howned (hsep i hlt)
    rw [← List.take_append_getElem hlt, received, List.map_append, run_append,
      List.map_singleton, run_singleton, ← received]
    refine ⟨hstep.1, fun x hx => ?_⟩
    rcases List.mem_append.mp hx with hx | hx
    · exact hout x hx
    · exact hstep.2 x hx

end Received

/-- An assembly is open only under an id that a fragment has arrived with. -/
theorem lastUnder_of_open (maxMessageSize : ℕ) (arrivals : List Copy) (id : UInt16)
    (assembly : Assembly)
    (h : (received maxMessageSize arrivals).1.assemblies id = some assembly) :
    ∃ k, lastUnder id arrivals = some k := by
  induction arrivals using List.reverseRecOn generalizing assembly with
  | nil => simp [received, fresh] at h
  | append_singleton arrivals c ih =>
    rw [lastUnder_append]
    split_ifs with hc
    · exact ⟨c.sent, rfl⟩
    · rw [received, List.map_append, run_append, List.map_singleton, run_singleton,
        ← received] at h
      by_cases hid : id = c.frame.header.messageId
      · -- a whole message in one frame leaves the assemblies alone
        have hcount : c.frame.header.frameCount = 1 := by tauto
        have hsame : ∀ r : MessageReassembler, (r.onFrame c.frame).1 = r := by
          intro r
          unfold onFrame
          simp only [hcount, if_true]
          split_ifs <;> rfl
        rw [hsame] at h
        exact ih assembly h
      · rw [onFrame_assemblies_of_ne _ _ hid] at h
        exact ih assembly h

section Whole

variable {maxFrameSize maxMessageSize : ℕ} {messages : List Message} {arrivals : List Copy}

/-- Among at most 65535 messages the arrivals are separated, whatever their order. -/
theorem separated_of_length_le (hsplits : ∀ m ∈ messages, Splits maxFrameSize m.body)
    (hsent : ∀ c ∈ arrivals, c.frame ∈ framesSent maxFrameSize messages c.sent)
    (hlen : messages.length ≤ 65535) : Separated maxMessageSize arrivals := by
  intro i hi assembly hassembly _ _
  obtain ⟨k, hlast⟩ := lastUnder_of_open _ _ _ assembly hassembly
  obtain ⟨c, hc, hid, rfl⟩ := mem_of_lastUnder hlast
  rw [hlast, Option.some.injEq]
  obtain ⟨hj, hownj⟩ := owns_of_framesSent hsplits (hsent _ (List.mem_of_mem_take hc))
  obtain ⟨hk, hownk⟩ := owns_of_framesSent hsplits (hsent _ (List.getElem_mem hi))
  exact eq_of_sent_id hsplits hlen hj hk (by rw [← hownj.1, ← hownk.1, hid])

/-- **No splicing.** Of messages that the fragmenter cuts without loss, whatever copies of their
frames arrive and in whatever order: if at most 65535 messages are sent, or no fragment joins an
assembly that another message under the same id has left open, then each message delivered has the
payload type and the complete body of one message sent. -/
theorem delivered_whole (hsplits : ∀ m ∈ messages, Splits maxFrameSize m.body)
    (hsent : ∀ c ∈ arrivals, c.frame ∈ framesSent maxFrameSize messages c.sent)
    (h : messages.length ≤ 65535 ∨ Separated maxMessageSize arrivals) :
    ∀ x ∈ (received maxMessageSize arrivals).2,
      ∃ m ∈ messages, x.payloadType = m.payloadType ∧ x.body = m.body := by
  have hsep : Separated maxMessageSize arrivals := by
    rcases h with hlen | hsep
    · exact separated_of_length_le hsplits hsent hlen
    · exact hsep
  have howned := owned_received hsplits hsent hsep arrivals.length le_rfl
  rw [List.take_length] at howned
  exact howned.2

end Whole

/-- The copies of two messages in two and three frames, the first one's second frame coming early
and late. -/
def lateCopies : List Copy :=
  [⟨0, frameOf { body := [1, 2] } 1 1 2 [2]⟩, ⟨1, frameOf { body := [3, 4, 5] } 2 2 3 [5]⟩,
    ⟨1, frameOf { body := [3, 4, 5] } 2 0 3 [3]⟩, ⟨0, frameOf { body := [1, 2] } 1 1 2 [2]⟩,
    ⟨0, frameOf { body := [1, 2] } 1 0 2 [1]⟩, ⟨0, frameOf { body := [1, 2] } 1 1 2 [2]⟩]

theorem delivered_whole_two :
    (received 1024 lateCopies).2.length = 1 ∧
      ∀ x ∈ (received 1024 lateCopies).2,
        ∃ m ∈ [({ body := [1, 2] } : Message), { body := [3, 4, 5] }],
          x.payloadType = m.payloadType ∧ x.body = m.body := by
  have hsplits :
      ∀ m ∈ [({ body := [1, 2] } : Message), { body := [3, 4, 5] }], Splits 15 m.body := by
    decide
  exact ⟨by decide, delivered_whole hsplits (by decide) (.inl (by decide))⟩

/-- A message in two frames, `n` empty messages, and another message in two frames. With 65534
empty messages the last one gets the first one's id. -/
def pairAfter (n : ℕ) : List Message :=
  { body := [1, 2] } :: (List.replicate n ({} : Message) ++ [{ body := [3, 4] }])

theorem length_pairAfter (n : ℕ) : (pairAfter n).length = n + 2 := by
  rw [pairAfter, List.length_cons, List.length_append, List.length_replicate]
  rfl

theorem getElem_last_pairAfter (n : ℕ) :
    (pairAfter n)[n + 1]? = some { body := [3, 4] } := by
  simp [pairAfter]

theorem body_of_mem_pairAfter {n : ℕ} {m : Message} (hm : m ∈ pairAfter n) :
    m.body = [1, 2] ∨ m.body = [] ∨ m.body = [3, 4] := by
  simp only [pairAfter, List.mem_cons, List.mem_append, List.mem_replicate, List.not_mem_nil,
    or_false] at hm
  rcases hm with rfl | ⟨-, rfl⟩ | rfl <;> simp

theorem splits_pairAfter (n : ℕ) : ∀ m ∈ pairAfter n, Splits 15 m.body := by
  intro m hm
  rcases body_of_mem_pairAfter hm with h | h | h <;> rw [h] <;> decide

theorem framesSent_first_pairAfter (n : ℕ) :
    framesSent 15 (pairAfter n) 0 = framesOf { body := [1, 2] } 1 [[1], [2]] := by
  have hframes : (({ maxFrameSize := 15 } : MessageFragmenter).fragment { body := [1, 2] }).2 =
      framesOf { body := [1, 2] } 1 (fragmentsOf 15 [1, 2]) := fragment_eq (.inl (by decide))
  have hpieces : fragmentsOf 15 [1, 2] = [[1], [2]] := by decide
  rw [← hpieces]
  exact hframes

/-- When the ids have come round, the last message is sent under id 1 again. -/
theorem framesSent_last_pairAfter {n : ℕ} (hn : (n + 1) % 65535 = 0) :
    framesSent 15 (pairAfter n) (n + 1) = framesOf { body := [3, 4] } 1 [[3], [4]] := by
  obtain ⟨hid, hsize⟩ := stateBefore_spec (splits_pairAfter n) (n + 1)
    (by rw [length_pairAfter]; omega)
  have hid' : (stateBefore 15 (pairAfter n) (n + 1)).nextMessageId = 1 := by
    apply UInt16.toNat_inj.mp
    rw [hid, hn, Nat.zero_add, UInt16.toNat_one]
  have hpieces : fragmentsOf 15 [3, 4] = [[3], [4]] := by decide
  rw [framesSent, getElem_last_pairAfter]
  simp only
  rw [fragment_eq (.inl (by rw [hsize]; norm_num)), hid', hsize, hpieces]

/-- The first frame of the first message and the second frame of the last one. -/
def crossed : List Copy :=
  [⟨0, frameOf { body := [1, 2] } 1 0 2 [1]⟩, ⟨65535, frameOf { body := [3, 4] } 1 1 2 [4]⟩]

/-- **A reused id splices.** Of 65536 messages, two frames of different messages arrive, and their
payloads are delivered as one message. -/
theorem crossed_spliced :
    (∀ m ∈ pairAfter 65534, Splits 15 m.body) ∧
      (∀ c ∈ crossed, c.frame ∈ framesSent 15 (pairAfter 65534) c.sent) ∧
      ¬ ∀ x ∈ (received 1024 crossed).2,
        ∃ m ∈ pairAfter 65534, x.payloadType = m.payloadType ∧ x.body = m.body := by
  refine ⟨splits_pairAfter _, fun c hc => ?_, fun hwhole => ?_⟩
  · simp only [crossed, List.mem_cons, List.not_mem_nil, or_false] at hc
    rcases hc with rfl | rfl
    · rw [framesSent_first_pairAfter]
      decide
    · rw [framesSent_last_pairAfter (by norm_num : (65534 + 1) % 65535 = 0)]
      decide
  · obtain ⟨m, hm, -, hbody⟩ := hwhole { messageId := 1, body := [1, 4] } (by decide)
    rcases body_of_mem_pairAfter hm with h | h | h <;> rw [h] at hbody <;> revert hbody <;> decide

end MessageReuse

end Axtp
