/-
  Correctness of `AxtpClient::allocateRequestId`.

  From a non-zero candidate the steps of the loop go through all non-zero ids, as a counter
  modulo 2^32 - 1 would (`toNat_iterate_nextCandidate`), so that the loop ends within
  2^32 - 1 turns and finds an id unless all of them are used. Over any sequence of drawn,
  given and released ids the set of used ids is the set of those reserved since
  (`mem_usedRequestIds_iff`).
-/
import Axtp.Lib.Since
import Axtp.Sdk.AxtpClient

namespace Axtp.AxtpClient

variable {σ : Type}

/-! ### The cycle of candidates -/

theorem toNat_nextCandidate {candidate : UInt32} (h : candidate ≠ 0) :
    (nextCandidate candidate).toNat = candidate.toNat % (2 ^ 32 - 1) + 1 := by
  have hpos : candidate.toNat ≠ 0 := fun hzero => h (UInt32.toNat_inj.mp hzero)
  have hlt := candidate.toNat_lt
  have hsucc : (candidate + 1).toNat = (candidate.toNat + 1) % 2 ^ 32 := UInt32.toNat_add ..
  unfold nextCandidate
  by_cases hzero : candidate + 1 = 0
  · -- the candidate was the last one
    rw [hzero] at hsucc
    have hlast : candidate.toNat = 2 ^ 32 - 1 := by
      have hmod : 0 = (candidate.toNat + 1) % 2 ^ 32 := hsucc
      omega
    rw [if_pos hzero, hlast]
    rfl
  · have hne : (candidate + 1).toNat ≠ 0 := fun h => hzero (UInt32.toNat_inj.mp h)
    rw [if_neg hzero, hsucc]
    omega

theorem nextCandidate_ne_zero (candidate : UInt32) : nextCandidate candidate ≠ 0 := by
  unfold nextCandidate
  split_ifs with h
  · decide
  · exact h

/-- **The candidates count** modulo 2^32 - 1. -/
theorem toNat_iterate_nextCandidate {first : UInt32} (h : first ≠ 0) (i : ℕ) :
    (nextCandidate^[i] first).toNat = (first.toNat - 1 + i) % (2 ^ 32 - 1) + 1 ∧
      nextCandidate^[i] first ≠ 0 := by
  have hpos : first.toNat ≠ 0 := fun hzero => h (UInt32.toNat_inj.mp hzero)
  have hlt := first.toNat_lt
  induction i with
  | zero =>
    refine ⟨?_, h⟩
    rw [Function.iterate_zero_apply]
    omega
  | succ i ih =>
    obtain ⟨hvalue, hne⟩ := ih
    rw [Function.iterate_succ_apply', toNat_nextCandidate hne, hvalue]
    refine ⟨?_, nextCandidate_ne_zero _⟩
    omega

theorem isCycle_nextCandidate {first : UInt32} (h : first ≠ 0) :
    Cycle.IsCycle nextCandidate first (2 ^ 32 - 1) where
  pos := by decide
  back := by
    have hvalue := (toNat_iterate_nextCandidate h (2 ^ 32 - 1)).1
    have hpos : first.toNat ≠ 0 := fun hzero => h (UInt32.toNat_inj.mp hzero)
    have hlt := first.toNat_lt
    apply UInt32.toNat_inj.mp
    omega
  away := by
    intro i hi hperiod heq
    have hvalue := (toNat_iterate_nextCandidate h i).1
    have hpos : first.toNat ≠ 0 := fun hzero => h (UInt32.toNat_inj.mp hzero)
    have hlt := first.toNat_lt
    rw [heq] at hvalue
    omega

/-- Every non-zero id is on the cycle. -/
theorem exists_iterate_nextCandidate {first id : UInt32} (hfirst : first ≠ 0) (hid : id ≠ 0) :
    ∃ i < 2 ^ 32 - 1, nextCandidate^[i] first = id := by
  have hpos : first.toNat ≠ 0 := fun hzero => hfirst (UInt32.toNat_inj.mp hzero)
  have hpos' : id.toNat ≠ 0 := fun hzero => hid (UInt32.toNat_inj.mp hzero)
  have hlt := first.toNat_lt
  have hlt' := id.toNat_lt
  refine ⟨(id.toNat + (2 ^ 32 - 1) - first.toNat) % (2 ^ 32 - 1), by omega, ?_⟩
  have hvalue := (toNat_iterate_nextCandidate hfirst
    ((id.toNat + (2 ^ 32 - 1) - first.toNat) % (2 ^ 32 - 1))).1
  apply UInt32.toNat_inj.mp
  omega

/-! ### One allocation -/

theorem firstCandidate_ne_zero (client : AxtpClient σ) : client.firstCandidate ≠ 0 := by
  unfold firstCandidate
  split_ifs with h
  · decide
  · exact h

/-- **While some id is unused** the loop finds one. -/
theorem searchCandidate_of_unused {client : AxtpClient σ} {id : UInt32} (hid : id ≠ 0)
    (hunused : id ∉ client.usedRequestIds) :
    ∃ found, found ≠ 0 ∧ found ∉ client.usedRequestIds ∧
      ∀ turns ≥ 2 ^ 32 - 1, client.searchCandidate turns = some (some found) := by
  have hcycle := isCycle_nextCandidate client.firstCandidate_ne_zero
  obtain ⟨i, hi, hiid⟩ := exists_iterate_nextCandidate client.firstCandidate_ne_zero hid
  have hfound :
      decide (nextCandidate^[i] client.firstCandidate ∉ client.usedRequestIds) = true := by
    rw [hiid]
    exact decide_eq_true hunused
  obtain ⟨j, hj, hjfound, hsearch⟩ :=
    hcycle.search_isSome (fun candidate => decide (candidate ∉ client.usedRequestIds)) hi hfound
  refine ⟨nextCandidate^[j] client.firstCandidate,
    (toNat_iterate_nextCandidate client.firstCandidate_ne_zero j).2,
    of_decide_eq_true hjfound, hsearch⟩

/-- **Once all ids are used** the loop gives up. -/
theorem searchCandidate_of_used {client : AxtpClient σ}
    (hused : ∀ id, id ≠ 0 → id ∈ client.usedRequestIds) :
    ∀ turns ≥ 2 ^ 32 - 1, client.searchCandidate turns = some none := by
  intro turns hturns
  have hcycle := isCycle_nextCandidate client.firstCandidate_ne_zero
  apply hcycle.search_eq_none hturns
  intro i _
  have hne := (toNat_iterate_nextCandidate client.firstCandidate_ne_zero i).2
  exact decide_eq_false fun hunused => hunused (hused _ hne)

/-- **The loop ends**, and what it finds is what is allocated. -/
theorem searchCandidate_terminates (client : AxtpClient σ) :
    ∀ turns ≥ 2 ^ 32 - 1, client.searchCandidate turns = some client.allocateRequestId.2 := by
  intro turns hturns
  by_cases h : ∃ id, id ≠ 0 ∧ id ∉ client.usedRequestIds
  · obtain ⟨id, hid, hunused⟩ := h
    obtain ⟨found, -, -, hsearch⟩ := searchCandidate_of_unused hid hunused
    unfold allocateRequestId
    rw [hsearch turns hturns, hsearch _ le_rfl]
  · have hused : ∀ id, id ≠ 0 → id ∈ client.usedRequestIds := by
      intro id hid
      by_contra hunused
      exact h ⟨id, hid, hunused⟩
    have hsearch := searchCandidate_of_used hused
    unfold allocateRequestId
    rw [hsearch turns hturns, hsearch _ le_rfl]

theorem allocateRequestId_of_unused {client : AxtpClient σ} {id : UInt32} (hid : id ≠ 0)
    (hunused : id ∉ client.usedRequestIds) :
    ∃ found, found ≠ 0 ∧ found ∉ client.usedRequestIds ∧
      client.allocateRequestId =
        ({ client with
            usedRequestIds := insert found client.usedRequestIds
            nextRequestId := found + 1 }, some found) := by
  obtain ⟨found, hne, hfresh, hsearch⟩ := searchCandidate_of_unused hid hunused
  refine ⟨found, hne, hfresh, ?_⟩
  unfold allocateRequestId
  rw [hsearch _ le_rfl]

theorem allocateRequestId_of_used {client : AxtpClient σ}
    (hused : ∀ id, id ≠ 0 → id ∈ client.usedRequestIds) :
    client.allocateRequestId = (client, none) := by
  unfold allocateRequestId
  rw [searchCandidate_of_used hused _ le_rfl]

/-! ### Runs -/

/-- What happens to request ids between two resets. -/
inductive RequestIdCall where
  /-- A request with an id, or with 0, which lets the client draw one. -/
  | take (requestId : UInt32)
  /-- The request was not sent. -/
  | release (requestId : UInt32)
  /-- The test seam `setNextRequestIdForTesting`. -/
  | setNext (requestId : UInt32)

/-- An id was handed out, or given back. -/
inductive RequestIdEvent where
  | reserved (requestId : UInt32)
  | released (requestId : UInt32)
  deriving DecidableEq

def requestIdStep (client : AxtpClient σ) : RequestIdCall → AxtpClient σ × List RequestIdEvent
  | .take requestId =>
    ((client.takeRequestId requestId).1, (client.takeRequestId requestId).2.toList.map .reserved)
  | .release requestId => (client.eraseRequestId requestId, [.released requestId])
  | .setNext requestId => ({ client with nextRequestId := requestId }, [])

/-- The id was handed out, or used from the start, and has not been given back since. -/
def Reserved (start : AxtpClient σ) (events : List RequestIdEvent) (requestId : UInt32) : Prop :=
  Since (fun _ event => event ≠ .released requestId) (fun _ event => event = .reserved requestId)
    events ∨ requestId ∈ start.usedRequestIds ∧ .released requestId ∉ events

theorem takeRequestId_eq_some {client client' : AxtpClient σ} {requestId id : UInt32}
    (h : client.takeRequestId requestId = (client', some id)) :
    id ≠ 0 ∧ id ∉ client.usedRequestIds ∧
      client'.usedRequestIds = insert id client.usedRequestIds := by
  unfold takeRequestId at h
  split_ifs at h with hzero hused
  · -- drawn
    by_cases hex : ∃ id, id ≠ 0 ∧ id ∉ client.usedRequestIds
    · obtain ⟨unused, hunused, hnot⟩ := hex
      obtain ⟨found, hne, hfresh, halloc⟩ := allocateRequestId_of_unused hunused hnot
      rw [halloc] at h
      obtain ⟨rfl, hfound⟩ := Prod.mk.inj h
      obtain rfl := Option.some.inj hfound
      exact ⟨hne, hfresh, rfl⟩
    · have hall : ∀ id, id ≠ 0 → id ∈ client.usedRequestIds := by
        intro id hid
        by_contra hunused
        exact hex ⟨id, hid, hunused⟩
      rw [allocateRequestId_of_used hall] at h
      cases h
  · cases h
  · -- given
    obtain ⟨rfl, hid⟩ := Prod.mk.inj h
    obtain rfl := Option.some.inj hid
    exact ⟨hzero, hused, rfl⟩

theorem takeRequestId_eq_none {client client' : AxtpClient σ} {requestId : UInt32}
    (h : client.takeRequestId requestId = (client', none)) : client' = client := by
  unfold takeRequestId allocateRequestId at h
  split_ifs at h with hzero hused
  · split at h
    · cases h
    · exact (Prod.mk.inj h).1.symm
  · exact (Prod.mk.inj h).1.symm
  · cases h

theorem reserved_concat_reserved {start : AxtpClient σ} {events : List RequestIdEvent}
    {requestId id : UInt32} :
    Reserved start (events ++ [.reserved id]) requestId ↔
      requestId = id ∨ Reserved start events requestId := by
  unfold Reserved
  rw [since_concat]
  simp only [List.mem_append, List.mem_singleton, reduceCtorEq, or_false,
    RequestIdEvent.reserved.injEq, ne_eq, not_false_eq_true, and_true, eq_comm (a := id), or_assoc]

theorem reserved_concat_released {start : AxtpClient σ} {events : List RequestIdEvent}
    {requestId id : UInt32} :
    Reserved start (events ++ [.released id]) requestId ↔
      requestId ≠ id ∧ Reserved start events requestId := by
  unfold Reserved
  rw [since_concat]
  simp only [List.mem_append, List.mem_singleton, reduceCtorEq, false_or,
    RequestIdEvent.released.injEq, ne_eq, eq_comm (a := id)]
  tauto

/-- **One call** keeps the used ids those that are reserved. -/
theorem requestIdStep_mem_iff {start client : AxtpClient σ} {events : List RequestIdEvent}
    (h : ∀ id, id ∈ client.usedRequestIds ↔ Reserved start events id) (call : RequestIdCall) :
    ∀ id, id ∈ (requestIdStep client call).1.usedRequestIds ↔
      Reserved start (events ++ (requestIdStep client call).2) id := by
  intro id
  cases call with
  | take requestId =>
    rcases htake : client.takeRequestId requestId with ⟨client', _ | taken⟩
    · rw [requestIdStep, htake, takeRequestId_eq_none htake]
      show _ ↔ Reserved start (events ++ []) id
      rw [List.append_nil]
      exact h id
    · obtain ⟨-, -, hused⟩ := takeRequestId_eq_some htake
      rw [requestIdStep, htake]
      show id ∈ client'.usedRequestIds ↔ Reserved start (events ++ [.reserved taken]) id
      rw [hused, Finset.mem_insert, reserved_concat_reserved, h id]
  | release requestId =>
    show id ∈ client.usedRequestIds.erase requestId ↔
      Reserved start (events ++ [.released requestId]) id
    rw [Finset.mem_erase, reserved_concat_released, h id]
  | setNext requestId =>
    show id ∈ client.usedRequestIds ↔ Reserved start (events ++ []) id
    rw [List.append_nil]
    exact h id

/-- **The used ids** after any calls are those still reserved. -/
theorem mem_usedRequestIds_iff (start : AxtpClient σ) (calls : List RequestIdCall) (id : UInt32) :
    id ∈ (Run.run requestIdStep start calls).1.usedRequestIds ↔
      Reserved start (Run.run requestIdStep start calls).2 id := by
  induction calls using List.reverseRecOn generalizing id with
  | nil =>
    show id ∈ start.usedRequestIds ↔ Reserved start [] id
    unfold Reserved
    constructor
    · intro h
      exact .inr ⟨h, List.not_mem_nil⟩
    · rintro (hsince | ⟨h, -⟩)
      · exact absurd hsince not_since_nil
      · exact h
  | append_singleton calls call ih =>
    rw [Run.run_append, Run.run_singleton]
    exact requestIdStep_mem_iff ih call id

/-- **Request ids are never reused or skipped wrongly.** The loop ends from every state. While
some non-zero id is unused it returns one, which is used from then on, and it changes nothing
else but the counter; otherwise it changes nothing. Hence every id that is handed out, drawn or
given, after any calls is not zero and not one of those still reserved. -/
theorem allocateRequestId_correct (client : AxtpClient σ) :
    (∀ turns ≥ 2 ^ 32 - 1, client.searchCandidate turns = some client.allocateRequestId.2) ∧
    ((∃ id, id ≠ 0 ∧ id ∉ client.usedRequestIds) →
      ∃ found, found ≠ 0 ∧ found ∉ client.usedRequestIds ∧
        client.allocateRequestId =
          ({ client with
              usedRequestIds := insert found client.usedRequestIds
              nextRequestId := found + 1 }, some found)) ∧
    ((∀ id, id ≠ 0 → id ∈ client.usedRequestIds) → client.allocateRequestId = (client, none)) ∧
    ∀ (calls : List RequestIdCall) (requestId id : UInt32),
      ((Run.run requestIdStep client calls).1.takeRequestId requestId).2 = some id →
        id ≠ 0 ∧ ¬ Reserved client (Run.run requestIdStep client calls).2 id := by
  refine ⟨client.searchCandidate_terminates, ?_, allocateRequestId_of_used, ?_⟩
  · rintro ⟨id, hid, hunused⟩
    exact allocateRequestId_of_unused hid hunused
  · intro calls requestId id htake
    obtain ⟨hne, hfresh, -⟩ := takeRequestId_eq_some (Prod.ext rfl htake)
    exact ⟨hne, fun hreserved => hfresh ((mem_usedRequestIds_iff client calls id).mpr hreserved)⟩

end Axtp.AxtpClient
