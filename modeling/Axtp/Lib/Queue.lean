/-
  Taking the first entry of a kind out of a queue.

  `take` is the operation as it should be: the first match leaves the queue, the
  others keep their order. A run of takes with keys then returns the entries of
  each key in their order of arrival (`taken_sublist`). `rotate` is the same on a
  queue that can only be popped at the front and pushed at the back: the entries
  before the match end up behind all others (`rotate_eq`). The two agree exactly
  when the entries before the match and those behind it are repetitions of one
  block (`rotate_eq_take_iff`), since only then do two words commute
  (`append_comm_iff`).
-/
import Axtp.Lib.Run

namespace Axtp

namespace Queue

open Run

variable {α κ : Type*}

/-! ### Words that commute -/

theorem flatten_replicate_add (block : List α) (m n : ℕ) :
    (List.replicate (m + n) block).flatten =
      (List.replicate m block).flatten ++ (List.replicate n block).flatten := by
  rw [List.replicate_add, List.flatten_append]

/-- Two words commute exactly when they are repetitions of one word. -/
theorem append_comm_iff {u v : List α} :
    u ++ v = v ++ u ↔
      ∃ block m n, u = (List.replicate m block).flatten ∧ v = (List.replicate n block).flatten := by
  constructor
  · -- the shorter word is a prefix of the longer one, and the rest commutes with it
    have hstep : ∀ k, ∀ u v : List α, u.length + v.length ≤ k → u ++ v = v ++ u →
        ∃ block m n, u = (List.replicate m block).flatten ∧
          v = (List.replicate n block).flatten := by
      intro k
      induction k with
      | zero =>
        intro u v hk _
        obtain rfl : u = [] := List.length_eq_zero_iff.mp (by omega)
        obtain rfl : v = [] := List.length_eq_zero_iff.mp (by omega)
        exact ⟨[], 0, 0, rfl, rfl⟩
      | succ k ih =>
        intro u v hk h
        by_cases hu : u = []
        · exact ⟨v, 0, 1, by simp [hu], by simp⟩
        by_cases hv : v = []
        · exact ⟨u, 1, 0, by simp, by simp [hv]⟩
        have hulength := List.length_pos_of_ne_nil hu
        have hvlength := List.length_pos_of_ne_nil hv
        rcases List.append_eq_append_iff.mp h with ⟨rest, hrest, -⟩ | ⟨rest, hrest, -⟩
        · subst hrest
          rw [List.append_assoc, List.append_cancel_left_eq] at h
          rw [List.length_append] at hk
          obtain ⟨block, m, n, hblock, hn⟩ := ih u rest (by omega) h
          exact ⟨block, m, m + n, hblock, by rw [flatten_replicate_add, ← hblock, ← hn]⟩
        · subst hrest
          rw [List.append_assoc, List.append_cancel_left_eq] at h
          rw [List.length_append] at hk
          obtain ⟨block, m, n, hm, hblock⟩ := ih rest v (by omega) h
          exact ⟨block, n + m, n, by rw [flatten_replicate_add, ← hblock, ← hm], hblock⟩
    exact hstep _ u v le_rfl
  · rintro ⟨block, m, n, rfl, rfl⟩
    rw [← flatten_replicate_add, ← flatten_replicate_add, Nat.add_comm]

/-! ### Taking a match out of its place -/

/-- The queue without its first match, and the match. -/
def take (matching : α → Bool) (queue : List α) : List α × Option α :=
  (queue.eraseP matching, queue.find? matching)

/-- The entries before the first match. -/
def before (matching : α → Bool) (queue : List α) : List α := queue.takeWhile fun a => !matching a

/-- The entries behind the first match. -/
def behind (matching : α → Bool) (queue : List α) : List α :=
  (queue.dropWhile fun a => !matching a).tail

variable {matching : α → Bool} {queue : List α}

theorem eraseP_eq (matching : α → Bool) (queue : List α) :
    queue.eraseP matching = before matching queue ++ behind matching queue := by
  induction queue with
  | nil => rfl
  | cons a queue ih =>
    by_cases h : matching a
    · simp [before, behind, h]
    · rw [before, behind] at ih
      simp [before, behind, h, ih]

/-- The results of the takes with a key, out of the results of all takes. -/
def takenFor [DecidableEq κ] (key : κ) (taken : List (κ × Option α)) : List α :=
  taken.filterMap fun result => if result.1 = key then result.2 else none

/-- Take the first match of a key. -/
def takeKey (matching : κ → α → Bool) : List α → κ → List α × List (κ × Option α) :=
  fun queue key => ((take (matching key) queue).1, [(key, (take (matching key) queue).2)])

/-- **Arrival order.** A run of takes returns the entries for each key in their order of arrival. -/
theorem taken_sublist [DecidableEq κ] (matching : κ → α → Bool) (queue : List α) (keys : List κ)
    (key : κ) :
    (takenFor key (run (takeKey matching) queue keys).2).Sublist (queue.filter (matching key)) := by
  induction keys generalizing queue with
  | nil => exact List.nil_sublist _
  | cons k keys ih =>
    rw [run_cons]
    have hrest := ih (queue.eraseP (matching k))
    simp only [takenFor, takeKey, take, List.singleton_append, List.filterMap_cons] at hrest ⊢
    by_cases hk : k = key
    · subst hk
      rcases hfind : queue.find? (matching k) with _ | found
      · rw [if_pos rfl]
        exact hrest.trans (List.eraseP_sublist.filter _)
      · rw [if_pos rfl]
        -- the matches that are left stood behind the one that was taken
        obtain ⟨hfound, before, behind, rfl, hbefore⟩ := List.find?_eq_some_iff_append.mp hfind
        have hnone : before.filter (matching k) = [] :=
          List.filter_eq_nil_iff.mpr fun a ha => by simpa using hbefore a ha
        have herase : (before ++ found :: behind).eraseP (matching k) = before ++ behind := by
          rw [List.eraseP_append_right _ fun a ha => by simpa using hbefore a ha,
            List.eraseP_cons_of_pos hfound]
        rw [herase] at hrest ⊢
        rw [List.filter_append, hnone, List.nil_append] at hrest
        rw [List.filter_append, hnone, List.nil_append, List.filter_cons_of_pos hfound]
        exact hrest.cons_cons found
    · rw [if_neg hk]
      exact hrest.trans (List.eraseP_sublist.filter _)

/-! ### Taking a match by turning the queue -/

/-- Pop the front; return it if it matches, else push it at the back: at most the given number of
times. -/
def rotate (matching : α → Bool) : ℕ → List α → List α × Option α
  | _, [] => ([], none)
  | 0, queue => (queue, none)
  | count + 1, front :: queue =>
    if matching front then (queue, some front) else rotate matching count (queue ++ [front])

/-- After the entries in `turned` have been pushed at the back. -/
theorem rotate_append (matching : α → Bool) (queue turned : List α) :
    rotate matching queue.length (queue ++ turned) =
      match queue.find? matching with
      | some found => (behind matching queue ++ turned ++ before matching queue, some found)
      | none => (turned ++ queue, none) := by
  induction queue generalizing turned with
  | nil => cases turned <;> simp [rotate]
  | cons a queue ih =>
    rw [List.length_cons, List.cons_append, rotate]
    by_cases h : matching a
    · rw [if_pos h, List.find?_cons_of_pos h]
      simp [before, behind, h]
    · rw [if_neg h, List.append_assoc, ih, List.find?_cons_of_neg h]
      rcases queue.find? matching with _ | found
      · simp
      · simp [before, behind, h]

/-- The entries before the match end up behind all others. -/
theorem rotate_eq (matching : α → Bool) (queue : List α) :
    rotate matching queue.length queue =
      (behind matching queue ++ before matching queue, queue.find? matching) := by
  have h := rotate_append matching queue []
  rw [List.append_nil] at h
  rw [h]
  rcases hfind : queue.find? matching with _ | found
  · have hnone : ∀ a ∈ queue, (!matching a) = true := by simpa using hfind
    simp [before, behind, List.takeWhile_eq_self_iff.mpr hnone,
      List.dropWhile_eq_nil_iff.mpr hnone]
  · simp

/-- The entries before the first match and those behind it are repetitions of one block; one of the
two may be empty. -/
def Undisturbed (matching : α → Bool) (queue : List α) : Prop :=
  ∃ block m n, before matching queue = (List.replicate m block).flatten ∧
    behind matching queue = (List.replicate n block).flatten

theorem undisturbed_of_before (h : before matching queue = []) : Undisturbed matching queue :=
  ⟨behind matching queue, 0, 1, by simp [h], by simp⟩

theorem undisturbed_of_behind (h : behind matching queue = []) : Undisturbed matching queue :=
  ⟨before matching queue, 1, 0, by simp, by simp [h]⟩

/-- Turning the queue keeps the order exactly when nothing is disturbed by it. -/
theorem rotate_eq_take_iff (matching : α → Bool) (queue : List α) :
    rotate matching queue.length queue = take matching queue ↔ Undisturbed matching queue := by
  rw [rotate_eq, take, eraseP_eq, Prod.mk.injEq, and_iff_left rfl, eq_comm, append_comm_iff]
  rfl

end Queue

end Axtp
