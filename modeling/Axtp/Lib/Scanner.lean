/-
  Scanning a stream of symbols for tokens, whole or in chunks.

  A `Scanner` looks at the unread input and decides: the first symbol belongs to
  no token and is dropped (`skip`), a token starts here and takes the next `n`
  symbols (`token`), or more input is needed to tell (`wait`). Its one law beyond
  the obvious bounds is that a decision once taken does not change when more
  input arrives (`verdict_append`). From it alone follow the facts a framing
  layer needs: the tokens of a stream do not depend on how it is cut into
  chunks (`feedAll_eq`), what stays in the buffer is input the scanner waits on
  (`verdict_scan_rest`), and a sequence of encoded tokens scans back to that
  sequence, whatever bytes the tokens carry inside (`scan_encoded`).
-/
import Mathlib

namespace Axtp

/-- What a scanner decides at the head of the unread input. -/
inductive Verdict (β : Type*) where
  /-- more input is needed -/
  | wait
  /-- the first symbol starts no token -/
  | skip
  /-- the token `b` takes the next `n` symbols -/
  | token (b : β) (n : ℕ)

/-- A **scanner**: a decision at the head of the input that no later input revokes. -/
structure Scanner (α β : Type*) where
  /-- The decision at the head of the unread input. -/
  verdict : List α → Verdict β
  /-- With nothing to read there is nothing to decide. -/
  verdict_nil : verdict [] = .wait
  /-- A token takes at least one symbol, and only symbols that are there. -/
  token_bounds : ∀ {s b n}, verdict s = .token b n → 0 < n ∧ n ≤ s.length
  /-- A decision stands when more input arrives. -/
  verdict_append : ∀ {s}, verdict s ≠ .wait → ∀ t, verdict (s ++ t) = verdict s

namespace Scanner

variable {α β : Type*} (S : Scanner α β)

theorem ne_nil_of_skip {s : List α} (h : S.verdict s = .skip) : s ≠ [] := by
  rintro rfl
  rw [S.verdict_nil] at h
  cases h

/-- Scan the input from the left: the tokens found, and the input left unread. -/
def scan (s : List α) : List β × List α :=
  match h : S.verdict s with
  | .wait => ([], s)
  | .skip => scan s.tail
  | .token b n => (b :: (scan (s.drop n)).1, (scan (s.drop n)).2)
termination_by s.length
decreasing_by
  · have := List.length_pos_of_ne_nil (S.ne_nil_of_skip h)
    rw [List.length_tail]; omega
  all_goals
    have := S.token_bounds h
    rw [List.length_drop]; omega

theorem scan_of_wait {s : List α} (h : S.verdict s = .wait) : S.scan s = ([], s) := by
  rw [scan]; split <;> simp_all

theorem scan_of_skip {s : List α} (h : S.verdict s = .skip) : S.scan s = S.scan s.tail := by
  rw [scan]; split <;> simp_all

theorem scan_of_token {s : List α} {b : β} {n : ℕ} (h : S.verdict s = .token b n) :
    S.scan s = (b :: (S.scan (s.drop n)).1, (S.scan (s.drop n)).2) := by
  rw [scan]; split <;> simp_all

/-- Induction along a scan: one case per decision. -/
theorem scan_induction {P : List α → Prop} (wait : ∀ s, S.verdict s = .wait → P s)
    (skip : ∀ s, S.verdict s = .skip → P s.tail → P s)
    (token : ∀ s b n, S.verdict s = .token b n → P (s.drop n) → P s) (s : List α) : P s := by
  induction hn : s.length using Nat.strong_induction_on generalizing s with
  | _ N ih =>
    cases h : S.verdict s with
    | wait => exact wait s h
    | skip =>
      have := List.length_pos_of_ne_nil (S.ne_nil_of_skip h)
      exact skip s h (ih _ (by rw [List.length_tail]; omega) _ rfl)
    | token b n =>
      have := S.token_bounds h
      exact token s b n h (ih _ (by rw [List.length_drop]; omega) _ rfl)

/-- **Scanning in two parts**: scan the first part, then its unread rest with the second. -/
theorem scan_append (s t : List α) :
    S.scan (s ++ t) =
      ((S.scan s).1 ++ (S.scan ((S.scan s).2 ++ t)).1, (S.scan ((S.scan s).2 ++ t)).2) := by
  induction s using S.scan_induction with
  | wait s h => simp [S.scan_of_wait h]
  | skip s h ih =>
    have happ : S.verdict (s ++ t) = .skip := by
      rw [S.verdict_append (by simp [h]), h]
    rw [S.scan_of_skip happ, S.scan_of_skip h, ← ih,
      List.tail_append_of_ne_nil (S.ne_nil_of_skip h)]
  | token s b n h ih =>
    have hn := S.token_bounds h
    have happ : S.verdict (s ++ t) = .token b n := by
      rw [S.verdict_append (by simp [h]), h]
    rw [S.scan_of_token happ, S.scan_of_token h, List.drop_append_of_le_length hn.2, ih]
    simp

/-- What a scan leaves unread is input the scanner waits on. -/
theorem verdict_scan_rest (s : List α) : S.verdict (S.scan s).2 = .wait := by
  induction s using S.scan_induction with
  | wait s h => rw [S.scan_of_wait h]; exact h
  | skip s h ih => rw [S.scan_of_skip h]; exact ih
  | token s b n h ih => rw [S.scan_of_token h]; exact ih

/-- Symbols that the scanner skips one by one, whatever they are, do not change what is found behind
them. -/
theorem scan_of_skipped {s : List α} {t : List α}
    (h : ∀ p < s.length, S.verdict ((s ++ t).drop p) = .skip) : S.scan (s ++ t) = S.scan t := by
  induction s with
  | nil => rfl
  | cons a s ih =>
    have hskip : S.verdict (a :: (s ++ t)) = .skip := h 0 (Nat.succ_pos _)
    rw [List.cons_append, S.scan_of_skip hskip]
    exact ih fun p hp => h (p + 1) (Nat.succ_lt_succ hp)

/-! ### Feeding chunks -/

/-- Append a chunk to the buffer and scan it: the new buffer and the tokens found. -/
def feed (buffer chunk : List α) : List α × List β :=
  ((S.scan (buffer ++ chunk)).2, (S.scan (buffer ++ chunk)).1)

/-- Feed a list of chunks. -/
def feedAll : List α → List (List α) → List α × List β
  | buffer, [] => (buffer, [])
  | buffer, chunk :: chunks =>
    ((feedAll (S.feed buffer chunk).1 chunks).1,
      (S.feed buffer chunk).2 ++ (feedAll (S.feed buffer chunk).1 chunks).2)

/-- **The cuts do not matter**: feeding chunks to a buffer the scanner waits on gives the scan
of everything received, tokens and buffer. -/
theorem feedAll_eq {buffer : List α} (h : S.verdict buffer = .wait) (chunks : List (List α)) :
    S.feedAll buffer chunks =
      ((S.scan (buffer ++ chunks.flatten)).2, (S.scan (buffer ++ chunks.flatten)).1) := by
  induction chunks generalizing buffer with
  | nil => simp [feedAll, S.scan_of_wait h]
  | cons chunk chunks ih =>
    have hrest : S.verdict (S.feed buffer chunk).1 = .wait := S.verdict_scan_rest _
    rw [feedAll, ih hrest, List.flatten_cons, ← List.append_assoc, S.scan_append (buffer ++ chunk)]
    rfl

/-! ### Encoded tokens -/

/-- If the scanner reads the token `b` off the front of its encoding, whatever follows, then a
sequence of encoded tokens scans back to the sequence, and scanning goes on behind it. -/
theorem scan_encoded {encode : β → List α} {bs : List β} (t : List α)
    (h : ∀ b ∈ bs, ∀ t, S.verdict (encode b ++ t) = .token b (encode b).length) :
    S.scan (bs.flatMap encode ++ t) = (bs ++ (S.scan t).1, (S.scan t).2) := by
  induction bs with
  | nil => simp
  | cons b bs ih =>
    rw [List.flatMap_cons, List.append_assoc, S.scan_of_token (h b (List.mem_cons_self ..) _),
      List.drop_left, ih fun c hc => h c (List.mem_cons_of_mem _ hc)]
    rfl

end Scanner

end Axtp
