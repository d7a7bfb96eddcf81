/-
  "Since" on histories.

  A history is the list of the events so far, oldest first. A property of an event may
  look at the history before it. `Since keeps starts` holds of a history if some event
  starts it and every event after that one keeps it. Whether it holds after one more event
  depends on that event and on whether it held before (`since_concat`): this is how a
  machine that remembers it in one field is shown to be right, by induction on the history
  from its end.
-/
import Mathlib.Data.List.Basic

namespace Axtp

variable {α : Type*} {keeps starts : List α → α → Prop}

/-- Some event starts it, and every later event keeps it. -/
def Since (keeps starts : List α → α → Prop) (history : List α) : Prop :=
  ∃ before a after, history = before ++ a :: after ∧ starts before a ∧
    ∀ mid b rest, after = mid ++ b :: rest → keeps (before ++ a :: mid) b

theorem not_since_nil : ¬ Since keeps starts [] := by
  rintro ⟨before, a, after, h, -⟩
  simp at h

/-- **One more event** starts it, or keeps it if it held before. -/
theorem since_concat {history : List α} {a : α} :
    Since keeps starts (history ++ [a]) ↔
      starts history a ∨ (Since keeps starts history ∧ keeps history a) := by
  constructor
  · rintro ⟨before, b, after, heq, hstarts, hkeeps⟩
    rcases List.eq_nil_or_concat after with rfl | ⟨after, c, rfl⟩
    · obtain ⟨rfl, hab⟩ := List.append_inj' heq rfl
      obtain rfl := List.singleton_inj.mp hab
      exact .inl hstarts
    · rw [List.concat_eq_append, ← List.cons_append, ← List.append_assoc] at heq
      obtain ⟨rfl, hac⟩ := List.append_inj' heq rfl
      obtain rfl := List.singleton_inj.mp hac
      refine .inr ⟨⟨before, b, after, rfl, hstarts, fun mid c rest hafter => ?_⟩, ?_⟩
      · exact hkeeps mid c (rest ++ [a]) (by simp [hafter])
      · exact hkeeps after a [] (by simp)
  · rintro (hstarts | ⟨⟨before, b, after, rfl, hstarts, hkeeps⟩, hkeep⟩)
    · exact ⟨history, a, [], rfl, hstarts, fun mid b rest h => by simp at h⟩
    · refine ⟨before, b, after ++ [a], by simp, hstarts, fun mid c rest hafter => ?_⟩
      rcases List.eq_nil_or_concat rest with rfl | ⟨rest, d, rfl⟩
      · obtain ⟨rfl, heq⟩ := List.append_inj' hafter rfl
        obtain rfl := List.singleton_inj.mp heq
        exact hkeep
      · rw [List.concat_eq_append, ← List.cons_append, ← List.append_assoc] at hafter
        exact hkeeps mid c rest (List.append_inj' hafter rfl).1

/-- Where an event is judged without the history before it, the events after the one that
starts it are just the members of the rest. -/
theorem since_iff_exists_forall {keeps starts : α → Prop} {history : List α} :
    Since (fun _ => keeps) (fun _ => starts) history ↔
      ∃ before a after, history = before ++ a :: after ∧ starts a ∧ ∀ b ∈ after, keeps b := by
  constructor
  · rintro ⟨before, a, after, heq, hstarts, hkeeps⟩
    refine ⟨before, a, after, heq, hstarts, fun b hb => ?_⟩
    obtain ⟨mid, rest, rfl⟩ := List.append_of_mem hb
    exact hkeeps mid b rest rfl
  · rintro ⟨before, a, after, heq, hstarts, hkeeps⟩
    refine ⟨before, a, after, heq, hstarts, fun mid b rest hafter => ?_⟩
    exact hkeeps b (by rw [hafter]; exact List.mem_append_cons_self)

end Axtp
