/-
  Sequences of records, each of a tag byte, a length byte and that many bytes.

  `loop` reads such a sequence and hands the records to a step that may fail, as a
  decoder does; it succeeds exactly on the records written one after the other, if the
  steps do (`loop_eq_ok_iff`), and it fails as a step does or because a record is cut off
  (`loop_eq_error_iff`). `foldlM_invariant` is the induction rule for the steps, and
  `foldlM_perm` says that steps that commute may be taken in any order.
-/
import Mathlib

namespace Axtp

namespace Tlv8

universe u v

variable {σ τ α : Type u} {ε : Type v}

/-! ### Computations that may fail -/

theorem bind_eq_ok_iff {x : Except ε σ} {f : σ → Except ε τ} {t : τ} :
    x >>= f = .ok t ↔ ∃ s, x = .ok s ∧ f s = .ok t := by
  cases x with
  | error failure =>
    constructor
    · intro h
      cases h
    · rintro ⟨s, h, -⟩
      cases h
  | ok s =>
    constructor
    · intro h
      exact ⟨s, rfl, h⟩
    · rintro ⟨s', h, hf⟩
      obtain rfl := Except.ok.inj h
      exact hf

theorem bind_eq_error {x : Except ε σ} {f : σ → Except ε τ} {failure : ε}
    (h : x >>= f = .error failure) :
    x = .error failure ∨ ∃ s, x = .ok s ∧ f s = .error failure := by
  cases x with
  | error failure' => exact .inl (congrArg _ (Except.error.inj h))
  | ok s => exact .inr ⟨s, rfl, h⟩

/-! ### Records -/

/-- A record as it is written. Its data has to be shorter than 256 bytes. -/
def record (entry : UInt8 × List UInt8) : List UInt8 :=
  entry.1 :: UInt8.ofNat entry.2.length :: entry.2

/-- The data of each record fits its length byte. -/
def Fit (records : List (UInt8 × List UInt8)) : Prop := ∀ entry ∈ records, entry.2.length < 256

@[simp] theorem length_record (entry : UInt8 × List UInt8) :
    (record entry).length = entry.2.length + 2 := rfl

/-- Read records and hand them to `step`; where a record is cut off, fail with `cut`. A record takes
at least two bytes, so one turn for each byte is enough. -/
def loop (cut : ε) (step : σ → UInt8 → List UInt8 → Except ε σ) :
    ℕ → σ → List UInt8 → Except ε σ
  | 0, s, _ => .ok s
  | _ + 1, s, [] => .ok s
  | _ + 1, _, [_] => .error cut
  | turns + 1, s, tag :: length :: rest =>
    if length.toNat ≤ rest.length then
      step s tag (rest.take length.toNat) >>= fun s =>
        loop cut step turns s (rest.drop length.toNat)
    else .error cut

/-- What is read at the head of the bytes is a record. -/
theorem eq_record_append {tag length : UInt8} {rest : List UInt8} (h : length.toNat ≤ rest.length) :
    tag :: length :: rest = record (tag, rest.take length.toNat) ++ rest.drop length.toNat := by
  have hlength : (rest.take length.toNat).length = length.toNat := by
    rw [List.length_take]
    omega
  simp only [record, hlength, UInt8.ofNat_toNat, List.cons_append, List.take_append_drop]

variable {cut : ε} {step : σ → UInt8 → List UInt8 → Except ε σ}

theorem loop_record {entry : UInt8 × List UInt8} (h : entry.2.length < 256) (turns : ℕ) (s : σ)
    (rest : List UInt8) :
    loop cut step (turns + 1) s (record entry ++ rest) =
      step s entry.1 entry.2 >>= fun s => loop cut step turns s rest := by
  have hlength : (UInt8.ofNat entry.2.length).toNat = entry.2.length := by
    rw [UInt8.toNat_ofNat']
    exact Nat.mod_eq_of_lt h
  rw [record, List.cons_append, List.cons_append, loop, hlength, List.length_append,
    if_pos (Nat.le_add_right ..), List.take_left, List.drop_left]

/-- The bytes of a sequence say which records they are. -/
theorem flatMap_record_inj {records records' : List (UInt8 × List UInt8)} (h : Fit records)
    (h' : Fit records') (heq : records.flatMap record = records'.flatMap record) :
    records = records' := by
  induction records generalizing records' with
  | nil =>
    rcases records' with _ | ⟨entry, records'⟩
    · rfl
    · cases heq
  | cons entry records ih =>
    rcases records' with _ | ⟨entry', records'⟩
    · cases heq
    · rw [Fit, List.forall_mem_cons] at h h'
      simp only [List.flatMap_cons, record, List.cons_append, List.cons.injEq] at heq
      obtain ⟨htag, hlength, hrest⟩ := heq
      have hsame : entry.2.length = entry'.2.length := by
        have := congrArg UInt8.toNat hlength
        rw [UInt8.toNat_ofNat', UInt8.toNat_ofNat'] at this
        have := h.1
        have := h'.1
        omega
      obtain ⟨hdata, hrest⟩ := List.append_inj hrest hsame
      rw [ih h.2 h'.2 hrest, Prod.ext htag hdata]

variable (cut step) in
/-- The loop on records written one after the other, whether the steps succeed or not. -/
theorem loop_flatMap_record {turns : ℕ} (s : σ) {records : List (UInt8 × List UInt8)}
    (rest : List UInt8) (hfit : Fit records)
    (h : (records.flatMap record ++ rest).length ≤ turns) :
    ∃ turns', rest.length ≤ turns' ∧ loop cut step turns s (records.flatMap record ++ rest) =
      records.foldlM (fun s entry => step s entry.1 entry.2) s >>= fun s =>
        loop cut step turns' s rest := by
  induction records generalizing s turns with
  | nil => exact ⟨turns, h, rfl⟩
  | cons entry records ih =>
    rw [Fit, List.forall_mem_cons] at hfit
    rw [List.flatMap_cons, List.append_assoc, List.length_append, length_record] at h
    obtain ⟨turns, rfl⟩ : ∃ k, turns = k + 1 := ⟨turns - 1, by omega⟩
    rw [List.flatMap_cons, List.append_assoc, loop_record hfit.1]
    rcases hstep : step s entry.1 entry.2 with failure | t
    · refine ⟨rest.length, le_rfl, ?_⟩
      rw [List.foldlM_cons, hstep]
      rfl
    · have hle : (records.flatMap record ++ rest).length ≤ turns := by omega
      obtain ⟨turns', hturns', hloop⟩ := ih t hfit.2 hle
      refine ⟨turns', hturns', ?_⟩
      rw [List.foldlM_cons, hstep]
      exact hloop

/-- **The loop** succeeds on the records written one after the other whose steps succeed, and on
nothing else. -/
theorem loop_eq_ok_iff {turns : ℕ} {s s' : σ} {data : List UInt8} (h : data.length ≤ turns) :
    loop cut step turns s data = .ok s' ↔
      ∃ records, data = records.flatMap record ∧ Fit records ∧
        records.foldlM (fun s entry => step s entry.1 entry.2) s = .ok s' := by
  constructor
  · intro hloop
    induction turns generalizing s data with
    | zero =>
      obtain rfl := List.length_eq_zero_iff.mp (Nat.le_zero.mp h)
      exact ⟨[], rfl, by simp [Fit], hloop⟩
    | succ turns ih =>
      rcases data with _ | ⟨tag, _ | ⟨length, rest⟩⟩
      · exact ⟨[], rfl, by simp [Fit], hloop⟩
      · cases hloop
      · rw [loop] at hloop
        split_ifs at hloop with hle
        -- one record, and the rest by induction on the turns
        obtain ⟨t, hstep, hrest⟩ := bind_eq_ok_iff.mp hloop
        have hdrop : (rest.drop length.toNat).length ≤ turns := by
          simp only [List.length_cons, List.length_drop] at h ⊢
          omega
        obtain ⟨records, hdata, hfit, hfold⟩ := ih hdrop hrest
        refine ⟨(tag, rest.take length.toNat) :: records, ?_, ?_, ?_⟩
        · rw [eq_record_append hle, hdata, List.flatMap_cons]
        · intro entry hmem
          rcases List.mem_cons.mp hmem with rfl | hmem
          · have := length.toNat_lt
            simp only [List.length_take]
            omega
          · exact hfit entry hmem
        · rw [List.foldlM_cons]
          exact bind_eq_ok_iff.mpr ⟨t, hstep, hfold⟩
  · rintro ⟨records, rfl, hfit, hfold⟩
    -- more turns than records are left over, and do nothing
    rw [← List.append_nil (records.flatMap record)] at h ⊢
    obtain ⟨turns', -, hloop⟩ := loop_flatMap_record cut step s [] hfit h
    rw [hloop, hfold]
    cases turns' <;> rfl

variable (cut step) in
/-- **The loop fails** for another reason than a record that is cut off exactly where the records
read so far succeed and the next one, which is complete, fails. -/
theorem loop_eq_error_iff {turns : ℕ} {s : σ} {data : List UInt8} {failure : ε}
    (h : data.length ≤ turns) (hcut : failure ≠ cut) :
    loop cut step turns s data = .error failure ↔
      ∃ done entry rest, data = done.flatMap record ++ (record entry ++ rest) ∧ Fit done ∧
        entry.2.length < 256 ∧ ∃ t, done.foldlM (fun s entry => step s entry.1 entry.2) s = .ok t ∧
          step t entry.1 entry.2 = .error failure := by
  constructor
  · intro hloop
    induction turns generalizing s data with
    | zero => cases hloop
    | succ turns ih =>
      rcases data with _ | ⟨tag, _ | ⟨length, rest⟩⟩
      · cases hloop
      · exact absurd (Except.error.inj hloop).symm hcut
      · rw [loop] at hloop
        split_ifs at hloop with hle
        · have hfit : (rest.take length.toNat).length < 256 := by
            have := length.toNat_lt
            rw [List.length_take]
            omega
          -- either this record fails, or it is read and a later one does
          rcases bind_eq_error hloop with hstep | ⟨t, hstep, hrest⟩
          · refine ⟨[], (tag, rest.take length.toNat), rest.drop length.toNat, ?_, ?_, hfit, s, rfl,
              hstep⟩
            · exact eq_record_append hle
            · intro entry hmem
              cases hmem
          · -- the first record is read, and what follows it fails
            have hdrop : (rest.drop length.toNat).length ≤ turns := by
              simp only [List.length_cons, List.length_drop] at h ⊢
              omega
            obtain ⟨done, entry, tail, hdata, hdone, hentry, t', hfold, herror⟩ := ih hdrop hrest
            refine ⟨(tag, rest.take length.toNat) :: done, entry, tail, ?_, ?_, hentry, t', ?_,
              herror⟩
            · rw [eq_record_append hle, hdata, List.flatMap_cons, List.append_assoc]
            · exact List.forall_mem_cons.mpr ⟨hfit, hdone⟩
            · rw [List.foldlM_cons]
              exact bind_eq_ok_iff.mpr ⟨t, hstep, hfold⟩
        · exact absurd (Except.error.inj hloop).symm hcut
  · rintro ⟨done, entry, rest, rfl, hfit, hentry, t, hfold, hstep⟩
    obtain ⟨turns', hturns', hloop⟩ := loop_flatMap_record cut step s _ hfit h
    rw [List.length_append, length_record] at hturns'
    obtain ⟨turns', rfl⟩ : ∃ k, turns' = k + 1 := ⟨turns' - 1, by omega⟩
    rw [hloop, hfold]
    change loop cut step (turns' + 1) t (record entry ++ rest) = .error failure
    rw [loop_record hentry, hstep]
    rfl

/-- The beginning of a record that is not all of it. -/
def Truncated (bytes : List UInt8) : Prop :=
  bytes ≠ [] ∧ ∃ entry : UInt8 × List UInt8, entry.2.length < 256 ∧ bytes <+: record entry ∧
    bytes ≠ record entry

theorem loop_truncated {turns : ℕ} {s : σ} {bytes : List UInt8} (h : Truncated bytes)
    (hturns : bytes.length ≤ turns) : loop cut step turns s bytes = .error cut := by
  obtain ⟨hne, entry, hfit, ⟨rest, hrest⟩, hnot⟩ := h
  rcases bytes with _ | ⟨tag, _ | ⟨length, data⟩⟩
  · exact absurd rfl hne
  · cases turns with
    | zero => cases hturns
    | succ turns => rfl
  · cases turns with
    | zero => cases hturns
    | succ turns =>
      rw [record, List.cons_append, List.cons_append, List.cons.injEq, List.cons.injEq] at hrest
      obtain ⟨rfl, rfl, hdata⟩ := hrest
      have hlength : data.length + rest.length = entry.2.length := by
        rw [← List.length_append, hdata]
      have hpos : rest ≠ [] := by
        rintro rfl
        rw [List.append_nil] at hdata
        exact hnot (by rw [record, hdata])
      have := List.length_pos_iff.mpr hpos
      rw [loop, if_neg]
      rw [UInt8.toNat_ofNat']
      omega

/-- **Order rule** for steps that may fail: where each two of them give the same in either order,
all of them do in every order. -/
theorem foldlM_perm {step : σ → α → Except ε σ} {as bs : List α} (h : as.Perm bs)
    (hcomm : ∀ a ∈ as, ∀ b ∈ as, ∀ s,
      (step s a >>= fun s => step s b) = step s b >>= fun s => step s a)
    (s : σ) : as.foldlM step s = bs.foldlM step s := by
  induction h generalizing s with
  | nil => rfl
  | cons a h ih =>
    rw [List.foldlM_cons, List.foldlM_cons]
    refine congrArg _ (funext (ih fun b hb c hc => ?_))
    exact hcomm b (List.mem_cons_of_mem _ hb) c (List.mem_cons_of_mem _ hc)
  | swap a b l =>
    simp only [List.foldlM_cons]
    rw [← bind_assoc, ← bind_assoc, hcomm b (by simp) a (by simp)]
  | trans h h' ih ih' =>
    refine (ih hcomm s).trans (ih' (fun a ha b hb => ?_) s)
    exact hcomm a (h.mem_iff.mpr ha) b (h.mem_iff.mpr hb)

/-- **Invariant rule** for steps that may fail: what each successful step preserves of the state
together with the inputs so far holds in the end. -/
theorem foldlM_invariant {step : σ → α → Except ε σ} {I : List α → σ → Prop} {done as : List α}
    {s s' : σ}
    (hstep : ∀ a ∈ as, ∀ done s s', I done s → step s a = .ok s' → I (done ++ [a]) s')
    (hs : I done s) (h : as.foldlM step s = .ok s') : I (done ++ as) s' := by
  induction as generalizing done s with
  | nil =>
    obtain rfl := Except.ok.inj h
    rw [List.append_nil]
    exact hs
  | cons a as ih =>
    rw [List.foldlM_cons] at h
    obtain ⟨t, ha, hrest⟩ := bind_eq_ok_iff.mp h
    rw [List.forall_mem_cons] at hstep
    have hall := ih hstep.2 (hstep.1 done s t hs ha) hrest
    rw [List.append_assoc, List.singleton_append] at hall
    exact hall

end Tlv8

end Axtp
