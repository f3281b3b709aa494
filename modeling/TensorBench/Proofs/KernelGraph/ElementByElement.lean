import TensorBench.Proofs.KernelGraph.Meaning

/-!
Execution element by element. A sound step gives an output that is blank beyond its reach the
contents it means, except where a matrix has no rows to find a column in, or where the rows of a
concatenation do not divide the output.
-/
namespace TensorBench.Execution

variable {α : Type} [Scalar α]

/-- The steps that cannot be executed element by element. -/
def RefusedByElements (step : Step) : Prop :=
  match step.operation with
  | .linear inner _ w => w.length / inner = 0
  | .combine .. => False
  | .concat parts => Words.wrap (rowWidth parts) = 0 ∨ ¬ rowWidth parts ∣ step.output.length
  | .transform .. => False

instance : (step : Step) → Decidable (RefusedByElements step)
  | ⟨.linear inner _ w, _⟩ => inferInstanceAs (Decidable (w.length / inner = 0))
  | ⟨.combine .., _⟩ => inferInstanceAs (Decidable False)
  | ⟨.concat parts, output⟩ => inferInstanceAs (Decidable (Words.wrap (rowWidth parts) = 0 ∨
      ¬ rowWidth parts ∣ output.length))
  | ⟨.transform .., _⟩ => inferInstanceAs (Decidable False)

theorem byPosition?_eq_contents {step : Step} {old : List α} {f : Nat → α → Option α} (start : α)
    (data : Array α) (hold : Blank step old)
    (hreach : ∀ i before, i < step.output.length → i < reach step →
      f i before = some (valueAt start data step.operation i))
    (hrest : ∀ i before, i < step.output.length → reach step ≤ i → f i before = some before) :
    byPosition? old f = some (contents start data step) := by
  rw [contents, ← hold.length_eq]
  refine Sequencing.mapM_zipIdx_eq_some old _ _ fun i before hbefore => ?_
  obtain ⟨hi, -⟩ := List.getElem?_eq_some_iff.mp hbefore
  rw [hold.length_eq] at hi
  by_cases hinside : i < reach step
  · rw [if_pos hinside]
    exact hreach i before hi hinside
  · have hbeyond := Nat.le_of_not_lt hinside
    rw [if_neg hinside, ← Option.some.inj (hbefore.symm.trans (hold.rest_eq i hbeyond hi))]
    exact hrest i before hi hbeyond

omit [Scalar α] in
theorem byPosition?_eq_none {old : List α} {f : Nat → α → Option α} (i : Nat)
    (hi : i < old.length) (h : ∀ before, f i before = none) : byPosition? old f = none := by
  have hentry : (old[i], i) ∈ old.zipIdx :=
    List.mem_zipIdx_iff_getElem?.mpr (List.getElem?_eq_getElem hi)
  exact Sequencing.mapM_eq_none hentry (h old[i])

theorem chunk_window (data : Array α) (start length width index : Nat)
    (h : (index + 1) * width ≤ length) :
    chunk width index (window data start length).toArray =
      window data (start + index * width) width :=
  extract_window data start length width index h

theorem executeParallel_linear (inner : Nat) (x w output : Slice) (data : Array α)
    (old : List α) (hsound : Sound ⟨.linear inner x w, output⟩ data.size)
    (hold : Blank ⟨.linear inner x w, output⟩ old) (hcolumns : w.length / inner ≠ 0) :
    executeParallel ⟨.linear inner x w, output⟩ data old =
      some (contents Scalar.negZero data ⟨.linear inner x w, output⟩) := by
  obtain ⟨batch, hinner, -, hx, hreach, -, hxin, hwin⟩ := hsound.linear_rows
  generalize houter : w.length / inner = outer at *
  have hpos : 0 < outer := Nat.pos_of_ne_zero hcolumns
  have hpositive : ¬ (inner = 0 ∨ outer = 0) := by omega
  simp only [executeParallel, read?_eq_some data x hxin, read?_eq_some data w hwin,
    Option.bind_eq_bind, Option.bind_some, List.size_toArray, length_window, houter,
    if_neg hpositive]
  refine byPosition?_eq_contents _ data hold (fun i _ _ hi => ?_) fun i _ _ hi => ?_
  · have hrow : i / outer < batch :=
      Nat.div_lt_of_lt_mul (by rw [Nat.mul_comm, ← hreach]; exact hi)
    have hunit : i % outer < w.length / inner := houter.symm ▸ Nat.mod_lt i hpos
    have hxrow : (i / outer + 1) * inner ≤ x.length := hx ▸ Nat.mul_le_mul_right inner hrow
    have hwrow : (i % outer + 1) * inner ≤ w.length := (Nat.le_div_iff_mul_le hinner).mp hunit
    have hstarts : i / outer * inner < x.length ∧ i % outer * inner < w.length := by
      rw [Nat.succ_mul] at hxrow hwrow
      omega
    rw [if_pos hstarts, chunk_window data _ _ _ _ hxrow, chunk_window data _ _ _ _ hwrow]
    simp only [valueAt, houter]
    rfl
  · -- a row behind those of the input
    have hrow : batch ≤ i / outer := (Nat.le_div_iff_mul_le hpos).mpr (hreach ▸ hi)
    have hbeyond : x.length ≤ i / outer * inner := hx ▸ Nat.mul_le_mul_right inner hrow
    rw [if_neg fun h => absurd h.1 (Nat.not_lt.mpr hbeyond)]

theorem executeParallel_no_rows (inner : Nat) (x w output : Slice) (data : Array α)
    (old : List α) (hsound : Sound ⟨.linear inner x w, output⟩ data.size)
    (hempty : w.length / inner = 0) :
    executeParallel ⟨.linear inner x w, output⟩ data old = none := by
  obtain ⟨-, -, -, -, -, -, -, hwin⟩ := hsound.linear_rows
  simp only [executeParallel, read?_eq_some data w hwin, Option.bind_eq_bind, Option.bind_some,
    List.size_toArray, length_window, hempty]
  cases read? data x with
  | none => rfl
  | some xs => simp

theorem executeParallel_combine (function : BinaryFunction) (x b output : Slice)
    (data : Array α) (old : List α) (hsound : Sound ⟨.combine function x b, output⟩ data.size)
    (hold : Blank ⟨.combine function x b, output⟩ old) :
    executeParallel ⟨.combine function x b, output⟩ data old =
      some (contents Scalar.negZero data ⟨.combine function x b, output⟩) := by
  obtain ⟨hx, hb, hxin, hbin⟩ := hsound.combine
  simp only [executeParallel, read?_eq_some data x hxin, read?_eq_some data b hbin,
    Option.bind_eq_bind, Option.bind_some, List.size_toArray, length_window]
  refine byPosition?_eq_contents _ data hold (fun i _ hlength _ => ?_)
    fun i _ hlength hbeyond => absurd hlength (Nat.not_lt.mpr hbeyond)
  have hperiod : 0 < b.length := Nat.pos_of_dvd_of_pos hb (Nat.zero_lt_of_lt hlength)
  rw [List.getElem?_toArray, List.getElem?_toArray, getElem?_window data _ _ i (hx ▸ hlength),
    getElem?_window data _ _ _ (Nat.mod_lt i hperiod)]
  rfl

theorem partAt?_eq_some (data : Array α) (rows row : Nat) (parts : List (Slice × Nat))
    (hrow : row < rows) (hparts : ∀ part ∈ parts, part.1.length = rows * part.2 ∧
      part.1.start + part.1.length ≤ data.size) (column : Nat)
    (hcolumn : column < rowWidth parts) :
    partAt? data row parts column = some (element data (sourceOf row parts column)) := by
  induction parts generalizing column with
  | nil => cases hcolumn
  | cons part rest ih =>
    obtain ⟨slice, share⟩ := part
    rw [partAt?, sourceOf]
    by_cases hlt : column < share
    · obtain ⟨hlength, hend⟩ := hparts _ List.mem_cons_self
      have hlast : (row + 1) * share ≤ slice.length :=
        hlength ▸ Nat.mul_le_mul_right share hrow
      rw [Nat.succ_mul] at hlast
      dsimp only at hend ⊢
      rw [if_pos hlt, if_pos hlt, if_pos (by omega), getElem?_eq_element data _ (by omega)]
    · rw [rowWidth] at hcolumn
      rw [if_neg hlt, if_neg hlt]
      refine ih (fun p hp => hparts p (List.mem_cons_of_mem _ hp)) _ ?_
      dsimp only at *
      omega

theorem executeParallel_concat (parts : List (Slice × Nat)) (output : Slice) (data : Array α)
    (old : List α) (hsound : Sound ⟨.concat parts, output⟩ data.size)
    (hold : Blank ⟨.concat parts, output⟩ old)
    (hrefused : ¬ RefusedByElements ⟨.concat parts, output⟩) :
    executeParallel ⟨.concat parts, output⟩ data old =
      some (contents Scalar.negZero data ⟨.concat parts, output⟩) := by
  obtain ⟨rows, hwidth, -, hrows, hlimit, hparts⟩ := hsound.concat_rows
  have hlength : old.length = output.length := hold.length_eq
  simp only [RefusedByElements, not_or, not_not] at hrefused
  obtain ⟨hpos, hdvd⟩ := hrefused
  simp only [executeParallel, rowTotal_eq_rowWidth, if_neg hpos]
  refine byPosition?_eq_contents _ data hold (fun i _ hi _ => ?_) fun i _ hi hbeyond => ?_
  · have hword : Words.wrap (rowWidth parts) = rowWidth parts := by
      refine Words.wrap_of_lt (Nat.lt_of_le_of_lt (Nat.le_of_dvd ?_ hdvd) hlimit)
      exact Nat.zero_lt_of_lt hi
    have hrow : i / rowWidth parts < output.length / rowWidth parts :=
      Nat.div_lt_div_of_lt_of_dvd hdvd hi
    have hroom : (i / rowWidth parts + 1) * rowWidth parts ≤ old.length :=
      hlength ▸ (Nat.le_div_iff_mul_le hwidth).mp hrow
    rw [Nat.succ_mul] at hroom
    rw [hword, if_pos (by omega)]
    exact partAt?_eq_some data rows _ parts (Nat.lt_of_lt_of_le hrow hrows) hparts _
      (Nat.mod_lt i hwidth)
  · simp only [reach, Nat.div_mul_cancel hdvd] at hbeyond
    exact absurd hi (Nat.not_lt.mpr hbeyond)

/-- The first row that is cut short has no room for all parts. -/
theorem executeParallel_uneven (parts : List (Slice × Nat)) (output : Slice) (data : Array α)
    (old : List α) (hsound : Sound ⟨.concat parts, output⟩ data.size)
    (hlength : old.length = output.length)
    (hrefused : RefusedByElements ⟨.concat parts, output⟩) :
    executeParallel ⟨.concat parts, output⟩ data old = none := by
  obtain ⟨rows, hwidth, -, -, -, -⟩ := hsound.concat_rows
  simp only [RefusedByElements, ← hlength] at hrefused
  simp only [executeParallel, rowTotal_eq_rowWidth]
  have hle := Words.wrap_le (rowWidth parts)
  generalize Words.wrap (rowWidth parts) = width at *
  by_cases hzero : width = 0
  · rw [if_pos hzero]
  · have huneven := hrefused.resolve_left hzero
    rw [if_neg hzero]
    rcases Nat.lt_or_eq_of_le hle with hlt | rfl
    · have hnonempty : 0 < old.length :=
        Nat.pos_of_ne_zero fun hempty => huneven (hempty ▸ Nat.dvd_zero _)
      exact byPosition?_eq_none 0 hnonempty fun _ => if_neg (by omega)
    · have hrest := Nat.mod_lt old.length hwidth
      have hsplit := Nat.div_add_mod' old.length (rowWidth parts)
      have hpart : old.length % rowWidth parts ≠ 0 := fun h => huneven (Nat.dvd_of_mod_eq_zero h)
      refine byPosition?_eq_none (old.length / rowWidth parts * rowWidth parts) (by omega) fun _ => ?_
      rw [Nat.mul_div_cancel _ hwidth]
      exact if_neg (by omega)

theorem executeParallel_transform (function : UnaryFunction) (x output : Slice)
    (data : Array α) (old : List α) (hsound : Sound ⟨.transform function x, output⟩ data.size)
    (hold : Blank ⟨.transform function x, output⟩ old) :
    executeParallel ⟨.transform function x, output⟩ data old =
      some (contents Scalar.negZero data ⟨.transform function x, output⟩) := by
  obtain ⟨hx, hxin⟩ := hsound.transform
  simp only [executeParallel, read?_eq_some data x hxin, Option.bind_eq_bind, Option.bind_some]
  refine byPosition?_eq_contents _ data hold (fun i _ hlength _ => ?_)
    fun i _ hlength hbeyond => absurd hlength (Nat.not_lt.mpr hbeyond)
  rw [List.getElem?_toArray, getElem?_window data _ _ i (hx ▸ hlength)]
  rfl

/-! ### All steps -/

/-- A sound step gives its output the contents it means, with sums from minus zero. -/
theorem executeParallel_eq_contents (step : Step) (data : Array α) (old : List α)
    (hsound : Sound step data.size) (hold : Blank step old) (hrefused : ¬ RefusedByElements step) :
    executeParallel step data old = some (contents Scalar.negZero data step) := by
  obtain ⟨operation, output⟩ := step
  cases operation with
  | linear inner x w => exact executeParallel_linear inner x w output data old hsound hold hrefused
  | combine function x b => exact executeParallel_combine function x b output data old hsound hold
  | concat parts => exact executeParallel_concat parts output data old hsound hold hrefused
  | transform function x => exact executeParallel_transform function x output data old hsound hold

theorem executeParallel_eq_none (step : Step) (data : Array α) (old : List α)
    (hsound : Sound step data.size) (hold : Blank step old) (hrefused : RefusedByElements step) :
    executeParallel step data old = none := by
  obtain ⟨operation, output⟩ := step
  cases operation with
  | linear inner x w => exact executeParallel_no_rows inner x w output data old hsound hrefused
  | combine function x b => exact hrefused.elim
  | concat parts =>
    exact executeParallel_uneven parts output data old hsound hold.length_eq hrefused
  | transform function x => exact hrefused.elim

end TensorBench.Execution
