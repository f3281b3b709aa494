import TensorBench.Proofs.KernelGraph.Meaning

/-!
Execution row by row. A sound step gives an output that is blank beyond its reach the contents it
means, whatever the output held before. Two kinds of steps are refused: a matrix without rows, since
the output cannot be cut into rows of no elements, and rows of a concatenation that are longer than
their wrapped width.
-/
namespace TensorBench.Execution

variable {α : Type} [Scalar α]

omit [Scalar α] in
theorem split_eq_map (width count : Nat) (values : List α) :
    Rows.split width count values =
      (List.range count).map fun row => (values.drop (row * width)).take width := by
  induction count generalizing values with
  | zero => rfl
  | succ count ih =>
    rw [Rows.split, ih, List.range_succ_eq_map, List.map_cons, List.map_map, Nat.zero_mul,
      List.drop_zero]
    refine congrArg _ (List.map_congr_left fun row _ => ?_)
    simp only [List.drop_drop, Function.comp, Nat.succ_mul, Nat.add_comm width]

omit [Scalar α] in
theorem rows?_eq_some (width : Nat) (values : List α) (hwidth : 0 < width) :
    rows? width values = some ((List.range (values.length / width)).map fun row =>
      (values.drop (row * width)).take width) := by
  rw [rows?, if_neg (Nat.ne_of_gt hwidth), split_eq_map]

theorem rows?_window (data : Array α) (start width length : Nat) (hwidth : 0 < width) :
    rows? width (window data start length) =
      some ((List.range (length / width)).map fun row => window data (start + row * width) width) := by
  rw [rows?_eq_some width _ hwidth, length_window]
  refine congrArg some (List.map_congr_left fun row hrow => take_drop_window data _ _ _ _ ?_)
  rw [← Nat.succ_mul]
  calc (row + 1) * width ≤ length / width * width :=
        Nat.mul_le_mul_right width (List.mem_range.mp hrow)
    _ ≤ length := Nat.div_mul_le_self length width

/-- Counting along two ranges stops with the shorter one. -/
theorem zipWith_range {β : Type} (f : Nat → Nat → β) {few many : Nat} (h : few ≤ many) :
    List.zipWith f (List.range few) (List.range many) = (List.range few).map fun i => f i i := by
  apply List.ext_getElem?
  intro i
  by_cases hi : i < few
  · simp [List.getElem?_zipWith, hi, Nat.lt_of_lt_of_le hi h]
  · simp [List.getElem?_zipWith, hi]

omit [Scalar α] in
theorem overlay_eq_left (fresh old : List α) (h : old.length ≤ fresh.length) :
    overlay fresh old = fresh := by
  rw [overlay, List.drop_eq_nil_of_le h, List.append_nil]

omit [Scalar α] in
/-- A row that is replaced by as many values is those values. -/
theorem overlay_take_eq (fresh old : List α) (h : fresh.length = old.length) :
    overlay (fresh.take old.length) old = fresh := by
  rw [← h, List.take_length, overlay_eq_left _ _ (Nat.le_of_eq h.symm)]

/-- The steps that cannot be executed row by row. -/
def RefusedByRows (step : Step) : Prop :=
  match step.operation with
  | .linear inner _ w => w.length / inner = 0
  | .combine .. => False
  | .concat parts =>
      let width := Words.wrap (rowWidth parts)
      width = 0 ∨ width < rowWidth parts ∧ width ≤ step.output.length
  | .transform .. => False

instance : (step : Step) → Decidable (RefusedByRows step)
  | ⟨.linear inner _ w, _⟩ => inferInstanceAs (Decidable (w.length / inner = 0))
  | ⟨.combine .., _⟩ => inferInstanceAs (Decidable False)
  | ⟨.concat parts, output⟩ => inferInstanceAs (Decidable (Words.wrap (rowWidth parts) = 0 ∨
      Words.wrap (rowWidth parts) < rowWidth parts ∧
        Words.wrap (rowWidth parts) ≤ output.length))
  | ⟨.transform .., _⟩ => inferInstanceAs (Decidable False)

/-! ### Products with a matrix -/

theorem executeSequential_linear (inner : Nat) (x w output : Slice) (data : Array α)
    (old : List α) (hsound : Sound ⟨.linear inner x w, output⟩ data.size)
    (hold : Blank ⟨.linear inner x w, output⟩ old) (hcolumns : w.length / inner ≠ 0) :
    executeSequential ⟨.linear inner x w, output⟩ data old =
      some (contents Scalar.negZero data ⟨.linear inner x w, output⟩) := by
  obtain ⟨batch, hinner, -, hx, hreach, hle, hxin, hwin⟩ := hsound.linear_rows
  rw [← hold.overlay_eq hsound.reach_le, hreach]
  generalize houter : w.length / inner = outer at *
  have hpos : 0 < outer := Nat.pos_of_ne_zero hcolumns
  have hxrows := rows?_window data x.start inner x.length hinner
  have hwrows := rows?_window data w.start inner w.length hinner
  have holdrows := rows?_eq_some outer old hpos
  rw [hx, Nat.mul_div_cancel _ hinner, ← hx] at hxrows
  rw [houter] at hwrows
  have hbatch : batch ≤ old.length / outer := by
    rw [hold.length_eq]
    exact (Nat.le_div_iff_mul_le hpos).mpr hle
  simp only [executeSequential, read?_eq_some data x hxin, read?_eq_some data w hwin,
    Option.bind_eq_bind, Option.bind_some, List.size_toArray, length_window, houter, hxrows,
    hwrows, holdrows]
  have hrows : ∀ row ∈ List.range batch,
      overlay ((((List.range outer).map fun unit => window data (w.start + unit * inner) inner).map
          (dot (window data (x.start + row * inner) inner))).take
            ((old.drop (row * outer)).take outer).length) ((old.drop (row * outer)).take outer) =
        (List.range outer).map fun unit =>
          valueAt Scalar.negZero data (.linear inner x w) (row * outer + unit) := by
    intro row hrow
    have hfull : (row + 1) * outer ≤ batch * outer :=
      Nat.mul_le_mul_right outer (List.mem_range.mp hrow)
    have hlength : old.length = output.length := hold.length_eq
    rw [Nat.succ_mul] at hfull
    rw [List.map_map, overlay_take_eq _ _ (by simp; omega)]
    refine List.map_congr_left fun unit hunit => ?_
    exact (valueAt_linear _ data inner x w outer row unit houter (List.mem_range.mp hunit)).symm
  rw [List.zipWith_map, zipWith_range _ hbatch, List.map_congr_left hrows, flatten_rows]

/-- Rows of no elements are refused. -/
theorem executeSequential_no_rows (inner : Nat) (x w output : Slice) (data : Array α)
    (old : List α) (hsound : Sound ⟨.linear inner x w, output⟩ data.size)
    (hempty : w.length / inner = 0) :
    executeSequential ⟨.linear inner x w, output⟩ data old = none := by
  obtain ⟨-, -, -, -, -, -, -, hwin⟩ := hsound.linear_rows
  simp only [executeSequential, read?_eq_some data w hwin, Option.bind_eq_bind, Option.bind_some,
    List.size_toArray, length_window, hempty]
  cases read? data x with
  | none => rfl
  | some xs => simp [rows?]

/-! ### Element-wise functions of two operands -/

section Cycle

variable {β γ : Type} (f : β → γ → β) (whole : List γ)

/-- One value takes one partner, from the next round when the present one is used up. -/
theorem zipCycle_cons (hwhole : whole ≠ []) (x : β) (xs : List β) (used : Nat)
    (hused : used ≤ whole.length) :
    ∃ y next, whole[used % whole.length]? = some y ∧ next ≤ whole.length ∧
      next % whole.length = (used + 1) % whole.length ∧
      zipCycle f whole (x :: xs) (whole.drop used) = f x y :: zipCycle f whole xs (whole.drop next)
    := by
  rcases Nat.lt_or_eq_of_le hused with hlt | rfl
  · refine ⟨whole[used], used + 1, ?_, hlt, rfl, ?_⟩
    · rw [Nat.mod_eq_of_lt hlt, List.getElem?_eq_getElem hlt]
    · rw [List.drop_eq_getElem_cons hlt, zipCycle]
  · obtain ⟨y, left, rfl⟩ := List.exists_cons_of_ne_nil hwhole
    refine ⟨y, 1, ?_, ?_, ?_, ?_⟩
    · rw [Nat.mod_self, List.getElem?_cons_zero]
    · simp
    · rw [Nat.add_mod_left]
    · rw [List.drop_length, zipCycle, List.drop_one, List.tail_cons]

theorem getElem?_zipCycle (hwhole : whole ≠ []) (xs : List β) (used : Nat)
    (hused : used ≤ whole.length) (i : Nat) :
    (zipCycle f whole xs (whole.drop used))[i]? =
      xs[i]?.bind fun x => whole[(used + i) % whole.length]?.map (f x) := by
  induction xs generalizing used i with
  | nil => simp [zipCycle]
  | cons x xs ih =>
    obtain ⟨y, next, hy, hnext, hmod, heq⟩ := zipCycle_cons f whole hwhole x xs used hused
    rw [heq]
    cases i with
    | zero => simp [hy]
    | succ i =>
      have hround : (next + i) % whole.length = (used + (i + 1)) % whole.length := by
        rw [Nat.add_mod, hmod, ← Nat.add_mod, Nat.add_right_comm, Nat.add_assoc]
      rw [List.getElem?_cons_succ, List.getElem?_cons_succ, ih next hnext, hround]

end Cycle

theorem zipCycle_window (f : α → α → α) (data : Array α) (x b length period : Nat)
    (hperiod : period ∣ length) :
    zipCycle f (window data b period) (window data x length) (window data b period) =
      (List.range length).map fun i =>
        f (element data (x + i)) (element data (b + i % period)) := by
  rcases Nat.eq_zero_or_pos length with rfl | hlength
  · rfl
  have hpos : 0 < period := Nat.pos_of_dvd_of_pos hperiod hlength
  have hwhole : window data b period ≠ [] := by
    rw [← List.length_pos_iff, length_window]
    exact hpos
  apply List.ext_getElem?
  intro i
  have hcycle := getElem?_zipCycle f _ hwhole (window data x length) 0 (Nat.zero_le _) i
  rw [List.drop_zero, Nat.zero_add, length_window,
    getElem?_window data b period _ (Nat.mod_lt i hpos)] at hcycle
  rw [hcycle]
  by_cases hi : i < length
  · rw [getElem?_window data x length i hi]
    simp [hi]
  · simp [window, hi]

theorem executeSequential_combine (function : BinaryFunction) (x b output : Slice)
    (data : Array α) (old : List α) (hsound : Sound ⟨.combine function x b, output⟩ data.size)
    (hold : Blank ⟨.combine function x b, output⟩ old) :
    executeSequential ⟨.combine function x b, output⟩ data old =
      some (contents Scalar.negZero data ⟨.combine function x b, output⟩) := by
  obtain ⟨hx, hb, hxin, hbin⟩ := hsound.combine
  have hlength : old.length = output.length := hold.length_eq
  rw [← hold.overlay_eq hsound.reach_le]
  simp only [executeSequential, read?_eq_some data x hxin, read?_eq_some data b hbin,
    Option.bind_eq_bind, Option.bind_some]
  rw [zipCycle_window _ _ _ _ _ _ (hx ▸ hb), List.take_of_length_le (by simp [hx, hlength]), hx]
  rfl

/-! ### Concatenations -/

/-- The pieces of a row, one after the other, are the columns of the row. -/
theorem flatten_pieces (data : Array α) (row : Nat) (parts : List (Slice × Nat)) :
    (parts.map fun part => window data (part.1.start + row * part.2) part.2).flatten =
      (List.range (rowWidth parts)).map fun column => element data (sourceOf row parts column) := by
  induction parts with
  | nil => rfl
  | cons part rest ih =>
    rw [List.map_cons, List.flatten_cons, ih, rowWidth, List.range_add, List.map_append,
      List.map_map]
    congr 1
    · refine List.map_congr_left fun column hcolumn => ?_
      rw [sourceOf, if_pos (List.mem_range.mp hcolumn), Nat.add_assoc]
    · refine List.map_congr_left fun column _ => ?_
      rw [Function.comp, sourceOf, if_neg (by omega), Nat.add_sub_cancel_left]

theorem joinRow?_eq_some (data : Array α) (rows row : Nat) (parts : List (Slice × Nat))
    (hrow : row < rows) (hparts : ∀ part ∈ parts, part.1.length = rows * part.2 ∧
      part.1.start + part.1.length ≤ data.size) :
    joinRow? data row parts = some ((List.range (rowWidth parts)).map fun column =>
      element data (sourceOf row parts column)) := by
  rw [← flatten_pieces, joinRow?, Sequencing.mapM_eq_some parts _
    fun part => window data (part.1.start + row * part.2) part.2]
  · rfl
  · rintro ⟨slice, share⟩ hmem
    have hlast : (row + 1) * share ≤ slice.length :=
      (hparts _ hmem).1 ▸ Nat.mul_le_mul_right share hrow
    dsimp only
    rw [read?_eq_some data slice (hparts _ hmem).2, Option.bind_eq_bind, Option.bind_some,
      if_pos (by simpa using hlast), extract_window data _ _ _ _ hlast]

omit [Scalar α] in
/-- A row that fits is a full one. -/
theorem length_row (old : List α) (width row : Nat) (hrow : row < old.length / width) :
    ((old.drop (row * width)).take width).length = width := by
  have hfull : (row + 1) * width ≤ old.length := by
    calc (row + 1) * width ≤ old.length / width * width := Nat.mul_le_mul_right width hrow
      _ ≤ old.length := Nat.div_mul_le_self _ _
  rw [Nat.succ_mul] at hfull
  rw [List.length_take, List.length_drop]
  omega

theorem executeSequential_concat (parts : List (Slice × Nat)) (output : Slice) (data : Array α)
    (old : List α) (hsound : Sound ⟨.concat parts, output⟩ data.size)
    (hold : Blank ⟨.concat parts, output⟩ old) (hrefused : ¬ RefusedByRows ⟨.concat parts, output⟩) :
    executeSequential ⟨.concat parts, output⟩ data old =
      some (contents Scalar.negZero data ⟨.concat parts, output⟩) := by
  obtain ⟨rows, hwidth, -, hrows, -, hparts⟩ := hsound.concat_rows
  have hlength : old.length = output.length := hold.length_eq
  simp only [RefusedByRows, not_or, not_and, Nat.not_le] at hrefused
  obtain ⟨hpos, hfew⟩ := hrefused
  have holdrows := rows?_eq_some (Words.wrap (rowWidth parts)) old (Nat.pos_of_ne_zero hpos)
  rw [← hold.overlay_eq hsound.reach_le]
  simp only [executeSequential, rowTotal_eq_rowWidth, holdrows, Option.bind_eq_bind,
    Option.bind_some]
  rcases Nat.lt_or_eq_of_le (Words.wrap_le (rowWidth parts)) with hlt | heq
  · -- the output is shorter than one row, and none is written
    have hless : output.length < rowWidth parts := Nat.lt_trans (hfew hlt) hlt
    simp only [reach, hlength, Nat.div_eq_of_lt (hfew hlt), Nat.div_eq_of_lt hless]
    simp
  · rw [heq, Sequencing.mapM_zipIdx_eq_some _ _ fun row => (List.range (rowWidth parts)).map
      fun column => valueAt Scalar.negZero data (.concat parts) (row * rowWidth parts + column)]
    · rw [Option.bind_some, List.length_map, List.length_range, flatten_rows, hlength]
      rfl
    · intro row oldRow hentry
      simp only [List.getElem?_map, Option.map_eq_some_iff, List.getElem?_eq_some_iff,
        List.length_range, List.getElem_range] at hentry
      obtain ⟨_, ⟨hrow, rfl⟩, rfl⟩ := hentry
      have hinside : row < rows := Nat.lt_of_lt_of_le hrow (hlength ▸ hrows)
      dsimp only
      have hfull := length_row old _ row hrow
      rw [joinRow?_eq_some data rows row parts hinside hparts, Option.bind_some,
        if_pos (by simp [hfull]), overlay_eq_left _ _ (by simp [hfull])]
      refine congrArg some (List.map_congr_left fun column hcolumn => ?_)
      exact (valueAt_concat _ data parts row column (List.mem_range.mp hcolumn)).symm

/-- A row that is shorter than its parts together is refused. -/
theorem executeSequential_long_rows (parts : List (Slice × Nat)) (output : Slice) (data : Array α)
    (old : List α) (hsound : Sound ⟨.concat parts, output⟩ data.size)
    (hlength : old.length = output.length) (hrefused : RefusedByRows ⟨.concat parts, output⟩) :
    executeSequential ⟨.concat parts, output⟩ data old = none := by
  obtain ⟨rows, -, hrows, -, -, hparts⟩ := hsound.concat_rows
  simp only [RefusedByRows] at hrefused
  simp only [executeSequential, rowTotal_eq_rowWidth, Option.bind_eq_bind]
  generalize Words.wrap (rowWidth parts) = width at *
  by_cases hzero : width = 0
  · rw [rows?, if_pos hzero]
    rfl
  · obtain ⟨hlt, hle⟩ := hrefused.resolve_left hzero
    have hpos : 0 < width := Nat.pos_of_ne_zero hzero
    have hfirst : 0 < old.length / width := Nat.div_pos (hlength ▸ hle) hpos
    have hentry : ((old.drop (0 * width)).take width, 0) ∈ ((List.range (old.length / width)).map
        fun row => (old.drop (row * width)).take width).zipIdx := by
      rw [List.mem_zipIdx_iff_getElem?, List.getElem?_map, List.getElem?_range hfirst]
      rfl
    rw [rows?_eq_some _ _ hpos, Option.bind_some, Sequencing.mapM_eq_none hentry]
    · rfl
    · dsimp only
      rw [joinRow?_eq_some data rows 0 parts hrows hparts, Option.bind_some, if_neg]
      rw [List.length_map, List.length_range, length_row old width 0 hfirst]
      exact Nat.not_le.mpr hlt

theorem executeSequential_transform (function : UnaryFunction) (x output : Slice)
    (data : Array α) (old : List α) (hsound : Sound ⟨.transform function x, output⟩ data.size)
    (hold : Blank ⟨.transform function x, output⟩ old) :
    executeSequential ⟨.transform function x, output⟩ data old =
      some (contents Scalar.negZero data ⟨.transform function x, output⟩) := by
  obtain ⟨hx, hxin⟩ := hsound.transform
  have hlength : old.length = output.length := hold.length_eq
  rw [← hold.overlay_eq hsound.reach_le]
  simp only [executeSequential, read?_eq_some data x hxin, Option.bind_eq_bind, Option.bind_some]
  rw [List.take_of_length_le (by simp [hx, hlength]), window, List.map_map, hx]
  rfl

/-! ### All steps -/

/-- A sound step gives its output the contents it means, with sums from minus zero. -/
theorem executeSequential_eq_contents (step : Step) (data : Array α) (old : List α)
    (hsound : Sound step data.size) (hold : Blank step old) (hrefused : ¬ RefusedByRows step) :
    executeSequential step data old = some (contents Scalar.negZero data step) := by
  obtain ⟨operation, output⟩ := step
  cases operation with
  | linear inner x w =>
    exact executeSequential_linear inner x w output data old hsound hold hrefused
  | combine function x b => exact executeSequential_combine function x b output data old hsound hold
  | concat parts => exact executeSequential_concat parts output data old hsound hold hrefused
  | transform function x => exact executeSequential_transform function x output data old hsound hold

theorem executeSequential_eq_none (step : Step) (data : Array α) (old : List α)
    (hsound : Sound step data.size) (hold : Blank step old) (hrefused : RefusedByRows step) :
    executeSequential step data old = none := by
  obtain ⟨operation, output⟩ := step
  cases operation with
  | linear inner x w => exact executeSequential_no_rows inner x w output data old hsound hrefused
  | combine function x b => exact hrefused.elim
  | concat parts =>
    exact executeSequential_long_rows parts output data old hsound hold.length_eq hrefused
  | transform function x => exact hrefused.elim

end TensorBench.Execution
