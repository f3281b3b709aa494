import TensorBench.KernelGraph.Execution
import TensorBench.Proofs.Sequencing
import TensorBench.Proofs.Words

/-!
The meaning of a step, element by element: what stands at a position of the output, as a function of
the buffer before the step. The ways to execute a step are compared with it instead of with each
other, for steps whose operands fit together. Sums of products start at a value of the executor's
own choice. Where an expected size wrapped around, a step reaches only the front of its output.
-/
namespace TensorBench.Execution

variable {α : Type} [Scalar α]

/-- The element at a position of the buffer, zero past its end. -/
def element (data : Array α) (i : Nat) : α := data.getD i Scalar.zero

/-- Consecutive elements of the buffer. -/
def window (data : Array α) (start length : Nat) : List α :=
  (List.range length).map fun i => element data (start + i)

/-- The products of two runs of elements, added from left to right onto `start`. -/
def sumOfProducts (start : α) (a b : List α) : α :=
  (List.zipWith Scalar.mul a b).foldl Scalar.add start

/-- The elements in one row of a concatenation. -/
def rowWidth : List (Slice × Nat) → Nat
  | [] => 0
  | part :: rest => part.2 + rowWidth rest

/-- The elements of several slices together. -/
def totalLength : List Slice → Nat
  | [] => 0
  | slice :: rest => slice.length + totalLength rest

/-- The position in the buffer that supplies a column of a concatenated row. -/
def sourceOf (row : Nat) : List (Slice × Nat) → Nat → Nat
  | [], _ => 0
  | part :: rest, column =>
      if column < part.2 then part.1.start + (row * part.2 + column)
      else sourceOf row rest (column - part.2)

/-- What an operation puts at a position of its output. -/
def valueAt (start : α) (data : Array α) : Operation → Nat → α
  | .linear inner x w, i =>
      let outer := w.length / inner
      sumOfProducts start (window data (x.start + i / outer * inner) inner)
        (window data (w.start + i % outer * inner) inner)
  | .combine function x b, i =>
      function.apply (element data (x.start + i)) (element data (b.start + i % b.length))
  | .concat parts, i =>
      element data (sourceOf (i / rowWidth parts) parts (i % rowWidth parts))
  | .transform function x, i => function.apply (element data (x.start + i))

/-- How many elements of its output a step gives a value, from the first one on. -/
def reach (step : Step) : Nat :=
  match step.operation with
  | .linear inner x w => x.length / inner * (w.length / inner)
  | .combine .. => step.output.length
  | .concat parts => step.output.length / rowWidth parts * rowWidth parts
  | .transform .. => step.output.length

/-- The contents of an output of zeros after a step. -/
def contents (start : α) (data : Array α) (step : Step) : List α :=
  (List.range step.output.length).map fun i =>
    if i < reach step then valueAt start data step.operation i else Scalar.zero

/-- Contents of an output that are zero wherever the step does not reach. -/
structure Blank (step : Step) (old : List α) : Prop where
  length_eq : old.length = step.output.length
  rest_eq : ∀ i, reach step ≤ i → i < step.output.length → old[i]? = some Scalar.zero

/-- Lengths of operands that fit the length of the output: no row is empty or incomplete, as far as
the expected lengths do not wrap around. -/
def Shaped : Operation → Nat → Prop
  | .linear inner x w, length => 0 < inner ∧ ∃ batch outer, 0 < batch ∧
      x.length = batch * inner ∧ w.length = Words.wrap (outer * inner) ∧ length = batch * outer
  | .combine _ x b, length => x.length = length ∧ b.length ∣ length
  | .concat parts, length => 0 < rowWidth parts ∧ ∃ rows, 0 < rows ∧
      (∀ part ∈ parts, part.1.length = rows * part.2) ∧
        length = Words.wrap (rows * rowWidth parts)
  | .transform _ x, length => x.length = length

/-- No expected length of the step wrapped around. -/
def Exact (step : Step) : Prop :=
  match step.operation with
  | .linear inner x w => w.length = inner * (step.output.length / (x.length / inner))
  | .combine .. => True
  | .concat parts => step.output.length = totalLength (parts.map (·.1))
  | .transform .. => True

/-- A step whose operands lie inside a buffer of the given size and fit together. -/
structure Sound (step : Step) (size : Nat) : Prop where
  inputs_inside : ∀ slice ∈ step.operation.inputs, slice.start + slice.length ≤ size
  output_inside : step.output.start + step.output.length ≤ size
  shaped : Shaped step.operation step.output.length

/-- Operations that multiply by a matrix of weights. -/
def isLinear : Operation → Bool
  | .linear .. => true
  | _ => false

/-- Multiplication by a matrix that has no rows: the output has no elements. -/
def Degenerate (step : Step) : Prop :=
  isLinear step.operation = true ∧ step.output.length = 0

@[simp] theorem length_contents (start : α) (data : Array α) (step : Step) :
    (contents start data step).length = step.output.length := by
  simp [contents]

theorem getElem?_contents (start : α) (data : Array α) (step : Step) {i : Nat}
    (h : i < step.output.length) :
    (contents start data step)[i]? =
      some (if i < reach step then valueAt start data step.operation i else Scalar.zero) := by
  simp [contents, h]

theorem rowTotal_eq_rowWidth (parts : List (Slice × Nat)) : rowTotal parts = rowWidth parts := by
  have hfold (total : Nat) :
      parts.foldl (fun sum part => sum + part.2) total = total + rowWidth parts := by
    induction parts generalizing total with
    | nil => rfl
    | cons part rest ih => rw [List.foldl_cons, ih, rowWidth, Nat.add_assoc]
  rw [rowTotal, hfold, Nat.zero_add]

/-- The rows of all parts together. -/
theorem sum_lengths (parts : List (Slice × Nat)) (rows : Nat)
    (h : ∀ part ∈ parts, part.1.length = rows * part.2) :
    totalLength (parts.map (·.1)) = rows * rowWidth parts := by
  induction parts with
  | nil => rfl
  | cons part rest ih =>
    rw [List.map_cons, totalLength, ih fun p hp => h p (List.mem_cons_of_mem _ hp),
      h part List.mem_cons_self, rowWidth, Nat.mul_add]

/-! ### Contents beyond the reach of a step -/

namespace Blank

variable {step : Step} {old : List α}

theorem replicate (step : Step) :
    Blank step (List.replicate step.output.length (Scalar.zero : α)) :=
  ⟨List.length_replicate, fun i _ hi => by rw [List.getElem?_replicate, if_pos hi]⟩

theorem contents (start : α) (data : Array α) (step : Step) :
    Blank step (contents start data step) :=
  ⟨length_contents start data step, fun i hbeyond hi => by
    rw [getElem?_contents start data step hi, if_neg (Nat.not_lt.mpr hbeyond)]⟩

/-- Values over the reach of a step, in front of what was there before. -/
theorem overlay_eq (h : Blank step old) (hreach : reach step ≤ step.output.length) (start : α)
    (data : Array α) :
    overlay ((List.range (reach step)).map (valueAt start data step.operation)) old =
      Execution.contents start data step := by
  apply List.ext_getElem?
  intro i
  rw [overlay, List.length_map, List.length_range]
  by_cases hi : i < reach step
  · rw [List.getElem?_append_left (by simpa using hi),
      getElem?_contents start data step (Nat.lt_of_lt_of_le hi hreach), if_pos hi]
    simp [hi]
  · have hbeyond := Nat.le_of_not_lt hi
    rw [List.getElem?_append_right (by simpa using hbeyond), List.length_map, List.length_range,
      List.getElem?_drop, Nat.add_sub_cancel' hbeyond]
    by_cases hlength : i < step.output.length
    · rw [h.rest_eq i hbeyond hlength, getElem?_contents start data step hlength, if_neg hi]
    · rw [List.getElem?_eq_none (h.length_eq ▸ Nat.le_of_not_lt hlength),
        List.getElem?_eq_none (length_contents start data step ▸ Nat.le_of_not_lt hlength)]

end Blank

/-! ### Windows of the buffer -/

@[simp] theorem length_window (data : Array α) (start length : Nat) :
    (window data start length).length = length := by
  simp [window]

theorem getElem?_window (data : Array α) (start length i : Nat) (h : i < length) :
    (window data start length)[i]? = some (element data (start + i)) := by
  simp [window, h]

theorem window_congr {a b : Array α} {start start' length : Nat}
    (hsame : ∀ i < length, element a (start + i) = element b (start' + i)) :
    window a start length = window b start' length :=
  List.map_congr_left fun i hmem => hsame i (List.mem_range.mp hmem)

/-- A part of a window is a window. -/
theorem take_drop_window (data : Array α) (start length k m : Nat) (h : k + m ≤ length) :
    ((window data start length).drop k).take m = window data (start + k) m := by
  apply List.ext_getElem?
  intro i
  rw [List.getElem?_take, List.getElem?_drop]
  by_cases hi : i < m
  · rw [if_pos hi, getElem?_window data start length _ (by omega),
      getElem?_window data _ m i hi, Nat.add_assoc]
  · rw [if_neg hi, List.getElem?_eq_none (by simpa using Nat.le_of_not_lt hi)]

/-- A row of a window that has all of that row. -/
theorem extract_window (data : Array α) (start length width row : Nat)
    (h : (row + 1) * width ≤ length) :
    ((window data start length).toArray.extract (row * width) ((row + 1) * width)).toList =
      window data (start + row * width) width := by
  rw [Nat.succ_mul] at h ⊢
  rw [Array.toList_extract, List.extract_eq_take_drop, Nat.add_sub_cancel_left,
    take_drop_window data _ _ _ _ h]

theorem getElem?_eq_element (data : Array α) (i : Nat) (h : i < data.size) :
    data[i]? = some (element data i) := by
  simp [element, Array.getD, h]

theorem read?_eq_some (data : Array α) (slice : Slice)
    (h : slice.start + slice.length ≤ data.size) :
    read? data slice = some (window data slice.start slice.length).toArray := by
  unfold read?
  rw [if_pos h]
  congr 1
  apply Array.ext_getElem?
  intro i
  rw [Array.getElem?_extract]
  by_cases hi : i < slice.length
  · rw [if_pos (by omega), getElem?_eq_element data _ (by omega), List.getElem?_toArray,
      getElem?_window data _ _ i hi]
  · rw [if_neg (by omega), List.getElem?_toArray,
      List.getElem?_eq_none (by simpa using Nat.le_of_not_lt hi)]

theorem toList_extract_eq_window (data : Array α) (start length : Nat)
    (h : start + length ≤ data.size) :
    (data.extract start (start + length)).toList = window data start length := by
  have hread := read?_eq_some data ⟨start, length⟩ h
  rw [read?, if_pos h] at hread
  rw [Option.some.inj hread]

/-- Row by row, a table of rows of equal width is a table of its positions. -/
theorem flatten_rows {β : Type} (f : Nat → β) (rows width : Nat) :
    ((List.range rows).map fun row =>
      (List.range width).map fun column => f (row * width + column)).flatten =
      (List.range (rows * width)).map f := by
  induction rows with
  | zero => simp
  | succ rows ih =>
    rw [List.range_succ, List.map_append, List.flatten_append, ih, Nat.succ_mul, List.range_add,
      List.map_append]
    simp

theorem valueAt_linear (start : α) (data : Array α) (inner : Nat) (x w : Slice)
    (outer row unit : Nat) (houter : w.length / inner = outer) (hunit : unit < outer) :
    valueAt start data (.linear inner x w) (row * outer + unit) =
      sumOfProducts start (window data (x.start + row * inner) inner)
        (window data (w.start + unit * inner) inner) := by
  simp only [valueAt, houter, row_of_position row outer unit hunit,
    column_of_position row outer unit hunit]

theorem valueAt_concat (start : α) (data : Array α) (parts : List (Slice × Nat))
    (row column : Nat) (hcolumn : column < rowWidth parts) :
    valueAt start data (.concat parts) (row * rowWidth parts + column) =
      element data (sourceOf row parts column) := by
  rw [valueAt, row_of_position row _ column hcolumn, column_of_position row _ column hcolumn]

/-! ### What soundness says of each kind of operation -/

namespace Sound

variable {size : Nat} {output : Slice}

theorem linear {inner : Nat} {x w : Slice} (h : Sound ⟨.linear inner x w, output⟩ size) :
    ∃ batch outer, 0 < inner ∧ 0 < batch ∧ x.length = batch * inner ∧
      w.length = Words.wrap (outer * inner) ∧ output.length = batch * outer ∧
      x.start + x.length ≤ size ∧ w.start + w.length ≤ size := by
  obtain ⟨hinner, batch, outer, hbatch, hx, hw, houtput⟩ := h.shaped
  exact ⟨batch, outer, hinner, hbatch, hx, hw, houtput,
    h.inputs_inside x (by simp [Operation.inputs]), h.inputs_inside w (by simp [Operation.inputs])⟩

/-- The matrix has no more rows than the output has columns. -/
theorem linear_rows {inner : Nat} {x w : Slice} (h : Sound ⟨.linear inner x w, output⟩ size) :
    ∃ batch, 0 < inner ∧ 0 < batch ∧ x.length = batch * inner ∧
      reach ⟨.linear inner x w, output⟩ = batch * (w.length / inner) ∧
      batch * (w.length / inner) ≤ output.length ∧ x.start + x.length ≤ size ∧
      w.start + w.length ≤ size := by
  obtain ⟨batch, outer, hinner, hbatch, hx, hw, houtput, hxin, hwin⟩ := h.linear
  have hrows : w.length / inner ≤ outer := by
    rw [hw]
    calc Words.wrap (outer * inner) / inner ≤ outer * inner / inner :=
          Nat.div_le_div_right (Words.wrap_le _)
      _ = outer := Nat.mul_div_cancel _ hinner
  refine ⟨batch, hinner, hbatch, hx, ?_, houtput ▸ Nat.mul_le_mul_left batch hrows, hxin, hwin⟩
  simp only [reach, hx, Nat.mul_div_cancel _ hinner]

theorem combine {function : BinaryFunction} {x b : Slice}
    (h : Sound ⟨.combine function x b, output⟩ size) :
    x.length = output.length ∧ b.length ∣ output.length ∧ x.start + x.length ≤ size ∧
      b.start + b.length ≤ size :=
  ⟨h.shaped.1, h.shaped.2, h.inputs_inside x (by simp [Operation.inputs]),
    h.inputs_inside b (by simp [Operation.inputs])⟩

theorem concat {parts : List (Slice × Nat)} (h : Sound ⟨.concat parts, output⟩ size) :
    ∃ rows, 0 < rowWidth parts ∧ 0 < rows ∧ (∀ part ∈ parts, part.1.length = rows * part.2 ∧
      part.1.start + part.1.length ≤ size) ∧
      output.length = Words.wrap (rows * rowWidth parts) := by
  obtain ⟨hwidth, rows, hrows, hlength, houtput⟩ := h.shaped
  refine ⟨rows, hwidth, hrows, fun part hmem => ⟨hlength part hmem, ?_⟩, houtput⟩
  exact h.inputs_inside part.1 (List.mem_map_of_mem hmem)

/-- The output has room for no more rows than the parts have. -/
theorem concat_rows {parts : List (Slice × Nat)} (h : Sound ⟨.concat parts, output⟩ size) :
    ∃ rows, 0 < rowWidth parts ∧ 0 < rows ∧ output.length / rowWidth parts ≤ rows ∧
      output.length < Words.limit ∧ ∀ part ∈ parts, part.1.length = rows * part.2 ∧
        part.1.start + part.1.length ≤ size := by
  obtain ⟨rows, hwidth, hrows, hparts, houtput⟩ := h.concat
  refine ⟨rows, hwidth, hrows, ?_, houtput ▸ Words.wrap_lt _, hparts⟩
  rw [houtput]
  exact Nat.div_le_of_le_mul (Nat.mul_comm rows _ ▸ Words.wrap_le _)

theorem transform {function : UnaryFunction} {x : Slice}
    (h : Sound ⟨.transform function x, output⟩ size) :
    x.length = output.length ∧ x.start + x.length ≤ size :=
  ⟨h.shaped, h.inputs_inside x (by simp [Operation.inputs])⟩

variable {step : Step}

theorem reach_le (h : Sound step size) : reach step ≤ step.output.length := by
  obtain ⟨operation, output⟩ := step
  cases operation with
  | linear inner x w =>
    obtain ⟨batch, -, -, -, hreach, hle, -, -⟩ := h.linear_rows
    exact hreach ▸ hle
  | combine function x b => exact Nat.le_refl _
  | concat parts => exact Nat.div_mul_le_self _ _
  | transform function x => exact Nat.le_refl _

end Sound

end TensorBench.Execution
