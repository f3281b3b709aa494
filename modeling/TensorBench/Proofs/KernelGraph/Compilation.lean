import TensorBench.Proofs.KernelGraph.Meaning
import TensorBench.Proofs.Layout.Placement
import TensorBench.Proofs.Words

/-!
What compilation establishes. The operands of a compiled step are allocations of the layout, hence
inside the buffer, and their lengths fit together in the way the executors take for granted: no
divisor is zero, and every row is complete unless the size that the compilation expects of a matrix
or of a concatenation wraps around.
-/
namespace TensorBench

/-- Kernels that multiply by a matrix of weights. -/
def Kernel.isLinear : Kernel → Bool
  | .linear .. => true
  | _ => false

/-- Kernels for which compilation expects a size that is no word: that of a matrix of weights, or of
all inputs of a concatenation together. -/
def Kernel.Wraps (layout : Layout) : Kernel → Prop
  | .linear x _ y inFeatures => ∃ xs ys, Step.sliceOf layout x = .ok xs ∧
      Step.sliceOf layout y = .ok ys ∧ Words.limit ≤
        inFeatures.getD xs.length * (ys.length / (xs.length / inFeatures.getD xs.length))
  | .concat xs _ _ _ => ∃ inputs, List.Forall₂ (fun x input => Step.sliceOf layout x = .ok input)
      xs inputs ∧ Words.limit ≤ Execution.totalLength inputs
  | _ => False

namespace Step

open Sequencing Execution

theorem wraps_linear_iff {layout : Layout} {x w y : String} {inFeatures : Option Nat}
    {xs ys : Slice} (hx : sliceOf layout x = .ok xs) (hy : sliceOf layout y = .ok ys) :
    (Kernel.linear x w y inFeatures).Wraps layout ↔ Words.limit ≤
      inFeatures.getD xs.length * (ys.length / (xs.length / inFeatures.getD xs.length)) := by
  constructor
  · rintro ⟨xs', ys', hx', hy', hwraps⟩
    cases hx.symm.trans hx'
    cases hy.symm.trans hy'
    exact hwraps
  · exact fun hwraps => ⟨xs, ys, hx, hy, hwraps⟩

theorem wraps_concat_iff {layout : Layout} {xs : List String} {y : String} {axis : Nat}
    {shapes : List (List Nat)} {inputs : List Slice}
    (h : List.Forall₂ (fun x input => sliceOf layout x = .ok input) xs inputs) :
    (Kernel.concat xs y axis shapes).Wraps layout ↔ Words.limit ≤ totalLength inputs := by
  constructor
  · rintro ⟨others, hothers, hwraps⟩
    cases ((mapM_eq_ok_iff _ _ _).mpr h).symm.trans ((mapM_eq_ok_iff _ _ _).mpr hothers)
    exact hwraps
  · exact fun hwraps => ⟨inputs, h, hwraps⟩

/-- A step that stands for a kernel: it computes the same kind of function, its operands are
allocations of the layout, the kernel's output among them, and their lengths fit together. -/
structure StandsFor (layout : Layout) (kernel : Kernel) (step : Step) : Prop where
  output_ok : sliceOf layout kernel.output = .ok step.output
  inputs_ok : ∀ slice ∈ step.operation.inputs, ∃ name, sliceOf layout name = .ok slice
  shaped : Shaped step.operation step.output.length
  linear_eq : isLinear step.operation = kernel.isLinear
  exact_iff : Exact step ↔ ¬ kernel.Wraps layout

theorem compileLinear_standsFor (layout : Layout) (x w y : String) (inFeatures : Option Nat)
    {step : Step}
    (h : compileLinear layout (.linear x w y inFeatures) x w y inFeatures = .ok step) :
    StandsFor layout (.linear x w y inFeatures) step := by
  simp only [compileLinear, bind_eq_ok_iff (ε := Failure), throw_unless_bind_eq_ok_iff] at h
  obtain ⟨xs, hx, ws, hw, ys, hy, hinner, hbatch, hweights, heq⟩ := h
  cases heq
  have hwraps : (Kernel.linear x w y inFeatures).Wraps layout ↔ Words.limit ≤
      inFeatures.getD xs.length * (ys.length / (xs.length / inFeatures.getD xs.length)) :=
    wraps_linear_iff hx hy
  generalize inFeatures.getD xs.length = inner at *
  push Not at hinner hbatch hweights
  obtain ⟨hinner, hrows⟩ := hinner
  obtain ⟨hbatch, hcolumns⟩ := hbatch
  refine ⟨hy, ?_, ⟨Nat.pos_of_ne_zero hinner, xs.length / inner,
    ys.length / (xs.length / inner), Nat.pos_of_ne_zero hbatch, ?_, ?_, ?_⟩, rfl, ?_⟩
  · intro slice hmem
    simp only [Operation.inputs, List.mem_cons, List.not_mem_nil, or_false] at hmem
    rcases hmem with rfl | rfl
    · exact ⟨x, hx⟩
    · exact ⟨w, hw⟩
  · exact (Nat.div_mul_cancel (Nat.dvd_of_mod_eq_zero hrows)).symm
  · rw [hweights, Nat.mul_comm]
  · exact (Nat.mul_div_cancel' (Nat.dvd_of_mod_eq_zero hcolumns)).symm
  · rw [hwraps, Nat.not_le, ← Words.wrap_eq_self_iff, ← hweights]
    exact Iff.rfl

theorem compileBinary_ok (layout : Layout) (kernel : Kernel) (function : BinaryFunction)
    (broadcast : Bool) (x b y : String) {step : Step}
    (h : compileBinary layout kernel function broadcast x b y = .ok step) :
    ∃ xs bs ys, sliceOf layout x = .ok xs ∧ sliceOf layout b = .ok bs ∧ sliceOf layout y = .ok ys ∧
      xs.length = ys.length ∧ bs.length ∣ ys.length ∧ step = ⟨.combine function xs bs, ys⟩ := by
  simp only [compileBinary, bind_eq_ok_iff, throw_unless_bind_eq_ok_iff] at h
  obtain ⟨xs, hx, bs, hb, ys, hy, hlengths, heq⟩ := h
  cases heq
  push Not at hlengths
  refine ⟨xs, bs, ys, hx, hb, hy, hlengths.1, ?_, rfl⟩
  cases broadcast with
  | true =>
    have hmod : bs.length ≠ 0 ∧ ys.length % bs.length = 0 := by simpa using hlengths.2
    exact Nat.dvd_of_mod_eq_zero hmod.2
  | false =>
    have hlength : bs.length = ys.length := by simpa using hlengths.2
    exact hlength ▸ Nat.dvd_refl _

theorem compileUnary_standsFor (layout : Layout) (function : UnaryFunction) (x y : String)
    {step : Step} (h : compileUnary layout (.unary function x y) function x y = .ok step) :
    StandsFor layout (.unary function x y) step := by
  simp only [compileUnary, bind_eq_ok_iff, throw_unless_bind_eq_ok_iff] at h
  obtain ⟨xs, hx, ys, hy, hlength, heq⟩ := h
  cases heq
  refine ⟨hy, ?_, not_not.mp hlength, rfl, iff_of_true trivial id⟩
  intro slice hmem
  simp only [Operation.inputs, List.mem_singleton] at hmem
  exact ⟨x, hmem ▸ hx⟩

theorem compileBinary_standsFor (layout : Layout) (kernel : Kernel) (function : BinaryFunction)
    (broadcast : Bool) (x b y : String) (houtput : kernel.output = y)
    (hkind : kernel.isLinear = false) (hwraps : ¬ kernel.Wraps layout) {step : Step}
    (h : compileBinary layout kernel function broadcast x b y = .ok step) :
    StandsFor layout kernel step := by
  obtain ⟨xs, bs, ys, hx, hb, hy, hlength, hdvd, rfl⟩ :=
    compileBinary_ok layout kernel function broadcast x b y h
  refine ⟨houtput ▸ hy, ?_, ⟨hlength, hdvd⟩, hkind.symm, iff_of_true trivial hwraps⟩
  intro slice hmem
  simp only [Operation.inputs, List.mem_cons, List.not_mem_nil, or_false] at hmem
  rcases hmem with rfl | rfl
  · exact ⟨x, hx⟩
  · exact ⟨b, hb⟩

/-! ### Concatenations -/

/-- All that the checks of a part establish. -/
structure PartOf (layout : Layout) (axis : Nat) (first : List Nat) (entry : String × List Nat)
    (part : Slice × Nat) : Prop where
  slice_ok : sliceOf layout entry.1 = .ok part.1
  take_eq : entry.2.take axis = first.take axis
  drop_eq : entry.2.drop (axis + 1) = first.drop (axis + 1)
  rank_eq : entry.2.length = first.length
  share_pos : 0 < part.2
  rows_pos : 0 < Words.product (first.take axis)
  share_eq : part.2 = Words.product (entry.2.drop axis)
  length_eq : part.1.length = Words.product entry.2

theorem compilePart_ok (layout : Layout) (kernel : Kernel) (axis : Nat) (first : List Nat)
    (entry : String × List Nat) {part : Slice × Nat}
    (h : compilePart layout kernel axis first entry = .ok part) :
    PartOf layout axis first entry part := by
  obtain ⟨name, shape⟩ := entry
  simp only [compilePart, bind_eq_ok_iff, throw_unless_bind_eq_ok_iff] at h
  obtain ⟨hshape, slice, hslice, hcount, heq⟩ := h
  cases heq
  push Not at hshape hcount
  obtain ⟨hagrees, hzero⟩ := hshape
  simp only [agreesOffAxis, Bool.not_eq_false, Bool.and_eq_true, beq_iff_eq] at hagrees
  obtain ⟨⟨hrank, htake⟩, hdrop⟩ := hagrees
  have hpositive : 0 ∉ shape := by simpa using hzero
  exact ⟨hslice, htake, hdrop, hrank,
    Words.product_pos _ fun hmem => hpositive (List.mem_of_mem_drop hmem),
    htake ▸ Words.product_pos _ fun hmem => hpositive (List.mem_of_mem_take hmem), rfl,
    Words.product?_eq_some shape hcount⟩

/-- A part has as many rows as the shapes have positions in front of the axis. -/
theorem PartOf.rows {layout : Layout} {axis : Nat} {first : List Nat} {entry : String × List Nat}
    {part : Slice × Nat} (h : PartOf layout axis first entry part) :
    part.1.length = Words.product (first.take axis) * part.2 := by
  rw [h.length_eq, h.share_eq, Words.product_split entry.2 axis, h.take_eq]

theorem rowWidth_pos (parts : List (Slice × Nat)) (hne : parts ≠ [])
    (h : ∀ part ∈ parts, 0 < part.2) : 0 < rowWidth parts := by
  cases parts with
  | nil => exact absurd rfl hne
  | cons part rest => exact Nat.add_pos_left (h part List.mem_cons_self) _

theorem foldl_length_eq (parts : List (Slice × Nat)) (total : Nat) :
    parts.foldl (fun sum part => sum + part.1.length) total =
      total + totalLength (parts.map (·.1)) := by
  induction parts generalizing total with
  | nil => rfl
  | cons part rest ih => rw [List.foldl_cons, ih, List.map_cons, totalLength, Nat.add_assoc]

/-- What the compilation of a concatenation establishes, part by part. -/
theorem compileConcat_ok (layout : Layout) (xs : List String) (y : String) (axis : Nat)
    (shapes : List (List Nat)) {step : Step}
    (h : compileConcat layout (.concat xs y axis shapes) xs y axis shapes = .ok step) :
    ∃ first others parts, shapes = first :: others ∧ xs.length = shapes.length ∧
      axis < first.length ∧
      List.Forall₂ (PartOf layout axis first) (xs.zip shapes) parts ∧
      sliceOf layout y = .ok step.output ∧ step.operation = .concat parts ∧
      step.output.length = Words.wrap (totalLength (parts.map (·.1))) := by
  cases shapes with
  | nil => simp [compileConcat, throw, throwThe, MonadExceptOf.throw] at h
  | cons first others =>
    simp only [compileConcat, bind_eq_ok_iff (ε := Failure), throw_unless_bind_eq_ok_iff] at h
    obtain ⟨hcount, haxis, parts, hparts, output, houtput, htotal, heq⟩ := h
    cases heq
    rw [foldl_length_eq, Nat.zero_add] at htotal
    refine ⟨first, others, parts, rfl, not_not.mp hcount, Nat.lt_of_not_le haxis, ?_, houtput, rfl,
      not_not.mp htotal⟩
    exact ((mapM_eq_ok_iff _ _ _).mp hparts).imp fun entry part => compilePart_ok _ _ _ _ entry

theorem compileConcat_standsFor (layout : Layout) (xs : List String) (y : String) (axis : Nat)
    (shapes : List (List Nat)) {step : Step}
    (h : compileConcat layout (.concat xs y axis shapes) xs y axis shapes = .ok step) :
    StandsFor layout (.concat xs y axis shapes) step := by
  obtain ⟨first, others, parts, rfl, hcount, -, hparts, houtput, hoperation, htotal⟩ :=
    compileConcat_ok layout xs y axis shapes h
  obtain ⟨operation, output⟩ := step
  obtain rfl : operation = .concat parts := hoperation
  have hentries : parts ≠ [] := by
    have hparts_length := hparts.length_eq
    rw [List.length_zip, hcount, Nat.min_self, List.length_cons] at hparts_length
    exact List.ne_nil_of_length_eq_add_one hparts_length.symm
  have hpart : ∀ part ∈ parts, ∃ entry, PartOf layout axis first entry part := by
    intro part hmem
    obtain ⟨entry, -, hentry⟩ := exists_item_of_mem_results hparts hmem
    exact ⟨entry, hentry⟩
  have hlength : ∀ part ∈ parts, part.1.length = Words.product (first.take axis) * part.2 := by
    intro part hmem
    obtain ⟨entry, hentry⟩ := hpart part hmem
    exact hentry.rows
  have hinputs : List.Forall₂ (fun x input => sliceOf layout x = .ok input) xs (parts.map (·.1)) := by
    have hnames : (xs.zip (first :: others)).map (·.1) = xs := List.map_fst_zip (Nat.le_of_eq hcount)
    rw [← hnames, List.forall₂_map_left_iff, List.forall₂_map_right_iff]
    exact hparts.imp fun entry part hentry => hentry.slice_ok
  refine ⟨houtput, ?_, ⟨?_, Words.product (first.take axis), ?_, hlength, ?_⟩, rfl, ?_⟩
  · intro slice hslice
    obtain ⟨part, hmem, rfl⟩ := List.mem_map.mp hslice
    obtain ⟨entry, hentry⟩ := hpart part hmem
    exact ⟨entry.1, hentry.slice_ok⟩
  · exact rowWidth_pos parts hentries fun part hmem => (hpart part hmem).choose_spec.share_pos
  · obtain ⟨part, hmem⟩ := List.exists_mem_of_ne_nil parts hentries
    exact (hpart part hmem).choose_spec.rows_pos
  · rw [htotal, sum_lengths parts _ hlength]
  · have hsum : output.length = Words.wrap (totalLength (parts.map (·.1))) := htotal
    rw [wraps_concat_iff hinputs, Nat.not_le, ← Words.wrap_eq_self_iff]
    simp only [Exact, hsum]

/-! ### All kernels -/

theorem compile_standsFor (layout : Layout) (kernel : Kernel) {step : Step}
    (h : compile layout kernel = .ok step) : StandsFor layout kernel step := by
  cases kernel with
  | linear x w y inFeatures => exact compileLinear_standsFor layout x w y inFeatures h
  | bias x b y => exact compileBinary_standsFor layout _ .add true x b y rfl rfl id h
  | elementwiseSum x0 x1 y => exact compileBinary_standsFor layout _ .add false x0 x1 y rfl rfl id h
  | elementwiseMul x0 x1 y => exact compileBinary_standsFor layout _ .mul false x0 x1 y rfl rfl id h
  | concat xs y axis shapes => exact compileConcat_standsFor layout xs y axis shapes h
  | unary function x y => exact compileUnary_standsFor layout function x y h

theorem sliceOf_eq_ok_iff (layout : Layout) (name : String) (slice : Slice) :
    sliceOf layout name = .ok slice ↔ ∃ placement, layout.placement name = .ok placement ∧
      slice = ⟨placement.start, placement.length⟩ := by
  rw [sliceOf, bind_eq_ok_iff]
  refine exists_congr fun placement => and_congr_right fun _ => ?_
  exact ⟨fun h => by cases h; rfl, fun h => by rw [h]; rfl⟩

theorem sliceOf_inside (layout : Layout) {total : Nat} (hlayout : layout.Settled total)
    {name : String} {slice : Slice} (h : sliceOf layout name = .ok slice) :
    slice.start + slice.length ≤ total / Words.elementSize := by
  obtain ⟨placement, hplace, rfl⟩ := (sliceOf_eq_ok_iff layout name slice).mp h
  exact (hlayout.placement_within hplace).stop_le

/-- A step that stands for a kernel of a settled layout finds all its operands in the buffer. -/
theorem StandsFor.sound {layout : Layout} {total : Nat} {kernel : Kernel} {step : Step}
    (h : StandsFor layout kernel step) (hlayout : layout.Settled total) :
    Sound step (total / Words.elementSize) := by
  refine ⟨fun slice hmem => ?_, sliceOf_inside layout hlayout h.output_ok, h.shaped⟩
  obtain ⟨name, hslice⟩ := h.inputs_ok slice hmem
  exact sliceOf_inside layout hlayout hslice

theorem StandsFor.degenerate_iff {layout : Layout} {kernel : Kernel} {step : Step}
    (h : StandsFor layout kernel step) :
    Degenerate step ↔ kernel.isLinear = true ∧ ∃ placement,
      layout.placement kernel.output = .ok placement ∧ placement.length = 0 := by
  obtain ⟨placement, hplace, houtput⟩ := (sliceOf_eq_ok_iff layout _ _).mp h.output_ok
  rw [Degenerate, h.linear_eq, houtput]
  refine and_congr_right fun _ => ⟨fun hempty => ⟨placement, hplace, hempty⟩, ?_⟩
  rintro ⟨other, hother, hempty⟩
  cases hplace.symm.trans hother
  exact hempty

end Step

end TensorBench
