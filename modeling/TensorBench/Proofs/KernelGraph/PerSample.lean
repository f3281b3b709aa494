import TensorBench.KernelGraph.Perceptron
import TensorBench.Proofs.Expression.Numerals
import TensorBench.Proofs.KernelGraph.Compilation
import TensorBench.Proofs.Layout.Pushing

/-!
Layouts of batches. The tensors of one sample lie one behind the other, with a place and a length in
elements; every offset and size is a byte count for each sample. Once the size of the batch is bound,
each tensor lies where that many samples of the tensors in front of it end.
-/
namespace TensorBench.KernelGraph.Perceptron

open Sequencing

/-- The place of a tensor behind the static part and its length, in elements, for one sample. -/
structure Tensor where
  name : String
  place : Nat
  width : Nat

/-- Tensors one behind the other, from a place on. -/
def arranged (place : Nat) : List (String × Nat) → List Tensor
  | [] => []
  | (name, width) :: rest => ⟨name, place, width⟩ :: arranged (place + width) rest

/-- The elements of all tensors together. -/
def sampleLength (tensors : List (String × Nat)) : Nat := (tensors.map (·.2)).sum

theorem map_name_arranged (place : Nat) (tensors : List (String × Nat)) :
    (arranged place tensors).map (·.name) = tensors.map (·.1) := by
  induction tensors generalizing place with
  | nil => rfl
  | cons tensor rest ih => exact congrArg (tensor.1 :: ·) (ih _)

theorem place_add_width_le {place : Nat} {tensors : List (String × Nat)} {tensor : Tensor}
    (hmem : tensor ∈ arranged place tensors) :
    tensor.place + tensor.width ≤ place + sampleLength tensors := by
  induction tensors generalizing place with
  | nil => cases hmem
  | cons head rest ih =>
    have hwhole : sampleLength (head :: rest) = head.2 + sampleLength rest := rfl
    rcases List.mem_cons.mp hmem with rfl | hmem
    · simp only [hwhole]
      omega
    · have hbehind := ih hmem
      omega

/-! ### Extents for each sample -/

/-- The extent of so many elements for each sample. -/
def extentOf (elements : Nat) : Extent :=
  if elements = 0 then .value 0
  else .placeholder ⟨s!"N * {elements * Words.elementSize}",
    .binary .mul (.name "N") (.int ↑(elements * Words.elementSize))⟩

theorem perSample_eq_ok (elements : Nat)
    (hfits : (elements * Words.elementSize : Nat) ≤ Words.maxSigned) :
    perSample (elements * Words.elementSize) = .ok (extentOf elements) := by
  unfold perSample extentOf
  by_cases hnone : elements = 0
  · rw [if_pos (by rw [hnone, Nat.zero_mul]), if_pos hnone]
  · have hsome : ¬ elements * Words.elementSize = 0 := by
      simp only [Words.elementSize]
      omega
    rw [if_neg hsome, if_neg hnone]
    simp only [Placeholder.parse_product _ hfits]

/-- The bytes that so many elements for each sample of a batch take. -/
def batchBytes (batch elements : Nat) : Nat := batch * (elements * Words.elementSize)

theorem batchBytes_eq (batch elements : Nat) :
    batchBytes batch elements = Words.elementSize * (batch * elements) := by
  rw [batchBytes, ← Nat.mul_assoc, Nat.mul_comm]

theorem batchBytes_le {batch few many : Nat} (hle : few ≤ many) :
    batchBytes batch few ≤ batchBytes batch many :=
  Nat.mul_le_mul_left batch (Nat.mul_le_mul_right Words.elementSize hle)

theorem batchBytes_add (batch first second : Nat) :
    batchBytes batch (first + second) = batchBytes batch first + batchBytes batch second := by
  rw [batchBytes, Nat.add_mul, Nat.mul_add]
  rfl

theorem resolve_extentOf {bindings : Bindings} {batch : Nat} (elements : Nat)
    (hbound : bindings.get? "N" = some (batch : Int))
    (hfits : (batchBytes batch elements : Int) ≤ Words.maxSigned) :
    (extentOf elements).resolve bindings = .ok (batchBytes batch elements) := by
  by_cases hnone : elements = 0
  · simp [hnone, extentOf, Extent.resolve, batchBytes]
  · have hlow : Words.minSigned ≤ (batchBytes batch elements : Int) := by
      simp only [Words.minSigned]
      omega
    have hwithin : Words.signed? (batchBytes batch elements : Int) =
        some ↑(batchBytes batch elements) := if_pos ⟨hlow, hfits⟩
    have hproduct : (batch : Int) * ↑(elements * Words.elementSize) = batchBytes batch elements :=
      (Nat.cast_mul batch (elements * Words.elementSize)).symm
    rw [extentOf, if_neg hnone]
    simp only [Extent.resolve, Placeholder.eval, Expr.eval, hbound, Expr.apply, hproduct,
      Expr.checked, hwithin]
    rw [if_pos (Int.natCast_nonneg _), Int.toNat_natCast]

/-! ### The dynamic part -/

def Tensor.allocation (tensor : Tensor) : DynamicAllocation :=
  ⟨tensor.name, extentOf tensor.place, extentOf tensor.width⟩

/-- The dynamic part of a layout whose tensors have these lengths. -/
def dynamicPart (tensors : List (String × Nat)) : DynamicRegion :=
  ⟨extentOf (sampleLength tensors),
    .ofList ((arranged 0 tensors).map fun tensor => (tensor.name, tensor.allocation))⟩

theorem pushTensors_eq_ok (layout : Layout) (place : Nat) (tensors : List (String × Nat))
    (hfits : ((place + sampleLength tensors) * Words.elementSize : Nat) ≤ Words.maxSigned) :
    pushTensors layout (place * Words.elementSize) tensors = .ok { layout with floating :=
      ⟨extentOf (place + sampleLength tensors),
        ((arranged place tensors).map fun tensor => (tensor.name, tensor.allocation)).foldl
          (fun table pair => table.insert pair.1 pair.2) layout.floating.allocations⟩ } := by
  induction tensors generalizing layout place with
  | nil =>
    rw [pushTensors, perSample_eq_ok place hfits]
    rfl
  | cons tensor rest ih =>
    obtain ⟨name, width⟩ := tensor
    have hwhole :
      place + sampleLength ((name, width) :: rest) = place + width + sampleLength rest :=
      (Nat.add_assoc place width _).symm
    rw [hwhole] at hfits ⊢
    have hscaled : place * Words.elementSize + width * Words.elementSize =
        (place + width) * Words.elementSize := (Nat.add_mul _ _ _).symm
    simp only [Words.elementSize] at hfits
    rw [pushTensors, perSample_eq_ok place (by simp only [Words.elementSize]; omega),
      perSample_eq_ok width (by simp only [Words.elementSize]; omega)]
    show pushTensors (layout.pushDynamic name (extentOf place) (extentOf width))
      (place * Words.elementSize + width * Words.elementSize) rest = _
    rw [hscaled, ih _ _ (by simp only [Words.elementSize]; omega)]
    rfl

/-- The layout of a batch: the static part as it was, and each tensor behind as many samples of
those in front of it as there are in the batch. -/
structure Batched (fixed : StaticRegion) (tensors : List (String × Nat)) (batch : Nat)
    (layout : Layout) : Prop where
  fixed_eq : layout.fixed = fixed
  settled : layout.Settled (fixed.size + batchBytes batch (sampleLength tensors))
  found : ∀ tensor ∈ arranged 0 tensors, layout.floating.allocations.get? tensor.name =
    some ⟨tensor.name, .value (batchBytes batch tensor.place),
      .value (batchBytes batch tensor.width)⟩

section Binding

variable {fixed : StaticRegion} {tensors : List (String × Nat)} {batch : Nat} {bindings : Bindings}

theorem tensor_of_mem_dynamicPart {entry : String × DynamicAllocation}
    (hmem : entry ∈ (dynamicPart tensors).allocations.entries) :
    ∃ tensor ∈ arranged 0 tensors, entry = (tensor.name, tensor.allocation) := by
  obtain ⟨tensor, harranged, hsame⟩ := List.mem_map.mp (NameTable.mem_of_mem_ofList hmem)
  exact ⟨tensor, harranged, hsame.symm⟩

theorem batchBytes_tensor_le (batch : Nat) {tensor : Tensor}
    (hmem : tensor ∈ arranged 0 tensors) :
    batchBytes batch tensor.place + batchBytes batch tensor.width ≤
      batchBytes batch (sampleLength tensors) := by
  rw [← batchBytes_add]
  exact batchBytes_le (Nat.zero_add (sampleLength tensors) ▸ place_add_width_le hmem)

theorem bindAllocation_tensor (hbound : bindings.get? "N" = some (batch : Int))
    (hfits : (batchBytes batch (sampleLength tensors) : Int) ≤ Words.maxSigned) {tensor : Tensor}
    (hmem : tensor ∈ arranged 0 tensors) :
    Layout.bindAllocation bindings (tensor.name, tensor.allocation) =
      .ok ⟨tensor.name, .value (batchBytes batch tensor.place),
        .value (batchBytes batch tensor.width)⟩ := by
  have hinside := batchBytes_tensor_le batch hmem
  have hplace := resolve_extentOf tensor.place hbound (by omega)
  have hwidth := resolve_extentOf tensor.width hbound (by omega)
  exact bind_eq_ok_iff.mpr ⟨_, hplace, bind_eq_ok_iff.mpr ⟨_, hwidth, rfl⟩⟩

theorem bind_dynamicPart (hpacked : Layout.Packed fixed) (hdistinct : (tensors.map (·.1)).Nodup)
    (hfresh : ∀ name ∈ tensors.map (·.1), fixed.allocations.get? name = none)
    (hbound : bindings.get? "N" = some (batch : Int))
    (hfits : (batchBytes batch (sampleLength tensors) : Int) ≤ Words.maxSigned)
    (haddressable : fixed.size + batchBytes batch (sampleLength tensors) < Words.limit) :
    ∃ layout, (⟨fixed, dynamicPart tensors⟩ : Layout).bind bindings = .ok layout ∧
      Batched fixed tensors batch layout := by
  obtain ⟨image, hwalked⟩ := (dynamicPart tensors).allocations.exists_traverse_eq_ok
    (Layout.bindAllocation bindings) fun entry hmem => by
      obtain ⟨tensor, hplaced, rfl⟩ := tensor_of_mem_dynamicPart hmem
      exact ⟨_, bindAllocation_tensor hbound hfits hplaced⟩
  let layout : Layout := ⟨fixed, .value (batchBytes batch (sampleLength tensors)), image⟩
  have hresolved : (⟨fixed, dynamicPart tensors⟩ : Layout).resolve bindings = .ok layout :=
    bind_eq_ok_iff.mpr ⟨image, hwalked,
      bind_eq_ok_iff.mpr ⟨_, resolve_extentOf _ hbound hfits, rfl⟩⟩
  have haligned (elements : Nat) : Words.elementSize ∣ batchBytes batch elements :=
    ⟨_, batchBytes_eq batch elements⟩
  have hsettled : layout.Settled (fixed.size + batchBytes batch (sampleLength tensors)) := by
    refine Layout.settled_of_packed hpacked rfl (haligned _) haddressable fun entry hmem => ?_
    obtain ⟨before, hearlier, hnames, hresult⟩ := NameTable.mem_of_traverse _ _ hwalked hmem
    obtain ⟨tensor, hplaced, rfl⟩ := tensor_of_mem_dynamicPart hearlier
    rw [bindAllocation_tensor hbound hfits hplaced] at hresult
    obtain ⟨name, allocation⟩ := entry
    cases hnames
    cases hresult
    have hdeclared : tensor.name ∈ tensors.map (·.1) :=
      map_name_arranged 0 tensors ▸ List.mem_map_of_mem hplaced
    exact ⟨_, _, rfl, rfl, hfresh _ hdeclared, haligned _, haligned _,
      batchBytes_tensor_le _ hplaced⟩
  refine ⟨layout, bind_eq_ok_iff.mpr ⟨layout, hresolved, check_bind_eq_ok_iff.mpr
    ⟨(Layout.validate_eq_ok_iff layout).mpr hsettled.check_ok, rfl⟩⟩, rfl, hsettled, ?_⟩
  intro tensor hmem
  refine NameTable.get?_traverse hwalked (NameTable.get?_ofList ?_ (List.mem_map_of_mem hmem))
    (bindAllocation_tensor hbound hfits hmem)
  rw [List.map_map]
  exact (map_name_arranged 0 tensors).symm ▸ hdistinct

end Binding

/-- The elements of a tensor for all samples of a batch, behind `base` static elements. -/
def Tensor.slice (base batch : Nat) (tensor : Tensor) : Slice :=
  ⟨base + batch * tensor.place, batch * tensor.width⟩

theorem add_batchBytes_div (bytes batch elements : Nat) :
    (bytes + batchBytes batch elements) / Words.elementSize =
      bytes / Words.elementSize + batch * elements := by
  rw [batchBytes_eq, Nat.add_mul_div_left _ _ (by decide)]

namespace Batched

variable {fixed : StaticRegion} {tensors : List (String × Nat)} {batch : Nat} {layout : Layout}

theorem placement_tensor (hbatched : Batched fixed tensors batch layout) {tensor : Tensor}
    (hmem : tensor ∈ arranged 0 tensors) :
    layout.placement tensor.name = .ok ⟨tensor.name, .floating,
      fixed.size + batchBytes batch tensor.place, batchBytes batch tensor.width⟩ :=
  hbatched.fixed_eq ▸ (hbatched.settled.placement_known (hbatched.found tensor hmem)).1

theorem sliceOf_tensor (hbatched : Batched fixed tensors batch layout) {tensor : Tensor}
    (hmem : tensor ∈ arranged 0 tensors) :
    Step.sliceOf layout tensor.name =
      .ok (tensor.slice (fixed.size / Words.elementSize) batch) := by
  have hlength : batchBytes batch tensor.width / Words.elementSize = batch * tensor.width := by
    simpa using add_batchBytes_div 0 batch tensor.width
  refine (Step.sliceOf_eq_ok_iff _ _ _).mpr ⟨_, hbatched.placement_tensor hmem, ?_⟩
  simp only [Placement.start, Placement.length, Tensor.slice, add_batchBytes_div, hlength]

theorem sliceOf_static (hbatched : Batched fixed tensors batch layout) {name : String}
    {allocation : StaticAllocation} (hfound : fixed.allocations.get? name = some allocation) :
    Step.sliceOf layout name =
      .ok ⟨allocation.offset / Words.elementSize, allocation.size / Words.elementSize⟩ :=
  (Step.sliceOf_eq_ok_iff _ _ _).mpr
    ⟨_, (hbatched.settled.placement_static (hbatched.fixed_eq.symm ▸ hfound)).1, rfl⟩

end Batched

end TensorBench.KernelGraph.Perceptron
