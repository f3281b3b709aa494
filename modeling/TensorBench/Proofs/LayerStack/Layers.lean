import TensorBench.LayerStack.Prediction
import TensorBench.Proofs.Sequencing
import TensorBench.Proofs.Words

/-!
Shapes through single layers. A layer fits two shapes if it is made for tensors of the first one;
then it gives tensors of the second one, whatever their elements are. Pooling is apart from that: it
fails for a feature map without height or width.
-/
namespace TensorBench

variable {α : Type}

/-! ### Rows and lanes -/

namespace Rows

end Rows

/-- A whole tensor of a shape. -/
structure Tensor.HasShape (x : Tensor α) (shape : List Nat) : Prop where
  shape_eq : x.shape = shape
  complete : x.WellFormed

namespace Tensor

variable [Scalar α]

end Tensor

namespace Layer

/-- The layer is made for tensors of the first shape and gives tensors of the second one. -/
inductive Fits : Layer α → List Nat → List Nat → Prop where
  | flatten (shape : List Nat) : Fits .flatten shape [Words.wrap (Words.product shape)]
  | dense (inputs : Nat) (rows : List (List α)) (bias : List α) (function : Activation)
      (hbiased : bias.length = rows.length) (hcounted : rows.length < Words.limit) :
      Fits (.dense inputs rows bias function) [inputs] [rows.length]
  | normalization {shape : List Nat} {channels : Nat} (scale shift : List α)
      (hlast : shape.getLast? = some channels) (hscaled : scale.length = channels)
      (hshifted : shift.length = channels) : Fits (.normalization scale shift) shape shape
  | activation (function : Activation) (shape : List Nat) : Fits (.activation function) shape shape
  | identity (shape : List Nat) : Fits .identity shape shape

variable [Scalar α]

theorem length_of_product? {inputs : Nat} {rows : List (List α)} {bias x values : List α}
    (h : product? inputs rows bias x = some values) : values.length = rows.length := by
  unfold product? at h
  split at h
  · rename_i hfits
    cases h
    rw [List.length_zipWith, List.length_map, hfits.2, Nat.min_self]
  · cases h

theorem length_of_unitwise? {inputs : Nat} {rows : List (List α)} {bias x values : List α}
    (h : unitwise? inputs rows bias x = some values) : values.length = rows.length :=
  (Sequencing.length_of_mapM_eq_some h).trans List.length_zipIdx

/-- A dense layer has an output for each row, however it is computed. -/
theorem length_of_units {parallel : Bool} {inputs : Nat} {rows : List (List α)}
    {bias x values : List α}
    (h : (if parallel then unitwise? inputs rows bias x else product? inputs rows bias x) =
      some values) : values.length = rows.length := by
  cases parallel with
  | true => exact length_of_unitwise? h
  | false => exact length_of_product? h

theorem product?_eq_some {inputs : Nat} {rows : List (List α)} {bias x : List α}
    (hfed : x.length = inputs) (hbiased : bias.length = rows.length) :
    ∃ values, product? inputs rows bias x = some values :=
  ⟨_, if_pos ⟨hfed, hbiased⟩⟩

/-- Unit by unit, the product is the same as in one piece. -/
theorem unitwise?_eq_product? {inputs : Nat} {rows : List (List α)} {bias x : List α}
    (hfed : x.length = inputs) (hbiased : bias.length = rows.length) :
    unitwise? inputs rows bias x = product? inputs rows bias x := by
  let unit (entry : List α × Nat) : α :=
    Scalar.add (dot entry.1 x) (bias[entry.2]?.getD Scalar.zero)
  have hcomputed : unitwise? inputs rows bias x = some (rows.zipIdx.map unit) := by
    apply Sequencing.mapM_eq_some
    intro ⟨row, index⟩ hmem
    have hinside : index < bias.length := hbiased ▸ List.snd_lt_of_mem_zipIdx hmem
    simp [hfed, unit, hinside]
  rw [hcomputed, product?, if_pos ⟨hfed, hbiased⟩]
  apply congrArg some
  apply List.ext_getElem?
  intro index
  rw [List.getElem?_map, List.getElem?_zipIdx, List.getElem?_zipWith, List.getElem?_map]
  by_cases hknown : index < rows.length
  · simp [unit, hknown, hbiased]
  · simp [hknown]

end Layer

end TensorBench
