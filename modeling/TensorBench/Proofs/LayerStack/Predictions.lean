import TensorBench.Proofs.LayerStack.Layers

/-!
Predictions of a model that was built. Building follows the shapes from layer to layer, so each
layer is made for the outputs of the one before it, and a prediction cannot fail except by pooling a
feature map without height or width.
-/
namespace TensorBench

variable {α : Type}

namespace Model

open Sequencing

theorem length_unitRows (inputs units : Nat) (kernel : List α) :
    (unitRows inputs units kernel).length = units := by
  simp [unitRows]

theorem buildPooling_fits {shape next : List Nat} {name : String} {layer : Layer α}
    (hbuilt : buildPooling shape name = .ok (layer, next)) :
    layer = .globalAveragePooling ∧
      ∃ height width channels, shape = [height, width, channels] ∧ next = [channels] := by
  unfold buildPooling at hbuilt
  split at hbuilt
  · rename_i height width channels
    cases hbuilt
    exact ⟨rfl, height, width, channels, rfl, rfl⟩
  · cases hbuilt

variable [Scalar α]

/-- How a layer comes from its description: it pools a feature map, or it fits the shapes before
and behind it. -/
inductive BuiltFrom : LayerSpec → Layer α → List Nat → List Nat → Prop where
  | pooling (name : String) (height width channels : Nat) :
      BuiltFrom (.globalAveragePooling name) .globalAveragePooling [height, width, channels]
        [channels]
  | plain {spec : LayerSpec} {layer : Layer α} {shape next : List Nat}
      (hplain : ∀ name, spec ≠ .globalAveragePooling name) (hfits : layer.Fits shape next) :
      BuiltFrom spec layer shape next

/-- One of the layers pools a feature map. -/
def Pools (specs : List LayerSpec) : Prop := ∃ name, LayerSpec.globalAveragePooling name ∈ specs

end Model

end TensorBench
