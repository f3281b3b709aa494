import TensorBench.Number.Binary32
import TensorBench.Proofs.LayerStack.Layers

/-!
Activations as layers of their own. A dense layer applies its activation to the whole vector of its
outputs; a layer for an activation goes over elements, or over lanes along the last axis. On a vector
both are the same, so the activation of a dense layer can be taken out of it: the models that are built
predict the same, and where one cannot be built the other cannot be built for the same reason.
-/
namespace TensorBench

/-- Descriptions of layers, and the same ones in which activations of some dense layers follow them as
layers of any name. -/
inductive Separates : List LayerSpec → List LayerSpec → Prop
  | nil : Separates [] []
  | keep (spec : LayerSpec) {fused separate : List LayerSpec} (hrest : Separates fused separate) :
      Separates (spec :: fused) (spec :: separate)
  | split (name : String) (units : Nat) (function : Activation) (label : String)
      {fused separate : List LayerSpec} (hrest : Separates fused separate) :
      Separates (.dense name units function :: fused)
        (.dense name units .linear :: .activation label function :: separate)

namespace Separates

theorem refl (specs : List LayerSpec) : Separates specs specs := by
  induction specs with
  | nil => exact .nil
  | cons spec rest ih => exact .keep spec ih

/-- One dense layer, wherever it stands. -/
theorem single (before after : List LayerSpec) (name : String) (units : Nat)
    (function : Activation) (label : String) :
    Separates (before ++ .dense name units function :: after)
      (before ++ .dense name units .linear :: .activation label function :: after) := by
  induction before with
  | nil => exact .split name units function label (refl after)
  | cons spec rest ih => exact .keep spec ih

end Separates

variable {α : Type}

namespace Layer

/-- Layers in which activations of some dense layers follow them. -/
inductive Separated : List (String × Layer α) → List (String × Layer α) → Prop
  | nil : Separated [] []
  | keep (layer : String × Layer α) {fused separate : List (String × Layer α)}
      (hrest : Separated fused separate) : Separated (layer :: fused) (layer :: separate)
  | split (name : String) (inputs : Nat) (rows : List (List α)) (bias : List α)
      (function : Activation) (label : String) {fused separate : List (String × Layer α)}
      (hrest : Separated fused separate) :
      Separated ((name, .dense inputs rows bias function) :: fused)
        ((name, .dense inputs rows bias .linear) :: (label, .activation function) :: separate)

variable [Scalar α]

/-! ### One layer -/

/-- On a vector, element by element or as its only lane, an activation is that of the whole. -/
theorem applyActivation_vector (function : Activation) (values : List α) :
    applyActivation function ⟨[values.length], values⟩ =
      ⟨[values.length], function.apply values⟩ := by
  cases function with
  | softmax =>
    have hlanes : (Tensor.mk [values.length] values).lanes = [values] := by
      change [values.take values.length] = [values]
      rw [List.take_length]
    change Tensor.mk _ ((Tensor.mk [values.length] values).lanes.flatMap _) = _
    rw [hlanes, List.flatMap_singleton]
  | linear => exact congrArg (Tensor.mk _) (List.flatMap_singleton' values)
  | relu => exact congrArg (Tensor.mk _) List.map_eq_flatMap.symm
  | sigmoid => exact congrArg (Tensor.mk _) List.map_eq_flatMap.symm
  | tanh => exact congrArg (Tensor.mk _) List.map_eq_flatMap.symm

theorem applyDense_eq_map (complain : String → Stop) (parallel : Bool) (inputs : Nat)
    (rows : List (List α)) (bias : List α) (function : Activation) (x : Tensor α) :
    applyDense complain parallel inputs rows bias function x =
      (applyDense complain parallel inputs rows bias .linear x).map (applyActivation function) := by
  unfold applyDense
  split
  · cases hunits : (if parallel then unitwise? inputs rows bias x.values
        else product? inputs rows bias x.values) with
    | none => rfl
    | some values =>
      have hlength := length_of_units hunits
      dsimp only
      rw [← hlength, ← applyActivation_vector]
      rfl
  · rfl

end Layer

namespace Model

variable [Scalar α]

open Layer (Separated)

/-! ### All layers -/

theorem predictFrom_cons (parallel : Bool) (x : Tensor α) (name : String) (layer : Layer α)
    (rest : List (String × Layer α)) :
    predictFrom parallel x ((name, layer) :: rest) =
      (layer.apply (complain name) parallel x >>= fun y => predictFrom parallel y rest) :=
  rfl

theorem predictFrom_separated {fused separate : List (String × Layer α)}
    (h : Separated fused separate) (parallel : Bool) (x : Tensor α) :
    predictFrom parallel x separate = predictFrom parallel x fused := by
  induction h generalizing x with
  | nil => rfl
  | keep layer hrest ih =>
    rw [predictFrom_cons, predictFrom_cons]
    exact congrArg _ (funext ih)
  | split name inputs rows bias function label hrest ih =>
    rw [predictFrom_cons, predictFrom_cons, Layer.apply, Layer.apply,
      Layer.applyDense_eq_map (complain name) parallel inputs rows bias function]
    cases Layer.applyDense (complain name) parallel inputs rows bias .linear x with
    | error stop => rfl
    | ok y => exact ih (Layer.applyActivation function y)

/-- Whether a dense layer can be built does not depend on its activation, nor do its weights. -/
theorem buildLayer_dense (table : WeightTable α) (shape : List Nat) (name : String) (units : Nat) :
    (∃ failure, ∀ function, buildLayer table shape (.dense name units function) = .error failure) ∨
      ∃ inputs rows bias, ∀ function, buildLayer table shape (.dense name units function) =
        .ok (.dense inputs rows bias function, [units]) := by
  change (∃ failure, ∀ function, buildDense table shape name units function = .error failure) ∨
    ∃ inputs rows bias, ∀ function, buildDense table shape name units function =
      .ok (.dense inputs rows bias function, [units])
  unfold buildDense
  split
  · rename_i inputs
    cases table.get name "kernel" [inputs, units] with
    | error failure => exact .inl ⟨failure, fun _ => rfl⟩
    | ok kernel =>
      cases table.get name "bias" [units] with
      | error failure => exact .inl ⟨failure, fun _ => rfl⟩
      | ok bias =>
        by_cases hoverflows : addressable [inputs, units] = false
        · exact .inl ⟨_, fun _ => (if_pos hoverflows).trans rfl⟩
        · exact .inr ⟨inputs, unitRows inputs units kernel, bias, fun _ => if_neg hoverflows⟩
  · exact .inl ⟨_, fun _ => rfl⟩

theorem buildLayers_cons_of_error {table : WeightTable α} {shape : List Nat} {spec : LayerSpec}
    {failure : Failure} (hfailed : buildLayer table shape spec = .error failure)
    (rest : List LayerSpec) : buildLayers table shape (spec :: rest) = .error failure := by
  rw [buildLayers, hfailed]
  rfl

theorem buildLayers_cons_of_ok {table : WeightTable α} {shape next : List Nat} {spec : LayerSpec}
    {layer : Layer α} (hbuilt : buildLayer table shape spec = .ok (layer, next))
    (rest : List LayerSpec) :
    buildLayers table shape (spec :: rest) =
      (buildLayers table next rest).map fun built => ((spec.name, layer) :: built.1, built.2) := by
  rw [buildLayers, hbuilt]
  change buildLayers table next rest >>= _ = _
  cases buildLayers table next rest <;> rfl

/-- Both descriptions fail for the same reason, or make layers that are separated like them. -/
theorem buildLayers_separates {fused separate : List LayerSpec} (h : Separates fused separate)
    (table : WeightTable α) (shape : List Nat) :
    (∃ failure, buildLayers table shape fused = .error failure ∧
      buildLayers table shape separate = .error failure) ∨
    ∃ layers others last, buildLayers table shape fused = .ok (layers, last) ∧
      buildLayers table shape separate = .ok (others, last) ∧ Separated layers others := by
  induction h generalizing shape with
  | nil => exact .inr ⟨[], [], shape, rfl, rfl, .nil⟩
  | keep spec hrest ih =>
    cases hsingle : buildLayer table shape spec with
    | error failure =>
      exact .inl ⟨failure, buildLayers_cons_of_error hsingle _, buildLayers_cons_of_error hsingle _⟩
    | ok built =>
      obtain ⟨layer, next⟩ := built
      rw [buildLayers_cons_of_ok hsingle, buildLayers_cons_of_ok hsingle]
      rcases ih next with
        ⟨failure, hfirst, hsecond⟩ | ⟨layers, others, last, hfirst, hsecond, hsame⟩
      · rw [hfirst, hsecond]
        exact .inl ⟨failure, rfl, rfl⟩
      · rw [hfirst, hsecond]
        exact .inr ⟨_, _, last, rfl, rfl, .keep _ hsame⟩
  | split name units function label hrest ih =>
    rcases buildLayer_dense table shape name units with
      ⟨failure, hfailed⟩ | ⟨inputs, rows, bias, hbuilt⟩
    · exact .inl ⟨failure, buildLayers_cons_of_error (hfailed function) _,
        buildLayers_cons_of_error (hfailed .linear) _⟩
    · rw [buildLayers_cons_of_ok (hbuilt function), buildLayers_cons_of_ok (hbuilt .linear),
        buildLayers_cons_of_ok rfl]
      rcases ih [units] with
        ⟨failure, hfirst, hsecond⟩ | ⟨layers, others, last, hfirst, hsecond, hsame⟩
      · rw [hfirst, hsecond]
        exact .inl ⟨failure, rfl, rfl⟩
      · rw [hfirst, hsecond]
        exact .inr ⟨_, _, last, rfl, rfl, .split name inputs rows bias function label hsame⟩

/-- The activation of a dense layer can follow it as a layer of its own. Whatever the weights and the
shape of the inputs are, both models fail to be built for the same reason, or both are built and every
prediction of one is that of the other. -/
theorem predict_separates (topology : Topology) {specs : List LayerSpec}
    (hseparates : Separates topology.layers specs) (table : WeightTable α)
    (inputShape : List Nat) :
    (∃ failure, build topology table inputShape = .error failure ∧
      build { topology with layers := specs } table inputShape = .error failure) ∨
    ∃ model other, build topology table inputShape = .ok model ∧
      build { topology with layers := specs } table inputShape = .ok other ∧
      other.outputShape = model.outputShape ∧
      ∀ (parallel : Bool) (input : Tensor α),
        other.predict parallel input = model.predict parallel input := by
  unfold build
  rcases buildLayers_separates hseparates table inputShape with
    ⟨failure, hfirst, hsecond⟩ | ⟨layers, others, last, hfirst, hsecond, hsame⟩
  · rw [hfirst, hsecond]
    exact .inl ⟨failure, rfl, rfl⟩
  · rw [hfirst, hsecond]
    refine .inr ⟨_, _, rfl, rfl, rfl, fun parallel input => ?_⟩
    rw [predict, predict, predictFrom_separated hsame]

/-- A dense layer between two others, with the softmax of its outputs. -/
def classified : Topology :=
  ⟨"classified", [.flatten "flat", .dense "head" 2 .softmax, .dropout "drop" Scalar.zero]⟩

theorem predict_separates_softmax :
    let separate : List LayerSpec := [.flatten "flat", .dense "head" 2 .linear,
      .activation "distribution" .softmax, .dropout "drop" Scalar.zero]
    let table : WeightTable Binary32 :=
      ⟨Array.replicate 6 Scalar.one, [⟨"head", "kernel", 0, 4, [2, 2]⟩, ⟨"head", "bias", 4, 2, [2]⟩]⟩
    Separates classified.layers separate ∧
      ∃ model other, build classified table [1, 2] = .ok model ∧
        build { classified with layers := separate } table [1, 2] = .ok other ∧
        other.layers.length = 4 ∧
        ∀ (parallel : Bool) (input : Tensor Binary32),
          other.predict parallel input = model.predict parallel input := by
  intro separate table
  have hseparates : Separates classified.layers separate :=
    .single [.flatten "flat"] [.dropout "drop" Scalar.zero] "head" 2 .softmax "distribution"
  refine ⟨hseparates, ?_⟩
  rcases predict_separates classified hseparates table [1, 2] with
    ⟨failure, hfailed, -⟩ | ⟨model, other, hfirst, hsecond, -, hsame⟩
  · cases hfailed
  · cases hsecond
    exact ⟨model, _, hfirst, rfl, rfl, hsame⟩

end Model

end TensorBench
