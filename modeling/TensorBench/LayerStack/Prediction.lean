import TensorBench.LayerStack.Model

/-!
Applying a model to a tensor. Dense layers can be computed as one matrix product or unit by unit.
-/
namespace TensorBench

variable {α : Type} [Scalar α]

namespace Layer

def dot (row x : List α) : α := Rows.sumByEight (List.zipWith Scalar.mul row x)

/-- The product of all rows with a vector, and the biases added. -/
def product? (inputs : Nat) (rows : List (List α)) (bias x : List α) : Option (List α) :=
  if x.length = inputs ∧ bias.length = rows.length then
    some (List.zipWith Scalar.add (rows.map fun row => dot row x) bias)
  else none

/-- One unit after the other. -/
def unitwise? (inputs : Nat) (rows : List (List α)) (bias x : List α) : Option (List α) :=
  rows.zipIdx.mapM fun (row, unit) =>
    if x.length = inputs then (bias[unit]?).map (Scalar.add (dot row x)) else none

def applyDense (complain : String → Stop) (parallel : Bool) (inputs : Nat)
    (rows : List (List α)) (bias : List α) (function : Activation) (x : Tensor α) :
    Except Stop (Tensor α) :=
  match x.shape with
  | [_] =>
      let units := if parallel then unitwise? inputs rows bias x.values
        else product? inputs rows bias x.values
      match units with
      | some values => .ok ⟨[rows.length], function.apply values⟩
      | none => .error .crashed
  | _ => .error (complain "ShapeError/IncompatibleShape: incompatible shapes")

/-- One factor and one summand for each element of a lane. -/
def scaleLane (scale shift lane : List α) : List α :=
  List.zipWith (fun v (s, b) => Scalar.add (Scalar.mul v s) b) lane (scale.zip shift)

def applyNormalization (scale shift : List α) (x : Tensor α) : Except Stop (Tensor α) :=
  if x.shape = [] then .error .crashed
  else if x.lanes.all (fun lane => lane.length == scale.length && lane.length == shift.length) then
    .ok (x.mapLanes (scaleLane scale shift))
  else .error .crashed

def applyActivation (function : Activation) (x : Tensor α) : Tensor α :=
  match function with
  | .softmax => x.mapLanes function.apply
  | _ => ⟨x.shape, x.values.flatMap fun v => function.apply [v]⟩

/-- The mean over height and width. -/
def pool? (x : Tensor α) : Option (Tensor α) := x.meanFirst?.bind Tensor.meanFirst?

def apply (complain : String → Stop) (parallel : Bool) (x : Tensor α) :
    Layer α → Except Stop (Tensor α)
  | flatten => .ok x.flatten
  | globalAveragePooling =>
      match pool? x with
      | some pooled => .ok pooled
      | none => .error (complain "cannot pool an empty feature map")
  | dense inputs rows bias function => applyDense complain parallel inputs rows bias function x
  | normalization scale shift => applyNormalization scale shift x
  | activation function => .ok (applyActivation function x)
  | identity => .ok x

end Layer

namespace Model

open LayerStack

def complain (layer message : String) : Stop :=
  .failed (.execution engineKind (complaint layer message))

/-- One layer after the other. -/
def predictFrom (parallel : Bool) (x : Tensor α) :
    List (String × Layer α) → Except Stop (Tensor α)
  | [] => .ok x
  | (name, layer) :: rest => do
      predictFrom parallel (← layer.apply (complain name) parallel x) rest

/-- The output for one input, which has the shape the model was built for. -/
def predict (model : Model α) (parallel : Bool) (input : Tensor α) : Except Stop (Tensor α) :=
  if input.shape = model.inputShape then predictFrom parallel input model.layers
  else .error (.failed (.execution engineKind
    s!"input shape {Text.bracketed input.shape} does not match {Text.bracketed model.inputShape}"))

/-- A black square image. -/
def zeroInput (resolution : Nat) : Except Stop (Tensor α) := do
  let shape := [resolution, resolution, 3]
  reserveArray shape
  return .full shape Scalar.zero

end Model

end TensorBench
