import TensorBench.LayerStack.WeightTable
import TensorBench.Tensor.Basic
import TensorBench.Words

/-!
Models: layer stacks whose weights are resolved and whose shapes have been followed from the input
to the output. Features lie on the last axis.
-/
namespace TensorBench

inductive Layer (α : Type) where
  | flatten
  | globalAveragePooling
  /-- A row of weights and a bias for each unit, then an activation of the whole vector. -/
  | dense (inputs : Nat) (rows : List (List α)) (bias : List α) (function : Activation)
  /-- `x * scale + shift` along the last axis. -/
  | normalization (scale shift : List α)
  | activation (function : Activation)
  | identity
deriving DecidableEq, Inhabited

structure Model (α : Type) where
  name : String
  layers : List (String × Layer α)
  inputShape : List Nat
  outputShape : List Nat
deriving DecidableEq, Inhabited

namespace Model

open LayerStack

variable {α : Type}

/-- One row per unit out of a matrix with one row per input. -/
def unitRows (inputs units : Nat) (kernel : List α) : List (List α) :=
  let elements := kernel.toArray
  (List.range units).map fun unit =>
    (List.range inputs).filterMap fun input => elements[input * units + unit]?

/-- The dimensions other than zero multiply to an addressable size. -/
def addressable (shape : List Nat) : Bool :=
  Words.product (shape.filter (· != 0)) ≤ Words.maxSigned.toNat

def buildDense (table : WeightTable α) (shape : List Nat) (name : String) (units : Nat)
    (function : Activation) : Except Failure (Layer α × List Nat) :=
  match shape with
  | [inputs] => do
      let kernel ← table.get name "kernel" [inputs, units]
      let bias ← table.get name "bias" [units]
      if addressable [inputs, units] = false then
        throw (buildFailure name "ShapeError/Overflow: arithmetic overflow")
      return (.dense inputs (unitRows inputs units kernel) bias function, [units])
  | _ =>
      throw (buildFailure name s!"expects a flat input, got {Text.bracketed shape}")

/-- The statistics of a normalization, folded into one factor and one summand per channel. -/
def foldStatistics [Scalar α] (epsilon : α) (gamma beta mean variance : List α) :
    List α × List α :=
  let scale := List.zipWith (fun g v => Scalar.div g (Scalar.sqrt (Scalar.add v epsilon)))
    gamma variance
  let shift := List.zipWith (fun (b, m) s => Scalar.sub b (Scalar.mul m s)) (beta.zip mean) scale
  (scale, shift)

def buildNormalization [Scalar α] (table : WeightTable α) (shape : List Nat) (name : String)
    (epsilon : Binary32) : Except Failure (Layer α × List Nat) :=
  match shape.getLast? with
  | none => throw (buildFailure name "expects at least one axis")
  | some channels => do
      let gamma ← table.get name "gamma" [channels]
      let beta ← table.get name "beta" [channels]
      let mean ← table.get name "moving_mean" [channels]
      let variance ← table.get name "moving_variance" [channels]
      let (scale, shift) := foldStatistics (Scalar.ofBits epsilon.bits) gamma beta mean variance
      return (.normalization scale shift, shape)

def buildPooling (shape : List Nat) (name : String) : Except Failure (Layer α × List Nat) :=
  match shape with
  | [_, _, channels] => .ok (.globalAveragePooling, [channels])
  | _ => .error (buildFailure name
      s!"expects a [height, width, channels] input, got {Text.bracketed shape}")

/-- A layer for inputs of the given shape, and the shape of its outputs. -/
def buildLayer [Scalar α] (table : WeightTable α) (shape : List Nat) :
    LayerSpec → Except Failure (Layer α × List Nat)
  | .flatten _ => .ok (.flatten, [Words.wrap (Words.product shape)])
  | .globalAveragePooling name => buildPooling shape name
  | .dense name units function => buildDense table shape name units function
  | .batchNormalization name epsilon => buildNormalization table shape name epsilon
  | .activation _ function => .ok (.activation function, shape)
  | .dropout _ _ => .ok (.identity, shape)

/-- All layers from an input shape on, and the shape of the outputs of the last one. -/
def buildLayers [Scalar α] (table : WeightTable α) (shape : List Nat) :
    List LayerSpec → Except Failure (List (String × Layer α) × List Nat)
  | [] => .ok ([], shape)
  | spec :: rest => do
      let (layer, next) ← buildLayer table shape spec
      let (layers, last) ← buildLayers table next rest
      return ((spec.name, layer) :: layers, last)

def build [Scalar α] (topology : Topology) (table : WeightTable α) (inputShape : List Nat) :
    Except Failure (Model α) := do
  let (layers, outputShape) ← buildLayers table inputShape topology.layers
  return ⟨topology.name, layers, inputShape, outputShape⟩

end Model

end TensorBench
