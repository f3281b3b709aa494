import TensorBench.Json.Decode
import TensorBench.Number.Scalar

/-!
Activation functions. All but one act on every element alone; the softmax makes a distribution of a
whole vector.
-/
namespace TensorBench

inductive Activation where
  | relu
  | sigmoid
  | tanh
  | softmax
  | linear
deriving DecidableEq, Inhabited

namespace Activation

def all : List Activation := [relu, sigmoid, tanh, softmax, linear]

def name : Activation → String
  | relu => "relu"
  | sigmoid => "sigmoid"
  | tanh => "tanh"
  | softmax => "softmax"
  | linear => "linear"

variable {α : Type} [Scalar α]

def maximum (values : List α) : α := values.foldl Scalar.max Scalar.negInf

/-- Exponentials of the distances to the maximum, divided by their sum if that is positive. -/
def distribution (values : List α) : List α :=
  let top := maximum values
  let powers := values.map fun v => Scalar.exp (Scalar.sub v top)
  let sum := Scalar.sum powers
  if Scalar.less Scalar.zero sum then powers.map fun v => Scalar.div v sum else powers

/-- The activation of a vector. -/
def apply : Activation → List α → List α
  | relu, values => values.map Scalar.relu
  | sigmoid, values => values.map Scalar.sigmoid
  | tanh, values => values.map Scalar.tanh
  | softmax, values => distribution values
  | linear, values => values

def toJson (activation : Activation) : Json := .str activation.name

def ofJson : Decoder Activation :=
  Decode.choice (all.map fun activation => (activation.name, activation))

end Activation

end TensorBench
