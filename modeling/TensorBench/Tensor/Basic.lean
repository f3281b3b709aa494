import TensorBench.Number.Scalar
import TensorBench.Tensor.Rows
import TensorBench.Words

/-!
Dense tensors of any rank: a shape and the elements in row-major order. A tensor of the empty shape
has one element.
-/
namespace TensorBench

structure Tensor (α : Type) where
  shape : List Nat
  values : List α
deriving DecidableEq, Inhabited

namespace Tensor

variable {α : Type}

/-- The elements are as many as the shape asks for, and a word counts them. -/
structure WellFormed (x : Tensor α) : Prop where
  length_eq : x.values.length = Words.product x.shape
  length_lt : x.values.length < Words.limit

def full (shape : List Nat) (value : α) : Tensor α :=
  ⟨shape, List.replicate (Words.product shape) value⟩

theorem wellFormed_full {shape : List Nat} (h : Words.product shape < Words.limit) (value : α) :
    (full shape value).WellFormed := by
  constructor <;> simp [full, h]

/-- All elements on one axis. -/
def flatten (x : Tensor α) : Tensor α := ⟨[x.values.length], x.values⟩

/-- The lanes along the last axis. A tensor without axes is one lane of one element. -/
def lanes (x : Tensor α) : List (List α) :=
  Rows.split (x.shape.getLast?.getD 1) (Words.product x.shape.dropLast) x.values

/-- Rework each lane along the last axis. -/
def mapLanes (f : List α → List α) (x : Tensor α) : Tensor α := ⟨x.shape, x.lanes.flatMap f⟩

/-- The mean over the first axis, which needs at least one entry. -/
def meanFirst? [Scalar α] (x : Tensor α) : Option (Tensor α) :=
  match x.shape with
  | [] => none
  | 0 :: _ => none
  | count :: rest =>
      let stride := Words.product rest
      let elements := x.values.toArray
      let mean (column : Nat) : α :=
        Scalar.div (Scalar.sum ((List.range count).filterMap fun row =>
          elements[row * stride + column]?)) (Scalar.ofNat count)
      some ⟨rest, (List.range stride).map mean⟩

end Tensor

end TensorBench
