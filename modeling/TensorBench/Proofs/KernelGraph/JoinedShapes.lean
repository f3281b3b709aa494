import Mathlib.Data.List.Basic
import Mathlib.Tactic.Common
import TensorBench.Proofs.MultiIndex

/-!
Shapes joined along an axis. An element of an input keeps its coordinates in the result but for the
one along the axis, which grows by the lengths of the inputs in front. Every position of the result
is the place of exactly one element of one input.
-/
namespace TensorBench.Concatenation

open MultiIndex Words

/-- The lengths of the shapes along the axis, taken together. -/
def lengthAlong (axis : Nat) : List (List Nat) → Nat
  | [] => 0
  | shape :: rest => shape.getD axis 0 + lengthAlong axis rest

/-- The shape of the result: all lengths along the axis, and elsewhere those of the first input. -/
def joinedShape (axis : Nat) (shapes : List (List Nat)) : List Nat :=
  (shapes.headD []).set axis (lengthAlong axis shapes)

/-- An element of one of the inputs. -/
structure Source where
  input : Nat
  index : List Nat

namespace Source

/-- The input exists and the index lies within its shape. -/
def Valid (source : Source) (shapes : List (List Nat)) : Prop :=
  ∃ shape, shapes[source.input]? = some shape ∧ Within source.index shape

/-- The index of the element in the result. -/
def target (axis : Nat) (shapes : List (List Nat)) (source : Source) : List Nat :=
  source.index.modify axis (· + lengthAlong axis (shapes.take source.input))

/-- The position of the element in the result. -/
def position (axis : Nat) (shapes : List (List Nat)) (source : Source) : Nat :=
  place (joinedShape axis shapes) (source.target axis shapes)

end Source

namespace Joinable

variable {axis : Nat} {outer inner : List Nat} {shapes : List (List Nat)}

end Joinable

end TensorBench.Concatenation
