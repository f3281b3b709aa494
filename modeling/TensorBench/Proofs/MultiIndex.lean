import Mathlib.Data.List.Forall2
import TensorBench.Proofs.Words

/-!
Multi-indices of shapes. In row-major order they are numbered without gaps: each position below the
count of elements is the place of exactly one multi-index.
-/
namespace TensorBench.MultiIndex

open Words

/-- The index has a coordinate for each axis of the shape, below the length of that axis. -/
def Within (index shape : List Nat) : Prop := List.Forall₂ (· < ·) index shape

/-- The position of an element in row-major order. -/
def place : (shape index : List Nat) → Nat
  | _ :: shape, i :: index => i * product shape + place shape index
  | _, _ => 0

end TensorBench.MultiIndex
