import TensorBench.Number.Scalar
import TensorBench.Words

/-!
Volumes: planes of equal height and width, one for each channel, in row-major order.
-/
namespace TensorBench

structure VolumeShape where
  channels : Nat
  height : Nat
  width : Nat
deriving DecidableEq, Inhabited

namespace VolumeShape

def plane (shape : VolumeShape) : Nat := shape.height * shape.width

def size (shape : VolumeShape) : Nat := shape.channels * shape.plane

def text (shape : VolumeShape) : String :=
  s!"({shape.channels}, {shape.height}, {shape.width})"

/-- The channel, row and column of a position. -/
def channelOf (shape : VolumeShape) (position : Nat) : Nat := position / shape.plane

def rowOf (shape : VolumeShape) (position : Nat) : Nat := position % shape.plane / shape.width

def columnOf (shape : VolumeShape) (position : Nat) : Nat := position % shape.width

/-- The position of a row and column of a channel. -/
def position (shape : VolumeShape) (channel row column : Nat) : Nat :=
  channel * shape.plane + row * shape.width + column

/-- Two lengths that are equal, or one of which is 1 and stands for the other. -/
def joinLength? (a b : Nat) : Option Nat :=
  if a = b then some a else if a = 1 then some b else if b = 1 then some a else none

/-- The shape of an operation on two volumes whose axes match or have length 1. -/
def join? (a b : VolumeShape) : Option VolumeShape := do
  return ⟨← joinLength? a.channels b.channels, ← joinLength? a.height b.height,
    ← joinLength? a.width b.width⟩

end VolumeShape

structure Volume (α : Type) where
  shape : VolumeShape
  values : Array α
deriving DecidableEq, Inhabited

namespace Volume

variable {α : Type}

/-- The elements are as many as the shape asks for. -/
def WellFormed (x : Volume α) : Prop := x.values.size = x.shape.size

def full (shape : VolumeShape) (value : α) : Volume α := ⟨shape, Array.replicate shape.size value⟩

theorem wellFormed_full (shape : VolumeShape) (value : α) : (full shape value).WellFormed := by
  simp [WellFormed, full]

/-- A vector as one element per channel. -/
def ofVector (values : Array α) : Volume α := ⟨⟨values.size, 1, 1⟩, values⟩

def at? (x : Volume α) (channel row column : Nat) : Option α :=
  if channel < x.shape.channels ∧ row < x.shape.height ∧ column < x.shape.width then
    x.values[x.shape.position channel row column]?
  else none

/-- The memory taken by the elements. -/
def bytes (x : Volume α) : Nat := x.values.size * Words.elementSize

end Volume

end TensorBench
