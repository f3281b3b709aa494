import TensorBench.KernelGraph.Basic
import TensorBench.Layout.Check

/-!
Kernels with their operands resolved to element ranges of the data buffer. Sizes are checked here,
once, and nowhere later. The expected sizes of weights and of concatenations are words that wrap
around.
-/
namespace TensorBench

/-- Consecutive elements of the data buffer. -/
structure Slice where
  start : Nat
  length : Nat
deriving DecidableEq, Inhabited

inductive BinaryFunction where
  | add
  | mul
deriving DecidableEq, Inhabited

@[inline] def BinaryFunction.apply {α : Type} [Scalar α] : BinaryFunction → α → α → α
  | add => Scalar.add
  | mul => Scalar.mul

/-- What a step computes. Each part of a concatenation comes with the number of elements it
contributes to a row of the output. -/
inductive Operation where
  | linear (inFeatures : Nat) (x w : Slice)
  | combine (function : BinaryFunction) (x b : Slice)
  | concat (parts : List (Slice × Nat))
  | transform (function : UnaryFunction) (x : Slice)
deriving DecidableEq, Inhabited

structure Step where
  operation : Operation
  output : Slice
deriving DecidableEq, Inhabited

namespace Operation

/-- The ranges an operation reads. -/
def inputs : Operation → List Slice
  | linear _ x w => [x, w]
  | combine _ x b => [x, b]
  | concat parts => parts.map (·.1)
  | transform _ x => [x]

end Operation

namespace Step

/-- The kind of engine that runs kernel graphs. -/
def engineKind : String := "descriptor"

def sliceOf (layout : Layout) (name : String) : Except Failure Slice := do
  let placement ← layout.placement name
  return ⟨placement.start, placement.length⟩

def mismatch (kernel : Kernel) (message : String) : Failure :=
  .setup engineKind s!"{kernel.name} kernel: {message}"

/-- The inner length is that of `x` unless it is given. It divides `x` into at least one row, the
output into as many rows of equal length, and the weights have a row for each column of the
output. -/
def compileLinear (layout : Layout) (kernel : Kernel) (x w y : String)
    (inFeatures : Option Nat) : Except Failure Step := do
  let x ← sliceOf layout x
  let w ← sliceOf layout w
  let y ← sliceOf layout y
  let inner := inFeatures.getD x.length
  if inner = 0 ∨ x.length % inner ≠ 0 then
    throw (mismatch kernel s!"input of {x.length} elements is not a multiple of {inner}")
  let batch := x.length / inner
  if batch = 0 ∨ y.length % batch ≠ 0 then
    throw (mismatch kernel s!"output of {y.length} elements for batch {batch}")
  let outer := y.length / batch
  if w.length ≠ Words.wrap (inner * outer) then
    throw (mismatch kernel s!"weights have {w.length} elements, expected {outer} x {inner}")
  return ⟨.linear inner x w, y⟩

/-- Both operands have the length of the output; a bias need only divide it. -/
def compileBinary (layout : Layout) (kernel : Kernel) (function : BinaryFunction)
    (broadcast : Bool) (x b y : String) : Except Failure Step := do
  let x ← sliceOf layout x
  let b ← sliceOf layout b
  let y ← sliceOf layout y
  let compatible : Bool :=
    if broadcast then b.length != 0 && y.length % b.length == 0 else b.length == y.length
  if x.length ≠ y.length ∨ compatible = false then
    throw (mismatch kernel s!"operands of {x.length}, {b.length} and {y.length} elements")
  return ⟨.combine function x b, y⟩

def compileUnary (layout : Layout) (kernel : Kernel) (function : UnaryFunction)
    (x y : String) : Except Failure Step := do
  let x ← sliceOf layout x
  let y ← sliceOf layout y
  if x.length ≠ y.length then
    throw (mismatch kernel s!"{x.length} elements into {y.length}")
  return ⟨.transform function x, y⟩

/-- Shapes that agree everywhere but on the axis. -/
def agreesOffAxis (axis : Nat) (first shape : List Nat) : Bool :=
  shape.length == first.length && shape.take axis == first.take axis &&
    shape.drop (axis + 1) == first.drop (axis + 1)

/-- One part of a concatenation: its range and its share of an output row. -/
def compilePart (layout : Layout) (kernel : Kernel) (axis : Nat) (first : List Nat)
    (part : String × List Nat) : Except Failure (Slice × Nat) := do
  let (name, shape) := part
  let shapeText := Text.bracketed shape
  if agreesOffAxis axis first shape = false ∨ shape.contains 0 = true then
    throw (mismatch kernel
      s!"shape {shapeText} of '{name}' cannot join {Text.bracketed first} on axis {axis}")
  let slice ← sliceOf layout name
  if Words.product? shape ≠ some slice.length then
    throw (mismatch kernel s!"'{name}' holds {slice.length} elements, shape {shapeText}")
  return (slice, Words.product (shape.drop axis))

def compileConcat (layout : Layout) (kernel : Kernel) (xs : List String) (y : String)
    (axis : Nat) (shapes : List (List Nat)) : Except Failure Step := do
  match shapes with
  | [] => throw (mismatch kernel s!"{xs.length} inputs with {shapes.length} shapes")
  | first :: _ =>
      if xs.length ≠ shapes.length then
        throw (mismatch kernel s!"{xs.length} inputs with {shapes.length} shapes")
      if first.length ≤ axis then
        throw (mismatch kernel s!"axis {axis} out of range for rank {first.length}")
      let parts ← (xs.zip shapes).mapM (compilePart layout kernel axis first)
      let output ← sliceOf layout y
      let total := Words.wrap (parts.foldl (fun sum part => sum + part.1.length) 0)
      if output.length ≠ total then
        throw (mismatch kernel s!"output of {output.length} elements, inputs hold {total}")
      return ⟨.concat parts, output⟩

/-- Resolve the operands of a kernel and check that their sizes fit together. -/
def compile (layout : Layout) (kernel : Kernel) : Except Failure Step :=
  match kernel with
  | .linear x w y inFeatures => compileLinear layout kernel x w y inFeatures
  | .bias x b y => compileBinary layout kernel .add true x b y
  | .elementwiseSum x0 x1 y => compileBinary layout kernel .add false x0 x1 y
  | .elementwiseMul x0 x1 y => compileBinary layout kernel .mul false x0 x1 y
  | .concat xs y axis shapes => compileConcat layout kernel xs y axis shapes
  | .unary function x y => compileUnary layout kernel function x y

end Step

end TensorBench
