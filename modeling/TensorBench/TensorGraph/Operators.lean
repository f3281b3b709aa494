import TensorBench.Tasks
import TensorBench.Tensor.Rows
import TensorBench.TensorGraph.Volume
import TensorBench.TensorGraph.Window

/-!
Operators on volumes. Convolution and pooling never test single positions: for each tap of the
kernel they take the outputs that see the input through it as a block of rows and columns, and add
to or compare with the strided block of the input behind them. An operator gives nothing when an
operand would be read outside its bounds.
-/
namespace TensorBench

/-- A tap of a square kernel with the rows and columns of the output it serves. -/
structure Tap where
  row : Nat
  column : Nat
  rows : Window.Run
  columns : Window.Run
deriving DecidableEq, Inhabited

namespace Tap

/-- The taps that see anything of an input of the given shape, row by row. -/
def visible (size stride padding : Nat) (input output : VolumeShape) : List Tap :=
  (List.range size).flatMap fun row =>
    match Window.run? output.height input.height row stride padding with
    | none => []
    | some rows => (List.range size).filterMap fun column =>
        (Window.run? output.width input.width column stride padding).map fun columns =>
          ⟨row, column, rows, columns⟩

def covers (tap : Tap) (row column : Nat) : Bool :=
  tap.rows.covers row && tap.columns.covers column

/-- The block of the input behind the tap lies inside the input. -/
def fits (tap : Tap) (stride : Nat) (input : VolumeShape) : Bool :=
  tap.rows.last stride < input.height && tap.columns.last stride < input.width

/-- The input element that an output sees through the tap. -/
def seen {α : Type} [Scalar α] (tap : Tap) (stride : Nat) (x : Volume α)
    (channel row column : Nat) : α :=
  (x.at? channel (tap.rows.source stride row) (tap.columns.source stride column)).getD Scalar.zero

end Tap

/-- Weights of a convolution, in row-major order of output channel, input channel, row and
column. -/
structure Filter (α : Type) where
  outputs : Nat
  inputs : Nat
  height : Nat
  width : Nat
  values : Array α
deriving DecidableEq, Inhabited

namespace Filter

variable {α : Type}

def at? (filter : Filter α) (output input row column : Nat) : Option α :=
  if output < filter.outputs ∧ input < filter.inputs ∧ row < filter.height ∧
      column < filter.width then
    filter.values[((output * filter.inputs + input) * filter.height + row) * filter.width + column]?
  else none

end Filter

/-- A matrix in row-major order. -/
structure Matrix2 (α : Type) where
  rows : Nat
  columns : Nat
  values : Array α
deriving DecidableEq, Inhabited

namespace Operator

variable {α : Type} [Scalar α]

/-- The height and width of a windowed result; a window that does not fit leaves nothing. -/
def windowShape (channels size stride padding : Nat) (input : VolumeShape) : VolumeShape :=
  ⟨channels, (Window.outputLength? input.height size stride padding).getD 0,
    (Window.outputLength? input.width size stride padding).getD 0⟩

/-- Positions cannot be counted with a stride of zero, unless there are none to look at. -/
def countable (size stride padding : Nat) (input : VolumeShape) : Bool :=
  stride != 0 || size == 0 || input.height + padding == 0

/-- Add one input channel, seen through a tap and times a weight, to an output plane. -/
def addScaled? (x : Volume α) (stride : Nat) (output : VolumeShape) (tap : Tap) (channel : Nat)
    (weight : α) (plane : Array α) : Option (Array α) :=
  if tap.fits stride x.shape then
    some (plane.mapIdx fun position sum =>
      let row := output.rowOf position
      let column := output.columnOf position
      if tap.covers row column then
        Scalar.add sum (Scalar.mul weight (tap.seen stride x channel row column))
      else sum)
  else none

/-- One plane of a convolution: tap by tap, and for each tap channel by channel. -/
def convolvePlane? (x : Volume α) (filter : Filter α) (stride padding : Nat)
    (output : VolumeShape) (channel : Nat) : Option (Array α) :=
  let blank := Array.replicate output.plane Scalar.zero
  (Tap.visible filter.height stride padding x.shape output).foldlM (fun plane tap =>
    (List.range x.shape.channels).foldlM (fun plane input => do
      let weight ← filter.at? channel input tap.row tap.column
      addScaled? x stride output tap input weight plane) plane) blank

/-- Direct convolution with a square kernel, a plane for each output channel. -/
def conv2d? (x : Volume α) (filter : Filter α) (stride padding : Nat) (parallel : Bool) :
    Option (Volume α) :=
  if countable filter.height stride padding x.shape then do
    let output := windowShape filter.outputs filter.height stride padding x.shape
    let plane := convolvePlane? x filter stride padding output
    let channels := List.range filter.outputs
    let planes ← (if parallel then Tasks.map plane channels else channels.map plane).mapM id
    return ⟨output, (planes.map Array.toList).flatten.toArray⟩
  else none

/-- `x * scale + shift` in each channel that has both. -/
def batchNorm (x : Volume α) (scale shift : Array α) : Volume α :=
  ⟨x.shape, x.values.mapIdx fun position value =>
    let channel := x.shape.channelOf position
    match scale[channel]?, shift[channel]? with
    | some s, some b => Scalar.add (Scalar.mul value s) b
    | _, _ => value⟩

def relu (x : Volume α) : Volume α := ⟨x.shape, x.values.map Scalar.relu⟩

/-- The element of a volume at a place of a shape it has been joined to. -/
def stretched (x : Volume α) (channel row column : Nat) : α :=
  let along (length index : Nat) : Nat := if length = 1 then 0 else index
  (x.at? (along x.shape.channels channel) (along x.shape.height row)
    (along x.shape.width column)).getD Scalar.zero

/-- The sum of two volumes; axes of length 1 are repeated to match. -/
def add? (x y : Volume α) : Option (Volume α) :=
  if x.shape = y.shape then some ⟨x.shape, Array.zipWith Scalar.add x.values y.values⟩
  else do
    let shape ← VolumeShape.join? x.shape y.shape
    return ⟨shape, ((List.range shape.size).map fun position =>
      let channel := shape.channelOf position
      let row := shape.rowOf position
      let column := shape.columnOf position
      Scalar.add (stretched x channel row column) (stretched y channel row column)).toArray⟩

/-- Compare the outputs a tap serves with the elements they see through it. -/
def maxWith? (x : Volume α) (stride : Nat) (output : VolumeShape) (values : Array α) (tap : Tap) :
    Option (Array α) :=
  if tap.fits stride x.shape then
    some (values.mapIdx fun position top =>
      let row := output.rowOf position
      let column := output.columnOf position
      if tap.covers row column then
        Scalar.max top (tap.seen stride x (output.channelOf position) row column)
      else top)
  else none

/-- The maximum over windows; padding never contributes. -/
def maxPool? (x : Volume α) (size stride padding : Nat) : Option (Volume α) :=
  if countable size stride padding x.shape then do
    let output := windowShape x.shape.channels size stride padding x.shape
    let values ← (Tap.visible size stride padding x.shape output).foldlM
      (maxWith? x stride output) (Array.replicate output.size Scalar.negInf)
    return ⟨output, values⟩
  else none

/-- The mean of each channel; that of an empty plane is zero. -/
def globalAveragePool (x : Volume α) : Volume α :=
  let plane := x.shape.plane
  Volume.ofVector ((List.range x.shape.channels).map fun channel =>
    if plane = 0 then Scalar.zero
    else
      let elements := x.values.extract (channel * plane) ((channel + 1) * plane)
      Scalar.div (Rows.sumByEight elements.toList) (Scalar.ofNat plane)).toArray

/-- Add two vectors; one of length 1 is repeated to match. -/
def addVectors? (a b : List α) : Option (List α) :=
  match a, b with
  | [x], b => some (b.map (Scalar.add x))
  | a, [y] => some (a.map fun x => Scalar.add x y)
  | a, b => if a.length = b.length then some (List.zipWith Scalar.add a b) else none

/-- A fully connected layer over all elements. -/
def dense? (x : Volume α) (weights : Matrix2 α) (bias : Array α) : Option (Volume α) :=
  if weights.columns = x.values.size then do
    let inputs := x.values.toList
    let products := (List.range weights.rows).map fun row =>
      let factors := weights.values.extract (row * weights.columns) ((row + 1) * weights.columns)
      Rows.sumByEight (List.zipWith Scalar.mul factors.toList inputs)
    let sums ← addVectors? products bias.toList
    return .ofVector sums.toArray
  else none

end Operator

end TensorBench
