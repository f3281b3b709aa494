import TensorBench.Failure
import TensorBench.Random.Uniform
import TensorBench.TensorGraph.Operators

/-!
Building tensor graphs. Nodes are numbered in the order of their creation and refer to earlier nodes
by number. Each call checks the shapes it is given, and that there is room for its parameters, before
it draws weights, counts parameters or adds a node, so that a call that fails or crashes leaves no
trace.
-/
namespace TensorBench

/-- What a node computes, and from which nodes. -/
inductive NodeOperation (α : Type) where
  | input
  | conv2d (x : Nat) (filter : Filter α) (stride padding : Nat)
  | batchNorm (x : Nat) (scale shift : Array α)
  | relu (x : Nat)
  | maxPool (x size stride padding : Nat)
  | add (x y : Nat)
  | globalAveragePool (x : Nat)
  | dense (x : Nat) (weights : Matrix2 α) (bias : Array α)
deriving DecidableEq, Inhabited

namespace NodeOperation

/-- The operands, one for each use. -/
def inputs {α : Type} : NodeOperation α → List Nat
  | input => []
  | conv2d x _ _ _ => [x]
  | batchNorm x _ _ => [x]
  | relu x => [x]
  | maxPool x _ _ _ => [x]
  | add x y => [x, y]
  | globalAveragePool x => [x]
  | dense x _ _ => [x]

def isInput {α : Type} : NodeOperation α → Bool
  | input => true
  | _ => false

end NodeOperation

structure GraphNode (α : Type) where
  name : String
  operation : NodeOperation α
  shape : VolumeShape
deriving DecidableEq, Inhabited

/-- A request for a new node. Operands are node numbers and need not exist. -/
inductive NodeCall where
  | input (channels height width : Nat)
  | conv2d (name : String) (x outputs size stride padding : Nat)
  | batchNorm (name : String) (x : Nat)
  | relu (name : String) (x : Nat)
  | maxPool (name : String) (x size stride padding : Nat)
  | add (name : String) (x y : Nat)
  | globalAveragePool (name : String) (x : Nat)
  | dense (name : String) (x units : Nat)
deriving DecidableEq, Inhabited

/-- A graph under construction: its nodes, the source of its weights, the number of parameters. -/
structure GraphBuilder (α : Type) where
  nodes : Array (GraphNode α)
  stream : Random.KeyStream
  parameters : Nat
deriving DecidableEq, Inhabited

namespace GraphBuilder

variable {α : Type}

/-- The kind of engine that runs tensor graphs. -/
def engineKind : String := "resnet"

def ofSeed (seed : UInt64) : GraphBuilder α := ⟨#[], .ofSeed seed, 0⟩

/-- A call answers the number of the new node, and leaves a builder in any case. -/
abbrev Reply (α : Type) := Except Stop Nat × GraphBuilder α

def shapeOf (builder : GraphBuilder α) (id : Nat) : Except Failure VolumeShape :=
  match builder.nodes[id]? with
  | some node => .ok node.shape
  | none => .error (.notFound s!"graph node {id}")

/-- Append a node. -/
def push (builder : GraphBuilder α) (name : String) (operation : NodeOperation α)
    (shape : VolumeShape) : Reply α :=
  (.ok builder.nodes.size, { builder with nodes := builder.nodes.push ⟨name, operation, shape⟩ })

def count (builder : GraphBuilder α) (parameters : Nat) : GraphBuilder α :=
  { builder with parameters := builder.parameters + parameters }

/-- Continue with the shape of a node, if it exists. -/
def withShape (builder : GraphBuilder α) (id : Nat) (next : VolumeShape → Reply α) : Reply α :=
  match builder.shapeOf id with
  | .ok shape => next shape
  | .error failure => (.error (.failed failure), builder)

/-- Continue if there is room for parameters of a shape. What would be next is not begun before. -/
@[macro_inline]
def withRoom (builder : GraphBuilder α) (shape : List Nat) (next : Reply α) : Reply α :=
  match reserveArray shape with
  | .ok () => next
  | .error stop => (.error stop, builder)

def refuse (builder : GraphBuilder α) (name message : String) : Reply α :=
  (.error (.failed (.setup engineKind s!"{name}: {message}")), builder)

variable [Scalar α]

/-- The bound of initial weights, the square root of `6 / fanIn`. -/
def weightBound (fanIn : Nat) : α :=
  Scalar.sqrt (Scalar.div (Scalar.ofNat 6) (Scalar.ofNat (max fanIn 1)))

/-- Draw and count initial weights. -/
def drawWeights (builder : GraphBuilder α) (amount fanIn : Nat) : Array α × GraphBuilder α :=
  let (weights, stream) := Random.drawOnto #[] (weightBound fanIn) amount builder.stream
  (weights, { builder with stream := stream }.count weights.size)

def conv2d (builder : GraphBuilder α) (name : String) (x outputs size stride padding : Nat) :
    Reply α :=
  builder.withShape x fun shape =>
    match Window.outputLength? shape.height size stride padding,
        Window.outputLength? shape.width size stride padding with
    | some height, some width =>
        builder.withRoom [outputs, shape.channels, size, size] <|
          let amount := outputs * shape.channels * size * size
          let (weights, builder) := builder.drawWeights amount (shape.channels * size * size)
          builder.push name
            (.conv2d x ⟨outputs, shape.channels, size, size, weights⟩ stride padding)
            ⟨outputs, height, width⟩
    | _, _ => builder.refuse name
        s!"{size}x{size} kernel does not fit a {shape.height}x{shape.width} input"

/-- What is added to a variance, 0.00001. -/
def varianceOffset : α := Scalar.ofBits 0x3727c5ac

/-- The scale of a normalization with unit variance. -/
def unitScale : α :=
  Scalar.div Scalar.one (Scalar.sqrt (Scalar.add Scalar.one varianceOffset))

/-- A normalization has four parameters for each channel. -/
def batchNorm (builder : GraphBuilder α) (name : String) (x : Nat) : Reply α :=
  builder.withShape x fun shape =>
    builder.withRoom [shape.channels] <|
      (builder.count (4 * shape.channels)).push name
        (.batchNorm x (Array.replicate shape.channels unitScale)
          (Array.replicate shape.channels Scalar.zero)) shape

def relu (builder : GraphBuilder α) (name : String) (x : Nat) : Reply α :=
  builder.withShape x fun shape => builder.push name (.relu x) shape

def maxPool (builder : GraphBuilder α) (name : String) (x size stride padding : Nat) : Reply α :=
  builder.withShape x fun shape =>
    match Window.outputLength? shape.height size stride padding,
        Window.outputLength? shape.width size stride padding with
    | some height, some width =>
        if padding < size then
          builder.push name (.maxPool x size stride padding) ⟨shape.channels, height, width⟩
        else builder.refuse name s!"cannot pool a {shape.height}x{shape.width} input"
    | _, _ => builder.refuse name s!"cannot pool a {shape.height}x{shape.width} input"

def add (builder : GraphBuilder α) (name : String) (x y : Nat) : Reply α :=
  builder.withShape x fun left =>
    builder.withShape y fun right =>
      if left = right then builder.push name (.add x y) left
      else builder.refuse name s!"cannot add {left.text} and {right.text}"

def globalAveragePool (builder : GraphBuilder α) (name : String) (x : Nat) : Reply α :=
  builder.withShape x fun shape =>
    builder.push name (.globalAveragePool x) ⟨shape.channels, 1, 1⟩

def dense (builder : GraphBuilder α) (name : String) (x units : Nat) : Reply α :=
  builder.withShape x fun shape =>
    let features := shape.size
    builder.withRoom [units, features] <| builder.withRoom [units] <|
      let (weights, builder) := builder.drawWeights (units * features) features
      (builder.count units).push name
        (.dense x ⟨units, features, weights⟩ (Array.replicate units Scalar.zero)) ⟨units, 1, 1⟩

/-- Perform a call. -/
def perform (builder : GraphBuilder α) : NodeCall → Reply α
  | .input channels height width => builder.push "input" .input ⟨channels, height, width⟩
  | .conv2d name x outputs size stride padding => builder.conv2d name x outputs size stride padding
  | .batchNorm name x => builder.batchNorm name x
  | .relu name x => builder.relu name x
  | .maxPool name x size stride padding => builder.maxPool name x size stride padding
  | .add name x y => builder.add name x y
  | .globalAveragePool name x => builder.globalAveragePool name x
  | .dense name x units => builder.dense name x units

/-- Perform calls one after the other, whatever becomes of each. -/
def performAll (builder : GraphBuilder α) :
    List NodeCall → List (Except Stop Nat) × GraphBuilder α
  | [] => ([], builder)
  | call :: rest =>
      let (reply, builder) := builder.perform call
      let (replies, builder) := builder.performAll rest
      (reply :: replies, builder)

end GraphBuilder

end TensorBench
