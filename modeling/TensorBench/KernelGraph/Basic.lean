import TensorBench.Layout.Codec

/-!
Kernel graphs: a memory layout, a sequence of kernels over its allocations, the names of the inputs
and outputs, the encoding of the weight file and default bindings for the layout's placeholders.
-/
namespace TensorBench

/-- Functions applied to each element alone. -/
inductive UnaryFunction where
  | relu
  | sigmoid
  | tanh
  | copy
deriving DecidableEq, Inhabited

/-- One kernel; its operands name allocations. -/
inductive Kernel where
  /-- Row vectors `x` times the transpose of `w`, whose rows have the inner length. -/
  | linear (x w y : String) (inFeatures : Option Nat)
  /-- The sum with `b` repeated along the last axis. -/
  | bias (x b y : String)
  | elementwiseSum (x0 x1 y : String)
  | elementwiseMul (x0 x1 y : String)
  /-- Tensors of the given shapes joined along an axis. -/
  | concat (xs : List String) (y : String) (axis : Nat) (shapes : List (List Nat))
  | unary (function : UnaryFunction) (x y : String)
deriving DecidableEq, Inhabited

namespace UnaryFunction

def name : UnaryFunction → String
  | relu => "relu"
  | sigmoid => "sigmoid"
  | tanh => "tanh"
  | copy => "copy"

@[inline] def apply {α : Type} [Scalar α] : UnaryFunction → α → α
  | relu => Scalar.relu
  | sigmoid => Scalar.sigmoid
  | tanh => Scalar.tanh
  | copy => id

end UnaryFunction

namespace Kernel

def name : Kernel → String
  | linear .. => "linear"
  | bias .. => "bias"
  | elementwiseSum .. => "elementwise_sum"
  | elementwiseMul .. => "elementwise_mul"
  | concat .. => "concat"
  | unary function _ _ => function.name

/-- The allocation a kernel writes. -/
def output : Kernel → String
  | linear _ _ y _ => y
  | bias _ _ y => y
  | elementwiseSum _ _ y => y
  | elementwiseMul _ _ y => y
  | concat _ y _ _ => y
  | unary _ _ y => y

def members : Kernel → List (String × Json)
  | linear x w y inFeatures =>
      [("x", .str x), ("w", .str w), ("y", .str y),
        ("in_features", Json.ofOption .nat inFeatures)]
  | bias x b y => [("x", .str x), ("b", .str b), ("y", .str y)]
  | elementwiseSum x0 x1 y => [("x0", .str x0), ("x1", .str x1), ("y", .str y)]
  | elementwiseMul x0 x1 y => [("x0", .str x0), ("x1", .str x1), ("y", .str y)]
  | concat xs y axis shapes =>
      [("xs", .arr (xs.map .str)), ("y", .str y), ("axis", .nat axis),
        ("shapes", .arr (shapes.map fun shape => .arr (shape.map .nat)))]
  | unary _ x y => [("x", .str x), ("y", .str y)]

def toJson (kernel : Kernel) : Json := .obj (("type", .str kernel.name) :: kernel.members)

def fieldNames : List (String × List String) :=
  [("linear", ["x", "w", "y", "in_features"]), ("bias", ["x", "b", "y"]),
    ("elementwise_sum", ["x0", "x1", "y"]), ("elementwise_mul", ["x0", "x1", "y"]),
    ("concat", ["xs", "y", "axis", "shapes"]), ("relu", ["x", "y"]), ("sigmoid", ["x", "y"]),
    ("tanh", ["x", "y"]), ("copy", ["x", "y"])]

def unaryOfName? (name : String) : Option UnaryFunction :=
  [UnaryFunction.relu, .sigmoid, .tanh, .copy].find? (·.name == name)

/-- The kernel of a type name with the given fields. -/
def ofFields (type : String) (fields : Decode.Fields Json) : Except DecodeFault Kernel :=
  let operand (name : String) := fields.required name Decode.string
  match type with
  | "linear" => do
      return linear (← operand "x") (← operand "w") (← operand "y")
        (← fields.defaulted "in_features" (Decode.optional Decode.size) none)
  | "bias" => do return bias (← operand "x") (← operand "b") (← operand "y")
  | "elementwise_sum" => do
      return elementwiseSum (← operand "x0") (← operand "x1") (← operand "y")
  | "elementwise_mul" => do
      return elementwiseMul (← operand "x0") (← operand "x1") (← operand "y")
  | "concat" => do
      return concat (← fields.required "xs" (Decode.list Decode.string)) (← operand "y")
        (← fields.required "axis" Decode.size)
        (← fields.required "shapes" (Decode.list (Decode.list Decode.size)))
  | _ =>
      match unaryOfName? type with
      | some function => do return unary function (← operand "x") (← operand "y")
      | none => .error (.unknownName type (fieldNames.map (·.1)))

/-- The fields a kernel of this type has. -/
def fieldsOfType (type : Json) : Except DecodeFault (String × List String) :=
  Decode.name (fieldNames.map fun entry => (entry.1, entry)) type

/-- A kernel is an object with a `type` among its members, or the list of the type and the
fields. -/
def ofJson : Decoder Kernel
  | .obj entries =>
      match entries.filter (·.1 == "type") with
      | [(_, type)] => do
          let (type, names) ← fieldsOfType type
          ofFields type (← Decode.ofMembers names entries)
      | [] => .error (.missingField "type")
      | _ => .error (.duplicateField "type")
  | .arr (type :: items) => do
      let (type, names) ← fieldsOfType type
      ofFields type (← Decode.ofItems names items)
  | .arr [] => .error (.missingField "type")
  | found => .error (.wrongType found "internally tagged enum Kernel")

end Kernel

structure KernelGraph where
  layout : Layout
  encoding : String
  inputs : List String
  outputs : List String
  kernels : List Kernel
  bindings : Bindings
deriving DecidableEq, Inhabited

namespace KernelGraph

def toJson (graph : KernelGraph) : Json :=
  .obj [("memory_layout", graph.layout.toJson), ("weight_encoding", .str graph.encoding),
    ("inputs", .arr (graph.inputs.map .str)), ("outputs", .arr (graph.outputs.map .str)),
    ("kernels", .arr (graph.kernels.map Kernel.toJson)),
    ("placeholders", Bindings.toJson graph.bindings)]

def ofJson : Decoder KernelGraph := fun json => do
  let fields ← Decode.record "GraphDescriptor"
    ["memory_layout", "weight_encoding", "inputs", "outputs", "kernels", "placeholders"] json
  return {
    layout := ← fields.required "memory_layout" Layout.ofJson
    encoding := ← fields.defaulted "weight_encoding" Decode.string "raw"
    inputs := ← fields.required "inputs" (Decode.list Decode.string)
    outputs := ← fields.required "outputs" (Decode.list Decode.string)
    kernels := ← fields.required "kernels" (Decode.list Kernel.ofJson)
    bindings := ← fields.defaulted "placeholders" Bindings.ofJson .empty }

end KernelGraph

end TensorBench
