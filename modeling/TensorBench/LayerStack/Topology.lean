import TensorBench.LayerStack.Activation

/-!
The description of a layer stack: its layers with their settings, and where in a weight buffer each
layer finds its weights.
-/
namespace TensorBench

inductive LayerSpec where
  | flatten (name : String)
  | globalAveragePooling (name : String)
  | dense (name : String) (units : Nat) (function : Activation)
  | batchNormalization (name : String) (epsilon : Binary32)
  | activation (name : String) (function : Activation)
  | dropout (name : String) (rate : Binary32)
deriving DecidableEq, Inhabited

namespace LayerSpec

def name : LayerSpec → String
  | flatten name => name
  | globalAveragePooling name => name
  | dense name _ _ => name
  | batchNormalization name _ => name
  | activation name _ => name
  | dropout name _ => name

/-- The name of the kind of layer. -/
def className : LayerSpec → String
  | flatten .. => "flatten"
  | globalAveragePooling .. => "global_average_pooling_2d"
  | dense .. => "dense"
  | batchNormalization .. => "batch_normalization"
  | activation .. => "activation"
  | dropout .. => "dropout"

/-- The constant added to a variance where none is given, 0.001. -/
def defaultEpsilon : Binary32 := ⟨0x3a83126f⟩

/-- The names of the settings of each kind of layer. -/
def settingNames : List (String × List String) :=
  [("flatten", ["name"]), ("global_average_pooling_2d", ["name"]),
    ("dense", ["name", "units", "activation"]), ("batch_normalization", ["name", "epsilon"]),
    ("activation", ["name", "activation"]), ("dropout", ["name", "rate"])]

def settings : LayerSpec → List (String × Json)
  | flatten name => [("name", .str name)]
  | globalAveragePooling name => [("name", .str name)]
  | dense name units function =>
      [("name", .str name), ("units", .nat units), ("activation", function.toJson)]
  | batchNormalization name epsilon => [("name", .str name), ("epsilon", .single epsilon)]
  | activation name function => [("name", .str name), ("activation", function.toJson)]
  | dropout name rate => [("name", .str name), ("rate", .single rate)]

def toJson (spec : LayerSpec) : Json :=
  .obj [("class_name", .str spec.className), ("config", .obj spec.settings)]

/-- The layer of a kind with the given settings. -/
def ofSettings (className : String) (fields : Decode.Fields Json) :
    Except DecodeFault LayerSpec := do
  let name ← fields.required "name" Decode.string
  match className with
  | "flatten" => return flatten name
  | "global_average_pooling_2d" => return globalAveragePooling name
  | "dense" =>
      return dense name (← fields.required "units" Decode.size)
        (← fields.defaulted "activation" Activation.ofJson .linear)
  | "batch_normalization" =>
      return batchNormalization name (← fields.defaulted "epsilon" Decode.single defaultEpsilon)
  | "activation" => return activation name (← fields.required "activation" Activation.ofJson)
  | _ => return dropout name (← fields.defaulted "rate" Decode.single Scalar.zero)

/-- The settings of a layer are always an object. -/
def ofParts (kind config : Json) : Except DecodeFault LayerSpec := do
  let (className, names) ← Decode.choice (settingNames.map fun entry => (entry.1, entry)) kind
  match config with
  | .obj members => ofSettings className (← Decode.ofMembers names members)
  | found => throw (.wrongType found ("struct variant LayerSpec::" ++ className))

/-- A layer is an object of its kind and its settings, or the list of the two. -/
def ofJson : Decoder LayerSpec := fun json => do
  let fields ← Decode.record "LayerSpec" ["class_name", "config"] json
  let kind ← fields.required "class_name" .ok
  let config ← fields.required "config" .ok
  ofParts kind config

end LayerSpec

structure Topology where
  name : String
  layers : List LayerSpec
deriving DecidableEq, Inhabited

namespace Topology

def toJson (topology : Topology) : Json :=
  .obj [("name", .str topology.name), ("layers", .arr (topology.layers.map LayerSpec.toJson))]

def ofJson : Decoder Topology := fun json => do
  let fields ← Decode.record "ModelTopology" ["name", "layers"] json
  return ⟨← fields.required "name" Decode.string,
    ← fields.required "layers" (Decode.list LayerSpec.ofJson)⟩

end Topology

/-- A named weight of a layer: a range of the weight buffer, counted in elements, and its shape. -/
structure WeightEntry where
  layer : String
  weight : String
  offset : Nat
  length : Nat
  shape : List Nat
deriving DecidableEq, Inhabited

namespace WeightEntry

def toJson (entry : WeightEntry) : Json :=
  .obj [("layer_name", .str entry.layer), ("weight_name", .str entry.weight),
    ("offset", .nat entry.offset), ("length", .nat entry.length),
    ("shape", .arr (entry.shape.map .nat))]

def ofJson : Decoder WeightEntry := fun json => do
  let fields ← Decode.record "WeightEntry"
    ["layer_name", "weight_name", "offset", "length", "shape"] json
  return ⟨← fields.required "layer_name" Decode.string,
    ← fields.required "weight_name" Decode.string, ← fields.required "offset" Decode.size,
    ← fields.required "length" Decode.size,
    ← fields.required "shape" (Decode.list Decode.size)⟩

end WeightEntry

end TensorBench
