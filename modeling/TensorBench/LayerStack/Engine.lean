import TensorBench.Files
import TensorBench.LayerStack.Prediction
import TensorBench.LayerStack.Tiny
import TensorBench.Text.Path
import TensorBench.Weights.Encoding

/-!
The engine that runs a layer stack on a black image. A model is three files: its topology, its
weights and the description of where each weight lies.
-/
namespace TensorBench.LayerStack

structure Options where
  baseDir : String
  model : String
  resolution : Option Nat
  /-- Evaluate dense layers in parallel. -/
  gpu : Bool
deriving DecidableEq, Inhabited

/-- The paths of the files of a model. -/
structure ModelFiles where
  topology : String
  weights : String
  metadata : String
deriving DecidableEq

/-- Models whose input size is well known. -/
def knownModels : List (String × Nat) := [("resnet50", 224), ("inception_v3", 299)]

namespace Options

def default : Options := ⟨"artifacts/sequential", "resnet50", none, false⟩

def toJson (options : Options) : Json :=
  .obj [("base_dir", .str options.baseDir), ("model", .str options.model),
    ("resolution", Json.ofOption .nat options.resolution), ("gpu", .bool options.gpu)]

def ofJson : Decoder Options := fun json => do
  let fields ← Decode.record "SequentialOptions" ["base_dir", "model", "resolution", "gpu"] json
  return {
    baseDir := ← fields.defaulted "base_dir" Decode.path default.baseDir
    model := ← fields.defaulted "model" Decode.string default.model
    resolution := ← fields.defaulted "resolution" (Decode.optional Decode.size) none
    gpu := ← fields.defaulted "gpu" Decode.bool default.gpu }

def files (options : Options) : ModelFiles :=
  let directory := Path.join options.baseDir options.model
  ⟨Path.join directory "model.json", Path.join directory "model_weights.buf",
    Path.join directory "model_metadata.json"⟩

/-- The size of the image: the one given, or the known one of the model. -/
def imageSize (options : Options) : Except Failure Nat :=
  match options.resolution with
  | some 0 => .error (.setup engineKind "resolution must be positive")
  | some size => .ok size
  | none =>
      match knownModels.find? (·.1 == options.model) with
      | some (_, size) => .ok size
      | none => .error (.setup engineKind (s!"unknown model '{options.model}': " ++
          "set a resolution or use one of resnet50, inception_v3"))

end Options

/-- A model, its input, and the output of the last execution. -/
structure Loaded (α : Type) where
  model : Model α
  input : Tensor α
  output : Option (Tensor α)

structure Engine (α : Type) where
  options : Options
  loaded : Option (Loaded α)

/-- The weights of a file, which is read as one static allocation. -/
def decodeWeights {α : Type} [Scalar α] (bytes : Bytes) : Except Stop (Array α) :=
  match Encoding.raw.decode bytes (Layout.empty.pushStatic "weights" bytes.length) with
  | .ok weights => .ok weights
  | .error (.failed failure) =>
      .error (.failed (.setupFrom engineKind "cannot decode model_weights.buf" failure))
  | .error .crashed => .error .crashed

namespace Engine

variable {α : Type}

def create (options : Options) : Engine α := ⟨options, none⟩

def isLoaded (engine : Engine α) : Bool := engine.loaded.isSome

/-- The files a setup reads. -/
def requiredFiles (engine : Engine α) : List String :=
  let files := engine.options.files
  [files.topology, files.metadata, files.weights]

variable [Scalar α]

/-- Load a model from the contents of its files. -/
def load (options : Options) (found : String → Contents) : Except Stop (Loaded α) := do
  let size ← options.imageSize
  let files := options.files
  let topology ← (found files.topology).neededJson engineKind files.topology files.topology
    Topology.ofJson
  let entries ← (found files.metadata).neededJson engineKind files.metadata files.metadata
    (Decode.list WeightEntry.ofJson)
  let weights ← decodeWeights (← (found files.weights).needed engineKind files.weights)
  let input ← Model.zeroInput size
  let model ← Model.build topology ⟨weights, entries⟩ input.shape
  return ⟨model, input, none⟩

/-- Load the model. A setup that fails or crashes leaves the engine as it was. -/
def setup (engine : Engine α) (found : String → Contents) : Except Stop Unit × Engine α :=
  match load engine.options found with
  | .ok loaded => (.ok (), { engine with loaded := some loaded })
  | .error stop => (.error stop, engine)

def execute (engine : Engine α) : Except Stop Unit × Engine α :=
  match engine.loaded with
  | none => (.error (.failed (.execution engineKind "engine is not loaded")), engine)
  | some loaded =>
      match loaded.model.predict engine.options.gpu loaded.input with
      | .ok output => (.ok (), { engine with loaded := some { loaded with output := some output } })
      | .error stop => (.error stop, engine)

omit [Scalar α] in
def release (engine : Engine α) : Engine α := { engine with loaded := none }

end Engine

/-- The files of the tiny classifier where the options expect them. -/
def sampleFiles (options : Options) : List (String × Bytes) :=
  let files := options.files
  [(files.topology, utf8 (Tiny.topology 64 10).toJson.pretty),
    (files.weights, Encoding.raw.encode (Tiny.weights 3 64 10)),
    (files.metadata, utf8 (Json.arr ((Tiny.entries 3 64 10).map WeightEntry.toJson)).pretty)]

/-- Write the files of the tiny classifier. -/
def writeSample {m : Type → Type} [Monad m] (files : Files m) (options : Options) :
    m (Except Failure ModelFiles) := do
  match ← files.writeInto (Path.parent options.files.topology) (sampleFiles options) with
  | .error failure => return .error failure
  | .ok () => return .ok options.files

end TensorBench.LayerStack
