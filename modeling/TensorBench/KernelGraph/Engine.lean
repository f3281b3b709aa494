import TensorBench.Files
import TensorBench.Json.Writer
import TensorBench.KernelGraph.Perceptron
import TensorBench.KernelGraph.Session
import TensorBench.Text.Path

/-!
The engine that runs a kernel graph. A model is two files for each backend, the graph and its
weights; they are read when the engine is set up, and the engine is loaded until it is released.
-/
namespace TensorBench.KernelGraph

open Step (engineKind)

structure Options where
  baseDir : String
  model : String
  backend : Backend
  /-- Which of the two variants of the files is used. -/
  optimized : Bool
  /-- Bindings that take precedence over those of the graph. -/
  overrides : Bindings
deriving DecidableEq, Inhabited

/-- The paths of the files of a model. -/
structure Artifacts where
  graph : String
  weights : String
deriving DecidableEq

namespace Options

def default : Options := ⟨"artifacts/descriptor", "mlp", .native, true, .empty⟩

def toJson (options : Options) : Json :=
  .obj [("base_dir", .str options.baseDir), ("model", .str options.model),
    ("backend", options.backend.toJson), ("optimized", .bool options.optimized),
    ("placeholders", Bindings.toJson options.overrides)]

def ofJson : Decoder Options := fun json => do
  let fields ← Decode.record "DescriptorOptions"
    ["base_dir", "model", "backend", "optimized", "placeholders"] json
  return {
    baseDir := ← fields.defaulted "base_dir" Decode.path default.baseDir
    model := ← fields.defaulted "model" Decode.string default.model
    backend := ← fields.defaulted "backend" Backend.ofJson default.backend
    optimized := ← fields.defaulted "optimized" Decode.bool default.optimized
    overrides := ← fields.defaulted "placeholders" Bindings.ofJson default.overrides }

def directory (options : Options) : String :=
  let flavour := if options.optimized then "optimized" else "non_optimized"
  Path.join (Path.join options.baseDir flavour) options.model

def artifacts (options : Options) : Artifacts :=
  ⟨Path.join options.directory s!"graph_{options.backend.name}.json",
    Path.join options.directory s!"weight_{options.backend.name}.bin"⟩

end Options

structure Engine (α : Type) where
  options : Options
  session : Option (Session α)

namespace Engine

variable {α : Type}

def create (options : Options) : Engine α := ⟨options, none⟩

def isLoaded (engine : Engine α) : Bool := engine.session.isSome

/-- The files a setup reads. -/
def requiredFiles (engine : Engine α) : List String :=
  let artifacts := engine.options.artifacts
  [artifacts.graph, artifacts.weights]

variable [Scalar α]

/-- Load a model from the contents of its files. -/
def load (options : Options) (found : String → Contents) : Except Stop (Session α) := do
  let artifacts := options.artifacts
  let graph ← (found artifacts.graph).neededJson engineKind artifacts.graph
    s!"descriptor {artifacts.graph}" KernelGraph.ofJson
  let weights ← (found artifacts.weights).needed engineKind artifacts.weights
  match Session.load graph weights options.backend options.overrides with
  | .ok session => .ok session
  | .error (.failed failure) =>
      .error (.failed (failure.duringSetup engineKind "failed to load graph"))
  | .error .crashed => .error .crashed

/-- Load the model. A setup that fails or crashes leaves the engine as it was. -/
def setup (engine : Engine α) (found : String → Contents) : Except Stop Unit × Engine α :=
  match load engine.options found with
  | .ok session => (.ok (), { engine with session := some session })
  | .error stop => (.error stop, engine)

def execute (engine : Engine α) : Except Stop Unit × Engine α :=
  match engine.session with
  | none => (.error (.failed (.execution engineKind "engine is not loaded")), engine)
  | some session =>
      let (session, result) := session.run
      (result, { engine with session := some session })

omit [Scalar α] in
def release (engine : Engine α) : Engine α := { engine with session := none }

end Engine

/-- The files of a small perceptron where the options expect them. -/
def sampleFiles (options : Options) (encodingName : String) :
    Except Failure (List (String × Bytes)) := do
  let graph ← Perceptron.graph 64 128 10 encodingName
  let encoding ← Encoding.ofName encodingName
  let artifacts := options.artifacts
  return [(artifacts.graph, utf8 graph.toJson.pretty),
    (artifacts.weights, encoding.encode (Perceptron.weights 64 128 10))]

/-- Write the files of a small perceptron. -/
def writeSample {m : Type → Type} [Monad m] (files : Files m) (options : Options)
    (encodingName : String) : m (Except Failure Artifacts) := do
  match sampleFiles options encodingName with
  | .error failure => return .error failure
  | .ok entries =>
      match ← files.writeInto (Path.parent options.artifacts.graph) entries with
      | .error failure => return .error failure
      | .ok () => return .ok options.artifacts

end TensorBench.KernelGraph
