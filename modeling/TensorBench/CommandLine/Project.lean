import TensorBench.Bench.Factory
import TensorBench.CommandLine.Console
import TensorBench.Config.Basic
import TensorBench.Yaml.Writer

/-!
The command that starts a project: sample models, and a configuration of variants that run them.
-/
namespace TensorBench.CommandLine.Project

def variant (engine name description : String) (settings : List (String × Json)) :
    VariantConfig :=
  ⟨name, engine, some description, true, .ofList settings⟩

def kernelGraphs : List VariantConfig :=
  let variant := variant Step.engineKind
  [variant "descriptor-native" "MLP descriptor, sequential kernels"
      [("model", .str "mlp"), ("backend", .str "native")],
    variant "descriptor-threaded" "MLP descriptor, eightbit weights, data parallel kernels"
      [("model", .str "mlp"), ("backend", .str "threaded")],
    variant "descriptor-fallback" "MLP descriptor, indexed loops"
      [("model", .str "mlp"), ("backend", .str "fallback"),
        ("placeholders", .obj [("N", .nat 4)])]]

def layerStacks : List VariantConfig :=
  let variant := variant LayerStack.engineKind
  [variant "sequential-tiny" "Pooled classifier, 64px input"
      [("model", .str "tiny"), ("resolution", .nat 64)],
    variant "sequential-tiny-gpu" "Pooled classifier, parallel dense layers"
      [("model", .str "tiny"), ("resolution", .nat 64), ("gpu", .bool true)]]

def tensorGraphs : List VariantConfig :=
  let variant := variant GraphBuilder.engineKind
  [variant "resnet18-cpu" "ResNet-18 at 224px" [("backend", .str "cpu")],
    variant "resnet18-gpu" "ResNet-18 at 224px, parallel convolutions" [("backend", .str "gpu")]]

/-- The configuration that goes with the sample models. -/
def sampleConfig (artifactsDir : String) : Config :=
  { Config.default with
    artifactsDir := artifactsDir
    variants := kernelGraphs ++ layerStacks ++ tensorGraphs }

/-- The sample for each backend, with the encoding of its weights. -/
def kernelGraphSample (artifactsDir : String) (backend : Backend) :
    KernelGraph.Options × String :=
  ({ KernelGraph.Options.default with
      baseDir := Path.join artifactsDir Step.engineKind, backend := backend },
    (match backend with
      | .threaded => Encoding.eightbit
      | _ => Encoding.raw).name)

def layerStackSample (artifactsDir : String) : LayerStack.Options :=
  ⟨Path.join artifactsDir LayerStack.engineKind, "tiny", some 64, false⟩

variable {m : Type → Type} [Monad m]

def added (path : String) : String := s!"  + {path}"

/-- Write the samples for all backends. -/
def writeKernelGraphs (host : Host m) (artifactsDir : String) :
    List Backend → ExceptT Failure m Unit
  | [] => return
  | backend :: rest => do
      let (options, encoding) := kernelGraphSample artifactsDir backend
      let artifacts ← ExceptT.mk (KernelGraph.writeSample host.files options encoding)
      host.say (added artifacts.graph)
      writeKernelGraphs host artifactsDir rest

/-- Write the configuration, unless there is one. -/
def writeConfig (host : Host m) (directory artifactsDir : String) : ExceptT Failure m Unit := do
  let parent := Path.join directory "config"
  let path := Path.join parent "inferbench.yaml"
  if ← host.files.isPresent path then host.say s!"• Keeping existing {path}"
  else
    if let .error reason ← host.files.makeDirectories parent then throw (.foreign reason)
    let text := Yaml.Writer.document (sampleConfig artifactsDir).toJson
    if let .error reason ← host.files.write path (utf8 text) then
      throw (.context s!"Failed to write {path}" (.foreign reason))
    host.say (added path)

/-- The whole command. -/
def start (host : Host m) (directory : String) : ExceptT Failure m Unit := do
  host.say s!"• Initializing project in {directory}"
  let artifactsDir := Path.join directory "artifacts"
  writeKernelGraphs host artifactsDir Backend.all
  let files ← ExceptT.mk (LayerStack.writeSample host.files (layerStackSample artifactsDir))
  host.say (added files.topology)
  writeConfig host directory artifactsDir
  host.say "✓ Project initialized"

end TensorBench.CommandLine.Project
