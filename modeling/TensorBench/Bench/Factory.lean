import TensorBench.Config.Basic
import TensorBench.Engine

/-!
From configurations to variants. The settings of a variant are read as the options of the engine it
names; an engine with files of its own looks for them under the directory of artifacts, unless its
settings say otherwise.
-/
namespace TensorBench

/-- The options of an engine of any kind. -/
inductive EngineOptions where
  | kernelGraph (options : KernelGraph.Options)
  | layerStack (options : LayerStack.Options)
  | residual (options : Residual.Options)
deriving DecidableEq, Inhabited

namespace EngineOptions

def kind : EngineOptions → String
  | kernelGraph _ => Step.engineKind
  | layerStack _ => LayerStack.engineKind
  | residual _ => GraphBuilder.engineKind

def baseDirectory : String := "base_dir"

/-- The settings of a variant with the default directory of its engine filled in. -/
def settingsOf (variant : VariantConfig) (artifactsDir : String) : NameTable Json :=
  if variant.engine = GraphBuilder.engineKind ∨ variant.settings.contains baseDirectory then
    variant.settings
  else variant.settings.insert baseDirectory (.str (Path.join artifactsDir variant.engine))

def read {β : Type} (variant : VariantConfig) (settings : NameTable Json) (decode : Decoder β) :
    Except Failure β :=
  match decode (Json.ofNames settings) with
  | .ok options => .ok options
  | .error fault => .error
      (.context s!"Invalid settings for variant '{variant.name}'" (.foreign fault.message))

def unknownEngine (variant : VariantConfig) : Failure :=
  .foreign (s!"Unknown engine '{variant.engine}' for variant '{variant.name}', " ++
    "expected one of " ++ ", ".intercalate TensorBench.Engine.kinds)

/-- The options a variant's settings stand for. -/
def ofVariant (variant : VariantConfig) (artifactsDir : String) : Except Failure EngineOptions :=
  let settings := settingsOf variant artifactsDir
  if variant.engine = Step.engineKind then
    (read variant settings KernelGraph.Options.ofJson).map kernelGraph
  else if variant.engine = LayerStack.engineKind then
    (read variant settings LayerStack.Options.ofJson).map layerStack
  else if variant.engine = GraphBuilder.engineKind then
    (read variant settings Residual.Options.ofJson).map residual
  else .error (unknownEngine variant)

/-- An engine with these options, not loaded. -/
def create {α : Type} : EngineOptions → TensorBench.Engine α
  | kernelGraph options => .kernelGraph (.create options)
  | layerStack options => .layerStack (.create options)
  | residual options => .residual (.create options)

end EngineOptions

namespace Registry

variable {α : Type}

/-- Register the variant of a configuration. -/
def add (artifactsDir : String) (registry : Registry (Engine α)) (variant : VariantConfig) :
    Except Failure (Registry (Engine α)) :=
  match EngineOptions.ofVariant variant artifactsDir with
  | .error failure => .error failure
  | .ok options =>
      match registry.register (.create variant.name variant.description options.create) with
      | .ok registry => .ok registry
      | .error failure =>
          .error (.context s!"Cannot register variant '{variant.name}'" failure)

/-- The enabled variants of a configuration, in their order. -/
def ofConfig (config : Config) : Except Failure (Registry (Engine α)) :=
  config.enabledVariants.foldlM (add config.artifactsDir) Registry.empty

end Registry

end TensorBench
