import TensorBench.Bench.Variant
import TensorBench.KernelGraph.Engine
import TensorBench.LayerStack.Engine
import TensorBench.TensorGraph.Engine

/-!
The engines a variant can name, as one type.
-/
namespace TensorBench

/-- What a setup meets: the contents of files, and the reason why the task that builds a network
breaks off, if it does. -/
structure Findings where
  contents : String → Contents
  breakdown : Option String

inductive Engine (α : Type) where
  | kernelGraph (engine : KernelGraph.Engine α)
  | layerStack (engine : LayerStack.Engine α)
  | residual (engine : Residual.Engine α)

namespace Engine

variable {α : Type}

/-- The kinds of engines, by the names that configurations use. -/
def kinds : List String :=
  [Step.engineKind, LayerStack.engineKind, GraphBuilder.engineKind]

def kind : Engine α → String
  | kernelGraph _ => Step.engineKind
  | layerStack _ => LayerStack.engineKind
  | residual _ => GraphBuilder.engineKind

def isLoaded : Engine α → Bool
  | kernelGraph engine => engine.isLoaded
  | layerStack engine => engine.isLoaded
  | residual engine => engine.isLoaded

/-- The files a setup reads. -/
def requiredFiles : Engine α → List String
  | kernelGraph engine => engine.requiredFiles
  | layerStack engine => engine.requiredFiles
  | residual _ => []

def release : Engine α → Engine α
  | kernelGraph engine => kernelGraph engine.release
  | layerStack engine => layerStack engine.release
  | residual engine => residual engine.release

variable [Scalar α]

/-- Load the model, which lies in files or is built by a task of its own. -/
def setup (engine : Engine α) (findings : Findings) : Except Stop Unit × Engine α :=
  match engine with
  | kernelGraph engine => (engine.setup findings.contents).map id kernelGraph
  | layerStack engine => (engine.setup findings.contents).map id layerStack
  | residual engine => (engine.setup findings.breakdown).map id residual

def execute : Engine α → Except Stop Unit × Engine α
  | kernelGraph engine => engine.execute.map id kernelGraph
  | layerStack engine => engine.execute.map id layerStack
  | residual engine => engine.execute.map id residual

/-- The reply of a hook and the engine after it. A hook that crashes replies nothing. -/
def settle {m : Type → Type} [Monad m] [Crashing m] :
    Except Stop Unit × Engine α → m (Except Failure Unit × Engine α)
  | (.ok (), engine) => pure (.ok (), engine)
  | (.error (.failed failure), engine) => pure (.error failure, engine)
  | (.error .crashed, _) => Crashing.crash

/-- The operations of engines whose models lie in files. -/
def ops {m : Type → Type} [Monad m] [Crashing m] (files : Files m) : EngineOps m (Engine α) where
  kind := kind
  isLoaded := isLoaded
  setup engine := do
    let gathered ← files.gather engine.requiredFiles
    settle (engine.setup ⟨Files.lookUp gathered, none⟩)
  execute engine := settle engine.execute
  release engine := return (.ok (), engine.release)

end Engine

end TensorBench
