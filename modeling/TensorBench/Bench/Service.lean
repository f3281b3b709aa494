import TensorBench.Bench.Variant
import TensorBench.Config.Basic

/-!
A service that benchmarks the variants of a registry and lists them. A call is first completed by
what is configured; the errand that it then is needs the registry, which no other call may use
meanwhile. Here is what errands come to one after the other.
-/
namespace TensorBench

/-- What a listing shows of a variant. -/
structure VariantInfo where
  name : String
  kind : String
  description : Option String
  status : RunStatus
  summary : Option Summary
deriving DecidableEq, Inhabited

def Variant.info {ε : Type} (kind : ε → String) (variant : Variant ε) : VariantInfo :=
  ⟨variant.name, kind variant.engine, variant.description, variant.state.status,
    variant.state.summary⟩

def Registry.listing {ε : Type} (kind : ε → String) (registry : Registry ε) : List VariantInfo :=
  registry.variants.map (·.info kind)

/-- What a caller asks for. The configured number of iterations is taken unless another is given. -/
inductive ServiceCall where
  | benchmark (name : String) (iterations : Option Nat)
  | list
deriving DecidableEq, Inhabited

/-- What a call does with the registry. -/
inductive Errand where
  | benchmark (name : String) (iterations : Nat)
  | list
deriving DecidableEq, Inhabited

inductive Reply where
  | benchmarked (result : Except Failure Summary)
  | listed (infos : List VariantInfo)

def ServiceCall.errand (config : RunnerConfig) : ServiceCall → Errand
  | benchmark name iterations => .benchmark name (iterations.getD config.iterations)
  | list => .list

section

variable {m : Type → Type} [Monad m] [Crashing m] {ε : Type}

/-- Do an errand, with the registry to itself from start to end. -/
def Errand.perform (ops : EngineOps m ε) (stage : Stage m) (cooldown : Nat)
    (registry : Registry ε) : Errand → m (Reply × Registry ε)
  | benchmark name iterations => do
      let (result, registry) ← registry.run ops stage cooldown name iterations
      pure (.benchmarked result, registry)
  | list => pure (.listed (registry.listing ops.kind), registry)

/-- Answer calls one after the other. -/
def ServiceCall.answerAll (ops : EngineOps m ε) (stage : Stage m) (config : RunnerConfig) :
    List ServiceCall → Registry ε → m (List Reply × Registry ε)
  | [], registry => pure ([], registry)
  | call :: rest, registry => do
      let (reply, registry) ← (call.errand config).perform ops stage config.cooldown registry
      let (replies, registry) ← answerAll ops stage config rest registry
      pure (reply :: replies, registry)

end

end TensorBench
