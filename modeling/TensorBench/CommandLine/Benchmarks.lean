import TensorBench.Bench.Factory
import TensorBench.Bench.Sweep
import TensorBench.CommandLine.Console

/-!
The command that benchmarks variants: one by its name, or all that are enabled.
-/
namespace TensorBench.CommandLine

structure RunRequest where
  variant : Option String
  iterations : Option Nat
  cooldown : Option Nat
  json : Bool
deriving DecidableEq, Inhabited

namespace RunRequest

/-- The configuration with the pause that the request asks for. -/
def adjust (request : RunRequest) (config : Config) : Config :=
  { config with runner :=
      { config.runner with cooldown := request.cooldown.getD config.runner.cooldown } }

/-- The names of the variants to be benchmarked. -/
def names {ε : Type} (request : RunRequest) (registry : Registry ε) : List String :=
  match request.variant with
  | some name => [name]
  | none => registry.names

end RunRequest

variable {m : Type → Type} [Monad m]

/-- Benchmarks are announced and their summaries shown on the output, unless that is for JSON alone.
Failures are shown at once if there are several benchmarks. -/
def audience {n : Type → Type} [Monad n] [MonadLiftT m n] (host : Host m) (json single : Bool) :
    Sweep.Audience n where
  start name := if json then pure () else host.say s!"• Benchmarking {name}"
  done name result :=
    match result with
    | .ok summary => if json then pure () else host.say s!"✓ {summary.text}"
    | .error failure =>
        if single then pure () else host.complain s!"✗ {name}: {failure.message}"

/-- Benchmark variants of a registry, one after the other, beside a console without a bar. -/
def sweep [Crashing m] {ε : Type} (host : Host m) (ops : EngineOps m ε) (config : RunnerConfig)
    (request : RunRequest) (registry : Registry ε) : m Sweep.Outcomes := do
  let names := request.names registry
  let benchmark (name : String) : StateT (Registry ε) (Shown m) (Except Failure Summary) :=
    fun registry => registry.run ops.lift (Console.stage host request.json)
      config.cooldown name (request.iterations.getD config.iterations)
  ((Sweep.run (audience host request.json (names.length == 1)) benchmark names).run' registry).run'
    false

/-- The whole command. Summaries are shown as JSON even if some benchmarks failed; if one of them
crashes, nothing comes after it. -/
def benchmark (host : Host m) (config : Config) (request : RunRequest) :
    m (Except Stop Unit) := do
  let config := request.adjust config
  match (Registry.ofConfig config : Except Failure (Registry (Engine Binary32))) with
  | .error failure => return .error (.failed failure)
  | .ok registry =>
      if (request.names registry).isEmpty then
        return .error (.failed (.foreign "No enabled variants in the configuration"))
      let guarded := host.guarded
      match ← (sweep guarded (Engine.ops guarded.files) config.runner request registry).run with
      | none => return .error .crashed
      | some outcomes => do
          if request.json && outcomes.soleFailure?.isNone then
            host.say (Json.arr (outcomes.summaries.map Summary.toJson)).pretty
          return outcomes.verdict.mapError .failed

end TensorBench.CommandLine
