import TensorBench.Config.Basic
import TensorBench.Failure
import TensorBench.Number.Numeral

/-!
Settings taken from variables of the process. A variable that is set decides its setting, the others
leave the default; the result is meant to be laid over another configuration.
-/
namespace TensorBench.Config

/-- A word taken from a variable, if it is set. -/
def wordVariable (assigned : NameTable String) (name : String) (default : Nat) :
    Except Failure Nat :=
  match assigned.get? name with
  | none => .ok default
  | some text =>
      match Number.Numeral.word text with
      | .ok value => .ok value
      | .error fault => .error (.config s!"{name} is not a number: {text}" (some fault.message))

/-- The overlay the variables describe. An unknown name of an environment stands for none. -/
def ofVariables (assigned : NameTable String) : Except Failure Config := do
  let iterations ← wordVariable assigned "INFERBENCH_ITERATIONS" RunnerConfig.default.iterations
  let cooldown ← wordVariable assigned "INFERBENCH_COOLDOWN_MS" RunnerConfig.default.cooldown
  return { Config.default with
    environment := (assigned.get? "INFERBENCH_ENV").bind Environment.ofName?
    logging :=
      { LoggingConfig.default with
        level := (assigned.get? "INFERBENCH_LOG").getD LoggingConfig.default.level }
    runner := ⟨iterations, cooldown⟩
    artifactsDir := (assigned.get? "INFERBENCH_ARTIFACTS_DIR").getD defaultArtifactsDir }

end TensorBench.Config
