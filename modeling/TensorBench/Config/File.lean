import TensorBench.Config.Reading
import TensorBench.Config.Variables
import TensorBench.Files
import TensorBench.Yaml.Schema

/-!
Configurations in files, and the configuration a program works with: that of its file, or the
default one, with the settings of the variables laid over it.
-/
namespace TensorBench.Config

def ofYaml (text : String) : Except DecodeFault Config :=
  match Yaml.Node.ofText? text with
  | some node => ofDocument node
  | none => .error (.rejected "the text is not a YAML document")

/-- The configuration in a file with the given contents. -/
def ofFile (path : String) (contents : Contents) : Except Failure Config :=
  match contents.text with
  | .error reason => .error (.config s!"Failed to read config file: {path}" (some reason))
  | .ok text =>
      match ofYaml text with
      | .ok config => .ok config
      | .error fault =>
          .error (.config s!"Failed to parse config file: {path}" (some fault.message))

/-- The configuration of a file, if there is one, overlaid by the variables. -/
def load (file : Option (Except Failure Config)) (assigned : NameTable String) :
    Except Failure Config := do
  let base ← file.getD (.ok default)
  return base.merge (← ofVariables assigned)

end TensorBench.Config
