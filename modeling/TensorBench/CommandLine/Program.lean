import TensorBench.Capabilities
import TensorBench.CommandLine.Benchmarks
import TensorBench.CommandLine.Help
import TensorBench.CommandLine.LogFilter
import TensorBench.CommandLine.Project
import TensorBench.CommandLine.Table
import TensorBench.Config.File
import TensorBench.Config.VariableFile

/-!
The program: from the words of a command line and the variables that are set to its exit status. A
command that fails says so, with everything that led to the failure, and ends with status one; a
command line that is refused ends with status two, and a crash with status 101.
-/
namespace TensorBench.CommandLine

def programVersion : String := "0.1.0"

namespace Program

variable {m : Type → Type} [Monad m]

def sayEach (host : Host m) : List String → m Unit
  | [] => return
  | line :: rest => do
      host.say line
      sayEach host rest

/-- The configuration of a path, where the default one stands for a file that is missing. -/
def loadConfig (host : Host m) (assigned : NameTable String) (path : String) :
    m (Except Failure Config) := do
  if ← host.files.isPresent path then
    return Config.load (some (Config.ofFile path (← host.files.read path))) assigned
  else return Config.load none assigned

/-- The variable that says what is logged, if it is well formed. -/
def logVariable : String := "RUST_LOG"

/-- Check what is to be logged, and make the file of the log. -/
def prepareLog (host : Host m) (assigned : NameTable String) (config : LoggingConfig)
    (verbose : Bool) : m (Except Failure Unit) := do
  let level := if verbose then "debug" else config.level
  if !((assigned.get? logVariable).any LogFilter.isValid || LogFilter.isValid level) then
    return .error (.context s!"Invalid log level: {level}"
      (.foreign "the text is not a list of directives"))
  match config.file with
  | none => return .ok ()
  | some path =>
      match ← host.files.touch path with
      | .ok () => return .ok ()
      | .error reason =>
          return .error (.context s!"Failed to open log file: {path}" (.foreign reason))

/-- The settings of a variant in one line. -/
def settingsText (settings : NameTable Json) : String :=
  let texts := settings.entries.map fun (name, value) => name ++ "=" ++ value.compact
  " ".intercalate (texts.mergeSort fun a b => a ≤ b)

def variantRow (variant : VariantConfig) : List String :=
  [variant.name, variant.engine, if variant.enabled then "yes" else "no",
    settingsText variant.settings, variant.description.getD ""]

def listLines (variants : List VariantConfig) (json : Bool) : List String :=
  if json then [(Json.arr (variants.map VariantConfig.toJson)).pretty]
  else Table.lines ["Name", "Engine", "Enabled", "Settings", "Description"]
    (variants.map variantRow)

/-- The number of worker threads a variable asks for. -/
def workersOf? (assigned : NameTable String) : Option Nat := do
  let text ← assigned.get? "RAYON_NUM_THREADS"
  let count ← (Number.Numeral.word text).toOption
  if count = 0 then none else some count

def probeLines (workers : Nat) (json : Bool) : List String :=
  let capabilities := Capabilities.ofWorkers workers
  if json then [capabilities.toJson.pretty]
  else capabilities.advisories.map fun advice => s!"• {advice}"

/-- The weights of a raw file in another encoding, with their number. -/
def packed (input encodingName : String) (bytes : Bytes) : Except Failure (Bytes × Nat) :=
  if bytes.length % 4 ≠ 0 then
    .error (.foreign s!"{input} is {bytes.length} bytes, not a whole number of f32 values")
  else
    match Encoding.ofName? encodingName with
    | none => .error (.foreign (s!"Unsupported encoding '{encodingName}', expected one of " ++
        ", ".intercalate (Encoding.all.map Encoding.name)))
    | some encoding =>
        let values := (Weights.Raw.patterns bytes).map Binary32.mk
        .ok (encoding.encode values, values.length)

def pack (host : Host m) (input output encodingName : String) : ExceptT Failure m Unit := do
  match ← host.files.read input with
  | .error reason => throw (.context s!"Failed to read {input}" (.foreign reason))
  | .ok bytes =>
      let (result, count) ← ExceptT.mk (pure (packed input encodingName bytes))
      if let .error reason ← host.files.write output result then
        throw (.context s!"Failed to write {output}" (.foreign reason))
      host.say (s!"✓ Packed {count} values: {bytes.length} -> {result.length} bytes " ++
        s!"({encodingName})")

def versionLines : List String :=
  [s!"{programName} v{programVersion}", "Inference benchmark harness",
    "Engines: " ++ ", ".intercalate Engine.kinds]

/-- Write lines to the output, which cannot fail. -/
def print (host : Host m) (lines : List String) : ExceptT Failure m Unit :=
  liftM (sayEach host lines)

/-- Carry a command out. Benchmarks are the only one that may crash. -/
def carryOut (host : Host m) (assigned : NameTable String) (config : Config) :
    Command → ExceptT Stop m Unit
  | .run variant iterations cooldown json =>
      ExceptT.mk (benchmark host config ⟨variant, iterations, cooldown, json⟩)
  | .list json => (print host (listLines config.variants json)).adapt .failed
  | .probe json => do
      let workers ← match workersOf? assigned with
        | some count => pure count
        | none => host.workers
      (print host (probeLines workers json)).adapt .failed
  | .pack input output encoding => (pack host input output encoding).adapt .failed
  | .init directory => (Project.start host directory).adapt .failed
  | .version => (print host versionLines).adapt .failed

/-- Carry an invocation out under the variables that are set. -/
def execute (host : Host m) (assigned : NameTable String) (invocation : Invocation) :
    ExceptT Stop m Unit := do
  let config ← (ExceptT.mk (loadConfig host assigned invocation.config)).adapt .failed
  (ExceptT.mk (prepareLog host assigned config.logging invocation.verbose)).adapt .failed
  carryOut host assigned config invocation.command

/-- Run the program and give its exit status. -/
def run (host : Host m) (set : NameTable String) (words : List String) : m Nat := do
  match Invocation.parse words with
  | .error (.help command) =>
      sayEach host (Help.ofName command)
      return 0
  | .error .version =>
      host.say s!"{programName} {programVersion}"
      return 0
  | .error (.refused refusal) =>
      host.complain s!"error: {refusal.message}"
      return 2
  | .ok invocation =>
      let assigned := match ← host.variableFile with
        | some text => VariableFile.load set text
        | none => set
      match ← (execute host assigned invocation).run with
      | .ok () => return 0
      | .error .crashed => return 101
      | .error (.failed failure) =>
          host.complain ("✗ " ++ ": ".intercalate failure.chain)
          return 1

end Program

end TensorBench.CommandLine
