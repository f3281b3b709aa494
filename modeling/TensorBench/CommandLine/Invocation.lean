import TensorBench.CommandLine.Grammar

/-!
What the program can be asked to do, and how its command lines say so.
-/
namespace TensorBench.CommandLine

inductive Command where
  | run (variant : Option String) (iterations cooldown : Option Nat) (json : Bool)
  | list (json : Bool)
  | probe (json : Bool)
  | pack (input output encoding : String)
  | init (directory : String)
  | version
deriving DecidableEq, Inhabited

structure Invocation where
  /-- The path of the configuration. -/
  config : String
  verbose : Bool
  command : Command
deriving DecidableEq, Inhabited

def programName : String := "inferbench"

namespace Specs

def json (help : String) : OptionSpec := ⟨none, "json", none, help⟩

def run : CommandSpec where
  name := "run"
  about := "Benchmark one variant, or every enabled variant"
  options := [
    ⟨some 'n', "iterations", some ⟨"ITERATIONS", .number, none⟩,
      "Iterations including the discarded warm-up run"⟩,
    ⟨none, "cooldown-ms", some ⟨"MS", .number, none⟩, "Pause between iterations"⟩,
    json "Print summaries as JSON", helpOption]
  arguments := [⟨⟨"VARIANT", .text, none⟩, false, "Variant name"⟩]

def list : CommandSpec where
  name := "list"
  about := "List configured variants"
  options := [json "Print as JSON", helpOption]
  arguments := []

def probe : CommandSpec where
  name := "probe"
  about := "Report optional compute capabilities"
  options := [json "Print as JSON", helpOption]
  arguments := []

def defaultEncoding : String := "eightbit"

def pack : CommandSpec where
  name := "pack"
  about := "Encode a little-endian f32 weight file"
  options := [⟨some 'e', "encoding", some ⟨"ENCODING", .text, some defaultEncoding⟩,
    "Target encoding"⟩, helpOption]
  arguments := [⟨⟨"INPUT", .path, none⟩, true, ""⟩, ⟨⟨"OUTPUT", .path, none⟩, true, ""⟩]

def defaultDirectory : String := "."

def init : CommandSpec where
  name := "init"
  about := "Write a sample configuration and sample model artifacts"
  options := [helpOption]
  arguments := [⟨⟨"DIR", .path, some defaultDirectory⟩, false, "Project directory"⟩]

def version : CommandSpec where
  name := "version"
  about := "Show version information"
  options := [helpOption]
  arguments := []

def help : CommandSpec where
  name := "help"
  about := "Print this message or the help of the given subcommand(s)"
  options := []
  arguments := [⟨⟨"COMMAND", .text, none⟩, false, "Print help for the subcommand(s)"⟩]

/-- The commands that do something. -/
def commands : List CommandSpec := [run, list, probe, pack, init, version]

def defaultConfig : String := "config/inferbench.yaml"

/-- What stands in front of a command. -/
def program : CommandSpec where
  name := programName
  about := "Command-line interface for the inferbench inference benchmark harness"
  options := [
    ⟨some 'c', "config", some ⟨"FILE", .path, some defaultConfig⟩, "Configuration file path"⟩,
    ⟨some 'v', "verbose", none, "Log at debug level"⟩, helpOption, versionOption]
  arguments := []

end Specs

namespace Command

def ofGiven (name : String) (given : Given) : Command :=
  let argument (position : Nat) (default : String) : String :=
    (given.arguments[position]?).getD default
  let number (long : String) : Option Nat :=
    (given.option? long).bind fun value => (Number.Numeral.word value).toOption
  if name = Specs.run.name then
    run given.arguments.head? (number "iterations") (number "cooldown-ms") (given.isSet "json")
  else if name = Specs.list.name then list (given.isSet "json")
  else if name = Specs.probe.name then probe (given.isSet "json")
  else if name = Specs.pack.name then
    pack (argument 0 "") (argument 1 "") ((given.option? "encoding").getD Specs.defaultEncoding)
  else if name = Specs.init.name then init (argument 0 Specs.defaultDirectory)
  else version

end Command

namespace Invocation

def isCommand (word : String) : Bool := (Specs.help :: Specs.commands).any (·.name == word)

/-- The help that is asked for by the names of commands. -/
def help : List String → Ending
  | [] => .help programName
  | [name] => if isCommand name then .help name else .refused (.unknownCommand name)
  | _ :: name :: _ => .refused (.unknownCommand name)

/-- The command of a name, read from the words behind it. -/
def readCommand (name : String) (words : List String) : Except Ending Command :=
  match Specs.commands.find? (·.name == name) with
  | some spec => do return .ofGiven name (← spec.read words)
  | none => .error (help words)

/-- The meaning of a command line. An option that is still pending in front of the command is taken
after the words of the command have been read. -/
def parse (words : List String) : Except Ending Invocation := do
  match ← Scan.initial.words Specs.program isCommand words with
  | (scan, []) =>
      discard <| scan.settle Specs.program
      .error (.refused .missingCommand)
  | (scan, name :: rest) =>
      let command ← readCommand name rest
      let given ← scan.settle Specs.program
      return ⟨(given.option? "config").getD Specs.defaultConfig, given.isSet "verbose", command⟩

end Invocation

end TensorBench.CommandLine
