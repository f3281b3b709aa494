import TensorBench.CommandLine.Invocation
import TensorBench.Text.Chars

/-!
Help texts: what a command is for, how it is written, and its arguments and options in columns.
-/
namespace TensorBench.CommandLine.Help

def titled (title : String) : String := "<" ++ title ++ ">"

def optional (title : String) : String := "[" ++ title ++ "]"

def argumentText (spec : ArgumentSpec) : String :=
  if spec.required then titled spec.place.title else optional spec.place.title

def optionText (spec : OptionSpec) : String :=
  let short := match spec.short with
    | some c => "-" ++ c.toString ++ ", "
    | none => "    "
  let value := match spec.value with
    | some place => " " ++ titled place.title
    | none => ""
  short ++ "--" ++ spec.long ++ value

/-- A remark with the value that is meant if none is given. -/
def remark (help : String) (default : Option String) : String :=
  match default with
  | none => help
  | some value =>
      let meant := s!"[default: {value}]"
      if help = "" then meant else help ++ " " ++ meant

/-- A heading and two columns below it; nothing if there are no rows. -/
def part (heading : String) (rows : List (String × String)) : List String :=
  let width := (rows.map fun row => Text.columns row.1).foldl max 0
  let line (row : String × String) : String :=
    "  " ++ row.1 ++ String.ofList (List.replicate (width + 2 - Text.columns row.1) ' ') ++ row.2
  if rows.isEmpty then [] else "" :: heading :: rows.map line

/-- The line that shows how a command is written. -/
def usage (spec : CommandSpec) : String :=
  let own := spec.options.filter fun option => option ≠ helpOption ∧ option ≠ versionOption
  let words :=
    (if spec.name = programName then [programName] else [programName, spec.name]) ++
      (if own.isEmpty then [] else ["[OPTIONS]"]) ++
      (if spec.name = Specs.help.name then ["[COMMAND]..."]
        else spec.arguments.map argumentText) ++
      if spec.name = programName then ["<COMMAND>"] else []
  "Usage: " ++ " ".intercalate words

def argumentRow (command : CommandSpec) (spec : ArgumentSpec) : String × String :=
  (argumentText spec ++ (if command.name = Specs.help.name then "..." else ""),
    remark spec.help spec.place.default)

def optionRow (spec : OptionSpec) : String × String :=
  (optionText spec, remark spec.help (spec.value.bind (·.default)))

def lines (spec : CommandSpec) : List String :=
  let commands := if spec.name = programName then Specs.commands ++ [Specs.help] else []
  [spec.about, "", usage spec] ++
    part "Commands:" (commands.map fun command => (command.name, command.about)) ++
    part "Arguments:" (spec.arguments.map (argumentRow spec)) ++
    part "Options:" (spec.options.map optionRow)

/-- The help for a command of a name, or for the program. -/
def ofName (name : String) : List String :=
  lines (((Specs.help :: Specs.commands).find? (·.name == name)).getD Specs.program)

end TensorBench.CommandLine.Help
