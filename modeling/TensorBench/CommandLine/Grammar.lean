import TensorBench.Number.Numeral

/-!
Command lines of words. A command has options, some of which take a value, and arguments, which are
told apart by their position. The words are read from left to right, and the first one that does not
fit ends the reading.
-/
namespace TensorBench.CommandLine

/-- What a value has to be. -/
inductive ValueKind where
  | text
  | path
  | number
deriving DecidableEq

def ValueKind.accepts (kind : ValueKind) (value : String) : Bool :=
  match kind with
  | text => true
  | path => value ≠ ""
  | number => match Number.Numeral.word value with
    | .ok _ => true
    | .error _ => false

/-- A place for a value, with its title and the value that is meant if there is none. -/
structure Place where
  title : String
  kind : ValueKind
  default : Option String := none
deriving DecidableEq

structure OptionSpec where
  short : Option Char
  long : String
  /-- The value the option takes; a flag takes none. -/
  value : Option Place
  help : String
deriving DecidableEq

structure ArgumentSpec where
  place : Place
  required : Bool
  help : String
deriving DecidableEq

structure CommandSpec where
  name : String
  about : String
  options : List OptionSpec
  arguments : List ArgumentSpec
deriving DecidableEq

/-- Why a command line is refused. -/
inductive Refusal where
  | unexpected (word : String)
  | unknownCommand (word : String)
  | missingValue (option : String)
  | needlessValue (option : String)
  | invalidValue (value title : String)
  | repeated (option : String)
  | missingArgument (title : String)
  | missingCommand
deriving DecidableEq

def Refusal.message : Refusal → String
  | unexpected word => s!"unexpected argument '{word}' found"
  | unknownCommand word => s!"unrecognized subcommand '{word}'"
  | missingValue option => s!"a value is required for '--{option}' but none was supplied"
  | needlessValue option => s!"unexpected value for '--{option}' found; no more were expected"
  | invalidValue value title => s!"invalid value '{value}' for '{title}'"
  | repeated option => s!"the argument '--{option}' cannot be used multiple times"
  | missingArgument title => s!"the following required arguments were not provided: {title}"
  | missingCommand => "a subcommand is required but one was not provided"

/-- Why reading words ends without a command to execute. -/
inductive Ending where
  | help (command : String)
  | version
  | refused (refusal : Refusal)
deriving DecidableEq

/-- The options, by their long names, and the arguments that were given. -/
structure Given where
  options : List (String × String)
  arguments : List String
deriving DecidableEq, Inhabited

namespace Given

def empty : Given := ⟨[], []⟩

def option? (given : Given) (long : String) : Option String := given.options.lookup long

def isSet (given : Given) (long : String) : Bool := (given.option? long).isSome

end Given

def helpOption : OptionSpec := ⟨some 'h', "help", none, "Print help"⟩

def versionOption : OptionSpec := ⟨some 'V', "version", none, "Print version"⟩

/-- How far the reading of a command's words has come. An option that takes a value from a word of
its own is pending until the next option or argument: first it awaits the value, then it has it. -/
structure Scan where
  given : Given
  pending : Option (OptionSpec × Option String)

namespace Scan

def initial : Scan := ⟨.empty, none⟩

/-- The option that awaits its value. -/
def awaiting? (scan : Scan) : Option OptionSpec :=
  match scan.pending with
  | some (option, none) => some option
  | _ => none

/-- Take an option, with its value unless it is a flag. -/
def enter (command : CommandSpec) (option : OptionSpec) (value : String) (given : Given) :
    Except Ending Given :=
  if option = helpOption then .error (.help command.name)
  else if option = versionOption then .error .version
  else if given.isSet option.long then .error (.refused (.repeated option.long))
  else if option.value.all (·.kind.accepts value) then
    .ok { given with options := given.options ++ [(option.long, value)] }
  else .error (.refused (.invalidValue value option.long))

/-- Take the option that is pending. -/
def settle (command : CommandSpec) (scan : Scan) : Except Ending Given :=
  match scan.pending with
  | none => .ok scan.given
  | some (option, none) => .error (.refused (.missingValue option.long))
  | some (option, some value) => enter command option value scan.given

/-- An option that stands on its own in a word, or with its value behind it. -/
def option (command : CommandSpec) (scan : Scan) (option : OptionSpec) (attached : Option String) :
    Except Ending Scan :=
  match option.value, attached with
  | none, some _ => .error (.refused (.needlessValue option.long))
  | none, none => do return ⟨← enter command option "" (← scan.settle command), none⟩
  | some _, some value => do return ⟨← enter command option value (← scan.settle command), none⟩
  | some _, none => do return ⟨← scan.settle command, some (option, none)⟩

/-- A word of one dash. Every letter is an option; one that takes a value takes the rest of the
word, an equals sign in front of it left out. -/
def cluster (command : CommandSpec) (scan : Scan) : List Char → Except Ending Scan
  | [] => .ok scan
  | c :: rest =>
      match command.options.find? (·.short == some c) with
      | none => .error (.refused (.unexpected ("-" ++ c.toString)))
      | some found =>
          if found.value.isNone then do
            (← scan.option command found none).cluster command rest
          else
            match rest with
            | [] => scan.option command found none
            | '=' :: value => scan.option command found (some (String.ofList value))
            | value => scan.option command found (some (String.ofList value))

/-- A word of two dashes: the name of an option, and its value behind an equals sign. -/
def long (command : CommandSpec) (scan : Scan) (body : List Char) : Except Ending Scan :=
  let name := String.ofList (body.takeWhile (· != '='))
  let attached := match body.dropWhile (· != '=') with
    | [] => none
    | _ :: value => some (String.ofList value)
  match command.options.find? (·.long == name) with
  | none => .error (.refused (.unexpected ("--" ++ name)))
  | some found => scan.option command found attached

/-- A word that is an argument. -/
def argument (command : CommandSpec) (scan : Scan) (word : String) : Except Ending Scan := do
  let given ← scan.settle command
  match command.arguments[given.arguments.length]? with
  | none => .error (.refused (.unexpected word))
  | some spec =>
      if spec.place.kind.accepts word then
        .ok ⟨{ given with arguments := given.arguments ++ [word] }, none⟩
      else .error (.refused (.invalidValue word spec.place.title))

/-- Words that are all arguments. -/
def arguments (command : CommandSpec) (scan : Scan) : List String → Except Ending Scan
  | [] => .ok scan
  | word :: rest => do (← scan.argument command word).arguments command rest

/-- Read words up to the first one that names one of the further commands, which is left over with
those behind it. Behind two dashes alone all words are arguments. -/
def words (command : CommandSpec) (isCommand : String → Bool) (scan : Scan) :
    List String → Except Ending (Scan × List String)
  | [] => .ok (scan, [])
  | word :: rest =>
      match scan.awaiting?, word.toList with
      | _, ['-', '-'] => do return (← scan.arguments command rest, [])
      | _, '-' :: '-' :: body => do (← scan.long command body).words command isCommand rest
      | _, '-' :: c :: body => do
          (← scan.cluster command (c :: body)).words command isCommand rest
      | some option, _ =>
          Scan.words command isCommand ⟨scan.given, some (option, some word)⟩ rest
      | none, _ =>
          if isCommand word then .ok (scan, word :: rest)
          else do (← scan.argument command word).words command isCommand rest

end Scan

/-- Read the words of a command that has no further commands. -/
def CommandSpec.read (command : CommandSpec) (words : List String) : Except Ending Given := do
  let (scan, _) ← Scan.initial.words command (fun _ => false) words
  let given ← scan.settle command
  match command.arguments[given.arguments.length]? with
  | some spec =>
      if spec.required then .error (.refused (.missingArgument spec.place.title)) else .ok given
  | none => .ok given

end TensorBench.CommandLine
