import TensorBench.Number.Numeral
import TensorBench.Text.Letters

/-!
Texts that say what is logged: directives separated by commas, such as `info` or
`engine[run]=debug`. A directive names a target, a span of it with its fields, and a level; every
part may be missing.
-/
namespace TensorBench.CommandLine.LogFilter

def levelNames : List String := ["off", "error", "warn", "info", "debug", "trace"]

/-- A level, by its name or its number. -/
def isLevel (text : String) : Bool :=
  levelNames.contains (Text.lowercase text) ||
    match Number.Numeral.word text with
    | .ok number => number < levelNames.length
    | .error _ => false

/-- Where in a directive a character stands. -/
inductive Mode where
  | start
  | target
  | span
  /-- In a field; whether it has any character yet. -/
  | field (begun : Bool)
  | fields
  | afterSpan
deriving DecidableEq

def mayStart (c : Char) : Bool :=
  c == '-' || c == ':' || c == '_' || Text.isLetterOrDigit c

/-- The directive up to its level is well formed; `level` decides about the level, which starts at
the given place. -/
def isDirectiveFrom (level : Nat → Bool) (place : Nat) : Mode → List Char → Bool
  | .target, [] => true
  | .afterSpan, [] => true
  | _, [] => false
  | .start, c :: rest =>
      if c == '[' then isDirectiveFrom level (place + 1) .span rest
      else mayStart c && isDirectiveFrom level (place + 1) .target rest
  | .target, c :: rest =>
      if c == '=' then level (place + 1)
      else isDirectiveFrom level (place + 1) (if c == '[' then .span else .target) rest
  | .span, c :: rest =>
      isDirectiveFrom level (place + 1)
        (if c == ']' then .afterSpan else if c == '\x7b' then .field false else .span) rest
  | .field begun, c :: rest =>
      if c == '\x7d' then begun && isDirectiveFrom level (place + 1) .fields rest
      else isDirectiveFrom level (place + 1) (.field true) rest
  | .fields, c :: rest => c == ']' && isDirectiveFrom level (place + 1) .afterSpan rest
  | .afterSpan, c :: _ => c == '=' && level (place + 1)

def trim (text : List Char) : List Char :=
  ((text.dropWhile Text.isBlank).reverse.dropWhile Text.isBlank).reverse

/-- A directive. Blanks around it do not count for its form, but its level is what the text holds
from the place on where the form has it. -/
def isDirective (text : List Char) : Bool :=
  let level (place : Nat) : Bool :=
    let name := String.ofList (text.drop place)
    name == "" || isLevel name
  isDirectiveFrom level 0 .start (trim text)

/-- A list of directives, some of which may be empty. -/
def isValid (text : String) : Bool :=
  (Text.splitOnChar ',' text.toList).all fun piece => piece.isEmpty || isDirective piece

end TensorBench.CommandLine.LogFilter
