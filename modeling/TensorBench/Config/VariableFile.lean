import TensorBench.NameTable
import TensorBench.Text.Letters

/-!
Files of variables, one assignment a line, such as `export NAME="value" # remark`. Values may be
quoted and may refer to variables that are already set.
-/
namespace TensorBench.VariableFile

open TensorBench.Text

/-- Where in a value a character stands. The flag of a state tells whether it is inside double
quotes, and the characters of a name are held in reverse. -/
inductive Mode where
  | plain
  | double
  | single
  | escaped (quoted : Bool)
  | name (quoted : Bool) (reversed : List Char)
  | bracedName (quoted : Bool) (reversed : List Char)
  | ended

def Mode.around (quoted : Bool) : Mode := if quoted then .double else .plain

/-- The value of a variable, which is empty if it is not set. -/
def lookUp (assigned : NameTable String) (reversed : List Char) : List Char :=
  ((assigned.get? (String.ofList reversed.reverse)).getD "").toList

def escape? (c : Char) : Option Char :=
  if c == 'n' then some '\n'
  else if c == '\\' || c == '\'' || c == '"' || c == '$' || c == ' ' then some c
  else none

/-- The characters a value stands for. A name ends at the first character that cannot belong to it,
which is then taken as it is; a blank outside quotes ends the value, and only blanks and a remark
may follow it. -/
def expand (assigned : NameTable String) : Mode → List Char → Option (List Char)
  | .plain, [] => some []
  | .ended, [] => some []
  | .escaped false, [] => some []
  | .name false reversed, [] => some (lookUp assigned reversed)
  | _, [] => none
  | .ended, c :: rest =>
      if c == ' ' || c == '\t' then expand assigned .ended rest
      else if c == '#' then some []
      else none
  | .escaped quoted, c :: rest => do
      let meant ← escape? c
      return meant :: (← expand assigned (.around quoted) rest)
  | .single, c :: rest =>
      if c == '\'' then expand assigned .plain rest
      else (expand assigned .single rest).map (c :: ·)
  | .name quoted reversed, c :: rest =>
      if isLetterOrDigit c then expand assigned (.name quoted (c :: reversed)) rest
      else if c == '\x7b' && reversed.isEmpty then expand assigned (.bracedName quoted []) rest
      else if c == '$' then
        (expand assigned (.name quoted []) rest).map (lookUp assigned reversed ++ ·)
      else (expand assigned (.around quoted) rest).map (lookUp assigned reversed ++ c :: ·)
  | .bracedName quoted reversed, c :: rest =>
      if c == '\x7d' then
        (expand assigned (.around quoted) rest).map (lookUp assigned reversed ++ ·)
      else expand assigned (.bracedName quoted (c :: reversed)) rest
  | .double, c :: rest =>
      if c == '$' then expand assigned (.name true []) rest
      else if c == '"' then expand assigned .plain rest
      else if c == '\\' then expand assigned (.escaped true) rest
      else (expand assigned .double rest).map (c :: ·)
  | .plain, c :: rest =>
      if c == '$' then expand assigned (.name false []) rest
      else if c == '\'' then expand assigned .single rest
      else if c == '"' then expand assigned .double rest
      else if c == '\\' then expand assigned (.escaped false) rest
      else if c == ' ' || c == '\t' then expand assigned .ended rest
      else (expand assigned .plain rest).map (c :: ·)

def isKeyStart (c : Char) : Bool := isLetter c || c == '_'

def isKeyChar (c : Char) : Bool := isKeyStart c || isDigit c || c == '.'

/-- A name and the text behind it and the blanks after it. -/
def readKey? (text : List Char) : Option (List Char × List Char) :=
  match text with
  | c :: _ =>
      if isKeyStart c then
        some (text.takeWhile isKeyChar, (text.dropWhile isKeyChar).dropWhile isBlank)
      else none
  | [] => none

def afterEqual? : List Char → Option (List Char)
  | '=' :: rest => some (rest.dropWhile isBlank)
  | _ => none

/-- The name that is assigned and the text of its value. The word `export` in front of a name is
left out, unless it is itself the name. -/
def readAssignment? (text : List Char) : Option (List Char × List Char) := do
  let (key, rest) ← readKey? text
  match afterEqual? rest with
  | some value => return (key, value)
  | none =>
      if key = "export".toList then
        let (key, rest) ← readKey? rest
        return (key, ← afterEqual? rest)
      else none

/-- Blanks at either end do not belong to a line. -/
def trim (line : List Char) : List Char :=
  ((line.dropWhile isBlank).reverse.dropWhile isBlank).reverse

/-- What a line leaves of the variables; nothing if the line is no assignment. A variable that is
set keeps its value. -/
def loadLine (assigned : NameTable String) (line : List Char) : Option (NameTable String) :=
  match trim line with
  | [] => some assigned
  | '#' :: _ => some assigned
  | text => do
      let (key, value) ← readAssignment? text
      let value ← if value.head? = some '#' then some [] else expand assigned .plain value
      let name := String.ofList key
      return if assigned.contains name then assigned
        else assigned.insert name (String.ofList value)

/-- Lines are loaded up to the first one that is no assignment. -/
def loadLines (assigned : NameTable String) : List (List Char) → NameTable String
  | [] => assigned
  | line :: rest =>
      match loadLine assigned line with
      | some assigned => loadLines assigned rest
      | none => assigned

/-- The variables after loading a file. -/
def load (assigned : NameTable String) (text : String) : NameTable String :=
  loadLines assigned (splitOnChar '\n' text.toList)

end TensorBench.VariableFile
