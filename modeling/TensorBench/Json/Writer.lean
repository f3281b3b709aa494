import TensorBench.Json.Basic
import TensorBench.Number.Shortest
import TensorBench.Text.Chars

/-!
JSON text of a value, on one line or indented by two blanks a level.
-/
namespace TensorBench.Json

open TensorBench.Text

def escapedChar (c : Char) : String :=
  match c with
  | '"' => "\\\""
  | '\\' => "\\\\"
  | '\x08' => "\\b"
  | '\x0c' => "\\f"
  | '\n' => "\\n"
  | '\r' => "\\r"
  | '\t' => "\\t"
  | _ => if c.toNat < 0x20 then "\\u" ++ hexPadded 4 c.toNat else c.toString

def quote (text : String) : String :=
  "\"" ++ String.join (text.toList.map escapedChar) ++ "\""

/-- The text of a value without parts. A number that is not finite has no form and becomes null. -/
def atomText : Json → String
  | null => "null"
  | bool value => if value then "true" else "false"
  | int value => toString value
  | double value => if value.isFinite then Number.Shortest.double value else "null"
  | single value => if value.isFinite then Number.Shortest.single value else "null"
  | str value => quote value
  | arr _ => "[]"
  | obj _ => "\x7b\x7d"

mutual
def compact : Json → String
  | arr items => "[" ++ compactItems items ++ "]"
  | obj members => "\x7b" ++ compactMembers members ++ "\x7d"
  | atom => atomText atom

def compactItems : List Json → String
  | [] => ""
  | [item] => compact item
  | item :: rest => compact item ++ "," ++ compactItems rest

def compactMembers : List (String × Json) → String
  | [] => ""
  | [(name, value)] => quote name ++ ":" ++ compact value
  | (name, value) :: rest => quote name ++ ":" ++ compact value ++ "," ++ compactMembers rest
end

def margin (level : Nat) : String := "\n" ++ String.ofList (List.replicate (2 * level) ' ')

mutual
def prettyAt (level : Nat) : Json → String
  | arr [] => "[]"
  | obj [] => "\x7b\x7d"
  | arr items => "[" ++ prettyItems (level + 1) items ++ margin level ++ "]"
  | obj members => "\x7b" ++ prettyMembers (level + 1) members ++ margin level ++ "\x7d"
  | atom => atomText atom

def prettyItems (level : Nat) : List Json → String
  | [] => ""
  | [item] => margin level ++ prettyAt level item
  | item :: rest => margin level ++ prettyAt level item ++ "," ++ prettyItems level rest

def prettyMembers (level : Nat) : List (String × Json) → String
  | [] => ""
  | [(name, value)] => margin level ++ quote name ++ ": " ++ prettyAt level value
  | (name, value) :: rest =>
      margin level ++ quote name ++ ": " ++ prettyAt level value ++ "," ++ prettyMembers level rest
end

def pretty (value : Json) : String := prettyAt 0 value

end TensorBench.Json
