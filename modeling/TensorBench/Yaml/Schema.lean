import TensorBench.Document
import TensorBench.Number.Reading
import TensorBench.Words
import TensorBench.Yaml.Node

/-!
The values that scalars stand for, and the reading of records from YAML. A plain scalar may be null,
a truth value, an integer or a floating point number; any other scalar is a string.
-/
namespace TensorBench.Yaml

namespace Schema

def isNullWord (text : String) : Bool :=
  text == "~" || text == "null" || text == "Null" || text == "NULL"

def bool? (text : String) : Option Bool :=
  if text == "true" || text == "True" || text == "TRUE" then some true
  else if text == "false" || text == "False" || text == "FALSE" then some false
  else none

def digitIn? (base : Nat) (c : Char) : Option Nat :=
  match Text.hexValue? c with
  | some digit => if digit < base then some digit else none
  | none => none

/-- The number a nonempty list of digits writes. -/
def natural? (base : Nat) (digits : List Char) : Option Nat :=
  if digits.isEmpty then none
  else digits.foldlM (fun n c => (digitIn? base c).map (base * n + ·)) 0

def afterSign : List Char → List Char
  | '+' :: rest => rest
  | '-' :: rest => rest
  | chars => chars

/-- Digits with a zero in front are a name rather than a number. -/
def hasLeadingZero (text : List Char) : Bool :=
  match afterSign text with
  | '0' :: c :: rest => (c :: rest).all Text.isDigit
  | _ => false

/-- An unsigned number in one of the four bases. -/
def magnitude? : List Char → Option Nat
  | '0' :: 'x' :: digits => natural? 16 digits
  | '0' :: 'o' :: digits => natural? 8 digits
  | '0' :: 'b' :: digits => natural? 2 digits
  | digits => natural? 10 digits

/-- An integer, perhaps with a sign. -/
def int? (text : String) : Option Int :=
  let chars := text.toList
  if hasLeadingZero chars then none
  else match chars with
    | '-' :: rest => (magnitude? rest).map fun n => -(n : Int)
    | _ => (magnitude? (match chars with | '+' :: rest => rest | _ => chars)).map fun n => (n : Int)

def afterExponentMark? : List Char → Option (List Char)
  | 'e' :: rest => some rest
  | 'E' :: rest => some rest
  | _ => none

/-- A finite number in decimal notation, with a point, an exponent, both or neither. -/
def decimal? (negative : Bool) (text : List Char) : Option Binary64 := do
  let whole := text.takeWhile Text.isDigit
  let rest := text.dropWhile Text.isDigit
  let (fraction, rest) := match rest with
    | '.' :: rest => (rest.takeWhile Text.isDigit, rest.dropWhile Text.isDigit)
    | rest => ([], rest)
  if whole.isEmpty && fraction.isEmpty then none
  else
    let exponent : Int ← match rest with
      | [] => some 0
      | rest => do
          match ← afterExponentMark? rest with
          | '-' :: digits => (natural? 10 digits).map fun n => -(n : Int)
          | '+' :: digits => (natural? 10 digits).map fun n => (n : Int)
          | digits => (natural? 10 digits).map fun n => (n : Int)
    Number.Reading.ofDecimal? negative (Text.ofDigits (whole ++ fraction))
      (exponent - fraction.length)

/-- A floating point number; none inside stands for an infinity or for no number. -/
def float? (text : String) : Option (Option Binary64) :=
  let special := [".inf", ".Inf", ".INF"]
  if special.contains text || (special.map ("+" ++ ·)).contains text ||
      (special.map ("-" ++ ·)).contains text || [".nan", ".NaN", ".NAN"].contains text then
    some none
  else
    let finite := match text.toList with
      | '-' :: rest => decimal? true rest
      | '+' :: rest => decimal? false rest
      | chars => decimal? false chars
    finite.map some

/-- An integer, which must fit a machine word, signed or not; one of more than 128 bits is none. -/
def integer? (text : String) : Option (Except DecodeFault Json) :=
  match int? text with
  | some value =>
      if Words.minSigned ≤ value ∧ value < Words.limit then some (.ok (.int value))
      else if -Words.patterns 127 ≤ value ∧ value < Words.patterns 128 then
        some (.error (.outOfRange (.int value) "any valid JSON value"))
      else none
  | none => none

/-- A number that is not finite has no value. -/
def floatValue : Option Binary64 → Json
  | some x => .double x
  | none => .null

/-- What a plain scalar stands for. -/
def resolve (text : String) : Except DecodeFault Json :=
  if text = "" || isNullWord text then .ok .null
  else match bool? text, integer? text with
    | some value, _ => .ok (.bool value)
    | none, some value => value
    | none, none =>
        if hasLeadingZero text.toList then .ok (.str text)
        else .ok (((float? text).map floatValue).getD (.str text))

def standardTag (name : String) : String := "tag:yaml.org,2002:" ++ name

/-- A tag that belongs to the document alone. -/
def isLocal (tag : String) : Bool := tag.startsWith "!"

end Schema

namespace Node

open Schema

/-- What a node is called in a complaint about it. -/
def describe : Node → Json
  | scalar _ _ text => .str text
  | sequence .. => .arr []
  | mapping .. => .obj []
  | enclosing => .null

def wrongType {β : Type} (found : Node) (expected : String) : Except DecodeFault β :=
  .error (.wrongType found.describe expected)

/-- Every scalar is a string, whatever it looks like. -/
def string : Node → Except DecodeFault String
  | scalar _ _ text => .ok text
  | found => found.wrongType "a string"

/-- A scalar whose text may be read as a value of the kind that a tag names: a plain one, or a
literal block with that tag. -/
def isReadable (kind : String) (tag : Option String) (style : ScalarStyle) : Bool :=
  style == .plain || (style == .literal && tag == some (standardTag kind))

def boolean : Node → Except DecodeFault Bool
  | found@(scalar tag style text) =>
      match bool? text with
      | some value => if isReadable "bool" tag style then .ok value else found.wrongType "a boolean"
      | none => found.wrongType "a boolean"
  | found => found.wrongType "a boolean"

def word (kind : String) : Node → Except DecodeFault Nat
  | found@(scalar tag style text) =>
      match int? text with
      | some value =>
          if isReadable "int" tag style && 0 ≤ value && value < Words.limit && !text.startsWith "-"
          then .ok value.toNat
          else found.wrongType kind
      | none => found.wrongType kind
  | found => found.wrongType kind

/-- A null. One that is not plain has to be tagged as such. -/
def isNull : Node → Bool
  | scalar none style text => style == .plain && (text == "" || isNullWord text)
  | scalar (some tag) _ text => tag == standardTag "null" && isNullWord text
  | _ => false

/-- A list; nothing at all is an empty one. -/
def items : Node → Except DecodeFault (List Node)
  | sequence _ items => .ok items
  | scalar _ .plain "" => .ok []
  | found => found.wrongType "a sequence"

/-- A name, as the text of a scalar or as its tag. -/
def choice {β : Type} (choices : List (String × β)) : Node → Except DecodeFault β
  | found@(scalar tag style text) =>
      match tag with
      | some tag =>
          if !isLocal tag then Decode.name choices (.str text)
          else if style == .plain && (text == "" || isNullWord text) then
            Decode.name choices (.str (String.ofList (tag.toList.drop 1)))
          else found.wrongType "unit variant"
      | none => Decode.name choices (.str text)
  | found => found.wrongType "string or map"

def members (kind : String) : Node → Except DecodeFault (List (String × Node))
  | mapping _ entries => entries.mapM fun (key, value) => do return (← string key, value)
  | found => found.wrongType ("struct " ++ kind)

def record (kind : String) (names : List String) (node : Node) :
    Except DecodeFault (Decode.Fields Node) := do
  Decode.ofMembers names (← members kind node)

/-- What a scalar stands for, by its tag or by its looks. -/
def scalarValue (tag : Option String) (style : ScalarStyle) (text : String) :
    Except DecodeFault Json :=
  let invalid (expected : String) : Except DecodeFault Json :=
    .error (.outOfRange (.str text) expected)
  match tag with
  | none => if style == .plain then resolve text else .ok (.str text)
  | some tag =>
      if isLocal tag then .error (.wrongType (.str text) "any valid JSON value")
      else if tag == standardTag "bool" then
        match bool? text with
        | some value => .ok (.bool value)
        | none => invalid "a boolean"
      else if tag == standardTag "int" then
        (integer? text).getD (invalid "an integer")
      else if tag == standardTag "float" then
        match float? text with
        | some x => .ok (floatValue x)
        | none => invalid "a float"
      else if tag == standardTag "null" then
        if isNullWord text then .ok .null else invalid "null"
      else .ok (.str text)

/-- How deep a setting nests, the three containers around it not counted. -/
def maxDepth : Nat := 125

mutual
/-- Any value, whose names must be strings. A repeated name keeps its last value. -/
def value (depth : Nat) : Node → Except DecodeFault Json
  | scalar tag style text => scalarValue tag style text
  | sequence tag items =>
      if depth = 0 ∨ tag.any isLocal then .error (.rejected "a sequence cannot stand here")
      else (itemValues (depth - 1) items).map .arr
  | mapping tag entries =>
      if depth = 0 ∨ tag.any isLocal then .error (.rejected "a mapping cannot stand here")
      else (entryValues (depth - 1) entries).map fun members =>
        .ofNames (.ofList members)
  | enclosing => .error (.rejected "a value cannot contain itself")

def itemValues (depth : Nat) : List Node → Except DecodeFault (List Json)
  | [] => .ok []
  | item :: rest => do return (← value depth item) :: (← itemValues depth rest)

def entryValues (depth : Nat) : List (Node × Node) → Except DecodeFault (List (String × Json))
  | [] => .ok []
  | (key, item) :: rest => do
      match ← value depth key with
      | .str name => return (name, ← value depth item) :: (← entryValues depth rest)
      | found => .error (.wrongType found "a string")
end

instance : Document Node where
  string := string
  boolean := boolean
  word := word
  isNull := isNull
  items := items
  choice := choice
  record := record
  members := members
  value := value maxDepth

end Node

end TensorBench.Yaml
