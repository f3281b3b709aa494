import TensorBench.Yaml.Schema

/-!
YAML text of a value, in block style. A string is written plain where it reads back as itself, in
single quotes where it would be taken for something else, as a literal block where it has several
lines, and in double quotes where it holds characters that cannot be shown.
-/
namespace TensorBench.Yaml.Writer

/-- Words that some readers take for truth values, in small letters, capitalised or in capitals. -/
def truthWords : List String :=
  ["y", "yes", "n", "no", "on", "off", "true", "false"].flatMap fun word =>
    [word, word.capitalize, word.map Char.toUpper]

/-- A plain scalar of this text would not be a string, or not for every reader. -/
def isAmbiguous (text : String) : Bool :=
  truthWords.contains text || Schema.hasLeadingZero text.toList ||
    match Schema.resolve text with
    | .ok (.str _) => false
    | _ => true

/-- Characters that are shown as they are. -/
def isShown (c : Char) : Bool :=
  let n := c.toNat
  n == 0xa || (0x20 ≤ n && n ≤ 0x7e) || (0xa0 ≤ n && n ≤ 0xfffd && n != 0xfeff)

def endsWord : List Char → Bool
  | [] => true
  | c :: _ => isSpace c || isBreak c

/-- The text starts like something other than a scalar. -/
def opensOtherwise : List Char → Bool
  | '-' :: '-' :: '-' :: _ => true
  | '.' :: '.' :: '.' :: _ => true
  | c :: rest =>
      "#,[]&*!|>'\"%@`\x7b\x7d".toList.contains c ||
        ((c == '?' || c == ':' || c == '-') && endsWord rest)
  | [] => false

/-- Behind the first character: a colon that ends a name, or a remark. -/
def isBroken (afterBlank : Bool) : List Char → Bool
  | [] => false
  | c :: rest =>
      (c == ':' && endsWord rest) || (c == '#' && afterBlank) ||
        isBroken (isSpace c || isBreak c) rest

/-- A space before or behind a break. -/
def mixesSpaceAndBreak : List Char → Bool
  | a :: b :: rest =>
      (a == ' ' && isBreak b) || (isBreak a && b == ' ') || mixesSpaceAndBreak (b :: rest)
  | _ => false

inductive Style where
  | plain
  | single
  | double
  | literal
deriving DecidableEq

def isEdged (text : List Char) : Bool := text.head? == some ' ' || text.getLast? == some ' '

/-- How a string is written. Names stay on one line. -/
def style (isName : Bool) (text : String) : Style :=
  let chars := text.toList
  if !chars.all isShown then .double
  else if chars.any isBreak then
    if isName || mixesSpaceAndBreak chars || chars.getLast? == some ' ' then .double else .literal
  else if isAmbiguous text || isEdged chars || opensOtherwise chars || isBroken true chars then
    .single
  else .plain

def hexUpper (width n : Nat) : String := (Text.hexPadded width n).map Char.toUpper

def escaped (c : Char) : String :=
  let n := c.toNat
  if c == '"' || c == '\\' then "\\" ++ c.toString
  else if isShown c && !isBreak c then c.toString
  else match ([(0, "0"), (7, "a"), (8, "b"), (9, "t"), (10, "n"), (11, "v"), (12, "f"), (13, "r"),
      (0x1b, "e"), (0x85, "N"), (0x2028, "L"), (0x2029, "P")] : List (Nat × String)).lookup n with
    | some letter => "\\" ++ letter
    | none =>
        if n ≤ 0xff then "\\x" ++ hexUpper 2 n
        else if n ≤ 0xffff then "\\u" ++ hexUpper 4 n
        else "\\U" ++ hexUpper 8 n

def margin (level : Nat) : String := String.ofList (List.replicate level ' ')

/-- What tells how a literal block starts and ends. -/
def blockMarks (chars : List Char) : String :=
  let hint := if endsWord chars then "2" else ""
  let ending := match chars.reverse with
    | a :: rest => if !isBreak a then "-" else if rest.isEmpty || endsWord rest then "+" else ""
    | [] => "-"
  hint ++ ending

/-- The lines of a literal block, without the break at the end of the last one. -/
def blockLines (level : Nat) (chars : List Char) : String :=
  let lines := (Text.splitOnChar '\n' chars).map String.ofList
  let lines := if chars.getLast? == some '\n' then lines.dropLast else lines
  "\n".intercalate (lines.map fun line => if line == "" then line else margin level ++ line)

/-- The text of a string whose further lines have the given margin. -/
def scalar (isName : Bool) (level : Nat) (text : String) : String :=
  match style isName text with
  | .plain => text
  | .single =>
      "'" ++ String.join (text.toList.map fun c => if c == '\'' then "''" else c.toString) ++ "'"
  | .double => "\"" ++ String.join (text.toList.map escaped) ++ "\""
  | .literal => "|" ++ blockMarks text.toList ++ "\n" ++ blockLines level text.toList

/-- The text of a value without parts. -/
def atom (level : Nat) : Json → String
  | .str text => scalar false level text
  | .double x => if x.isFinite then Number.Shortest.double x else ".nan"
  | .arr _ => "[]"
  | .obj _ => "\x7b\x7d"
  | value => Json.atomText value

mutual
/-- The lines of a value whose first line continues one that is already begun; `level` is the margin
of its further lines. -/
def inline (level : Nat) : Json → String
  | .arr (item :: rest) => "- " ++ inline (level + 2) item ++ items level rest
  | .obj ((name, value) :: rest) => member level name value ++ members level rest
  | value => atom level value

def items (level : Nat) : List Json → String
  | [] => ""
  | item :: rest => "\n" ++ margin level ++ "- " ++ inline (level + 2) item ++ items level rest

/-- A name and its value. A sequence starts at the margin of the name, a record further in. -/
def member (level : Nat) (name : String) (value : Json) : String :=
  scalar true level name ++ ":" ++
    match value with
    | .arr (item :: rest) => items level (item :: rest)
    | .obj (entry :: rest) => members (level + 2) (entry :: rest)
    | value => " " ++ atom (level + 2) value

def members (level : Nat) : List (String × Json) → String
  | [] => ""
  | (name, value) :: rest =>
      "\n" ++ margin level ++ member level name value ++ members level rest
end

/-- A whole text. -/
def document (value : Json) : String := inline 0 value ++ "\n"

end TensorBench.Yaml.Writer
