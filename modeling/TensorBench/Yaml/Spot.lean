import TensorBench.Text.Chars

/-!
The characters of a YAML text with the places where they stand. A line break in any of its written
forms is a single character here, and a text with control characters is refused.
-/
namespace TensorBench.Yaml

/-- A character with its line, its column and the number of characters before it. -/
structure Spot where
  char : Char
  line : Nat
  column : Nat
  index : Nat

def isBreak (c : Char) : Bool := c == '\n' || c == '\u2028' || c == '\u2029'

def isSpace (c : Char) : Bool := c == ' ' || c == '\t'

/-- Characters of anchors, handles and names of directives. -/
def isNameChar (c : Char) : Bool := Text.isLetter c || Text.isDigit c || c == '_' || c == '-'

/-- Characters a text may hold. -/
def isPermitted (c : Char) : Bool :=
  let n := c.toNat
  n == 0x9 || n == 0xa || n == 0xd || (0x20 ≤ n && n ≤ 0x7e) || n == 0x85 ||
    (0xa0 ≤ n && n ≤ 0xd7ff) || (0xe000 ≤ n && n ≤ 0xfffd && n != 0xfeff) || 0x10000 ≤ n

namespace Spot

/-- The spots of a text from a place on. -/
def ofChars? (line column index : Nat) : List Char → Option (List Spot)
  | [] => some []
  | '\r' :: '\n' :: rest =>
      (ofChars? (line + 1) 0 (index + 2) rest).map (⟨'\n', line, column, index⟩ :: ·)
  | c :: rest =>
      if !isPermitted c then none
      else
        let char := if c == '\r' || c == '\u0085' then '\n' else c
        let next :=
          if isBreak char then ofChars? (line + 1) 0 (index + 1) rest
          else ofChars? line (column + 1) (index + 1) rest
        next.map (⟨char, line, column, index⟩ :: ·)

/-- The spots of a text. A byte order mark at its start does not count. -/
def ofText? (text : String) : Option (List Spot) :=
  match text.toList with
  | '\ufeff' :: chars => ofChars? 0 0 0 chars
  | chars => ofChars? 0 0 0 chars

/-- A space, a tab, a break or the end of the text comes next. -/
def endsWord : List Spot → Bool
  | [] => true
  | spot :: _ => isSpace spot.char || isBreak spot.char

/-- Three equal characters at the start of a line, standing alone. -/
def isMarker (c : Char) : List Spot → Bool
  | a :: b :: d :: rest =>
      a.column == 0 && a.char == c && b.char == c && d.char == c && endsWord rest
  | _ => false

/-- The start or the end of a document is marked here. -/
def isDocumentMarker (spots : List Spot) : Bool := isMarker '-' spots || isMarker '.' spots

def takeChars (p : Char → Bool) (spots : List Spot) : List Char :=
  (spots.takeWhile fun spot => p spot.char).map (·.char)

def dropChars (p : Char → Bool) (spots : List Spot) : List Spot :=
  spots.dropWhile fun spot => p spot.char

def dropComment : List Spot → List Spot
  | spot :: rest =>
      if spot.char == '#' then dropChars (fun c => !isBreak c) (spot :: rest) else spot :: rest
  | [] => []

/-- What follows blanks, a comment and a break, if nothing else stands on the line. -/
def afterLine? (spots : List Spot) : Option (List Spot) :=
  match dropComment (dropChars isSpace spots) with
  | [] => some []
  | spot :: rest => if isBreak spot.char then some rest else none

end Spot

end TensorBench.Yaml
