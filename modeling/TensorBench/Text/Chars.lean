import TensorBench.Text.CharRanges

/-!
Character classes and the forms of text built on them: blanks, quoted text, terminal columns and
decimal numerals.
-/
namespace TensorBench.Text

/-- White space in the sense of the Unicode property. -/
def isBlank (c : Char) : Bool :=
  let n := c.toNat
  (0x9 ≤ n && n ≤ 0xd) || n == 0x20 || n == 0x85 || n == 0xa0 || n == 0x1680 ||
    (0x2000 ≤ n && n ≤ 0x200a) || n == 0x2028 || n == 0x2029 || n == 0x202f || n == 0x205f ||
    n == 0x3000

def isDigit (c : Char) : Bool := '0' ≤ c && c ≤ '9'

def isLetter (c : Char) : Bool := ('a' ≤ c && c ≤ 'z') || ('A' ≤ c && c ≤ 'Z')

def digitValue (c : Char) : Nat := c.toNat - '0'.toNat

/-- The value of a digit up to base sixteen. -/
def hexValue? (c : Char) : Option Nat :=
  if isDigit c then some (digitValue c)
  else if 'a' ≤ c && c ≤ 'f' then some (c.toNat - 'a'.toNat + 10)
  else if 'A' ≤ c && c ≤ 'F' then some (c.toNat - 'A'.toNat + 10)
  else none

def hexDigit (n : Nat) : Char := "0123456789abcdef".toList.getD n '0'

/-- Lower-case hexadecimal digits with leading zeros up to the given length. -/
def hexPadded (width n : Nat) : String :=
  String.ofList ((List.range width).map fun i => hexDigit (n / Nat.pow 16 (width - 1 - i) % 16))

/-- Lower-case hexadecimal digits without leading zeros. -/
def hex (n : Nat) : String :=
  hexPadded (Nat.log2 n / 4 + 1) n

/-- The number a list of decimal digits writes. -/
def ofDigits (digits : List Char) : Nat :=
  digits.foldl (fun n c => 10 * n + digitValue c) 0

/-- A nonempty list of decimal digits. -/
def natural? (text : List Char) : Option Nat :=
  if !text.isEmpty && text.all isDigit then some (ofDigits text) else none

/-- A character inside double quotes. Marks that extend the preceding character and everything
unprintable are written by code point. -/
def quotedChar (c : Char) : String :=
  match c with
  | '\x00' => "\\0"
  | '\t' => "\\t"
  | '\r' => "\\r"
  | '\n' => "\\n"
  | '"' => "\\\""
  | '\\' => "\\\\"
  | _ =>
    if c.toNat < 0x20 || c.toNat == 0x7f || CharRanges.contains CharRanges.unprintable c then
      "\\u\x7b" ++ hex c.toNat ++ "\x7d"
    else c.toString

def quoted (text : String) : String :=
  "\"" ++ String.join (text.toList.map quotedChar) ++ "\""

/-- Columns a text takes on a terminal. -/
def columns (text : String) : Nat :=
  text.toList.foldl (fun n c =>
    if CharRanges.contains CharRanges.zeroWidth c then n
    else if CharRanges.contains CharRanges.wide c then n + 2
    else if c.toNat < 0x20 || c.toNat == 0x7f then n
    else n + 1) 0

/-- Numbers in square brackets, separated by a comma and a space. -/
def bracketed (numbers : List Nat) : String :=
  "[" ++ ", ".intercalate (numbers.map toString) ++ "]"

/-- Split at every occurrence of a character; the pieces keep everything else. -/
def splitOnChar (separator : Char) : List Char → List (List Char)
  | [] => [[]]
  | c :: rest =>
      if c = separator then [] :: splitOnChar separator rest
      else match splitOnChar separator rest with
        | [] => [[c]]
        | piece :: pieces => (c :: piece) :: pieces

def lowercase (text : String) : String := String.ofList (text.toList.map Char.toLower)

end TensorBench.Text
