import TensorBench.Text.Chars
import TensorBench.Words

/-!
The tokens of an expression. The scanner reads one character at a time; its mode holds the token
that the characters so far may still be extending.
-/
namespace TensorBench

inductive Token where
  | int (value : Nat)
  | ident (text : String)
  | str (text : String)
  | plus
  | minus
  | star
  | slash
  | percent
  | lparen
  | rparen
  | lbracket
  | rbracket
deriving DecidableEq, Inhabited

namespace Token

inductive Fault where
  | literalOutOfRange (literal : String)
  | unterminated
  | unexpected (c : Char)
deriving DecidableEq

def Fault.message : Fault → String
  | literalOutOfRange literal => s!"integer literal '{literal}' out of range"
  | unterminated => "unterminated string"
  | unexpected c => s!"unexpected character '{c}'"

/-- What the scanner is in the middle of. The characters of an open token are held in reverse. -/
inductive Mode where
  | between
  | number (reversed : List Char)
  | word (reversed : List Char)
  | text (quote : Char) (reversed : List Char)
  | afterSlash
deriving DecidableEq

def isWordStart (c : Char) : Bool := Text.isLetter c || c == '_'

def isWordChar (c : Char) : Bool := isWordStart c || Text.isDigit c

/-- The token of a complete run of digits. -/
def ofNumeral (reversed : List Char) : Except Fault Token :=
  let digits := reversed.reverse
  let value := Text.ofDigits digits
  if (value : Int) ≤ Words.maxSigned then .ok (int value)
  else .error (.literalOutOfRange (String.ofList digits))

/-- Tokens of one character. The slash stands for itself and for its double. -/
def symbol? : Char → Option Token
  | '+' => some plus
  | '-' => some minus
  | '*' => some star
  | '/' => some slash
  | '%' => some percent
  | '(' => some lparen
  | ')' => some rparen
  | '[' => some lbracket
  | ']' => some rbracket
  | _ => none

/-- A character that no open token takes in: the token it completes, if any, and the new mode. -/
def start (c : Char) : Except Fault (List Token × Mode) :=
  if Text.isBlank c then .ok ([], .between)
  else if Text.isDigit c then .ok ([], .number [c])
  else if isWordStart c then .ok ([], .word [c])
  else if c == '\'' || c == '"' then .ok ([], .text c [])
  else match symbol? c with
    | some token => .ok ([token], if c == '/' then .afterSlash else .between)
    | none => .error (.unexpected c)

/-- The token that ends where the scanner stands. -/
def finish : Mode → Except Fault (List Token)
  | .between => .ok []
  | .afterSlash => .ok []
  | .number reversed => (ofNumeral reversed).map ([·])
  | .word reversed => .ok [ident (String.ofList reversed.reverse)]
  | .text _ _ => .error .unterminated

/-- Close the open token and let the character start anew. -/
def restart (mode : Mode) (c : Char) : Except Fault (List Token × Mode) :=
  match finish mode with
  | .error fault => .error fault
  | .ok closed =>
      match start c with
      | .error fault => .error fault
      | .ok (tokens, next) => .ok (closed ++ tokens, next)

def step (mode : Mode) (c : Char) : Except Fault (List Token × Mode) :=
  match mode with
  | .number reversed =>
      if Text.isDigit c then .ok ([], .number (c :: reversed)) else restart mode c
  | .word reversed =>
      if isWordChar c then .ok ([], .word (c :: reversed)) else restart mode c
  | .text quote reversed =>
      if c = quote then .ok ([str (String.ofList reversed.reverse)], .between)
      else .ok ([], .text quote (c :: reversed))
  | .afterSlash => if c == '/' then .ok ([], .between) else restart mode c
  | .between => start c

def scanFrom (mode : Mode) : List Char → Except Fault (List Token)
  | [] => finish mode
  | c :: rest =>
      match step mode c with
      | .error fault => .error fault
      | .ok (tokens, next) =>
          match scanFrom next rest with
          | .error fault => .error fault
          | .ok later => .ok (tokens ++ later)

def scan (source : String) : Except Fault (List Token) := scanFrom .between source.toList

end Token

end TensorBench
