import TensorBench.Expression.Basic
import TensorBench.Expression.Token

/-!
Reading an expression from tokens, by the grammar

    sum     := product (('+' | '-') product)*
    product := signed (('*' | '/' | '%') signed)*
    signed  := '-' signed | operand
    operand := INT | NAME | "placeholders" '[' STRING ']' | '(' sum ')'

The repetitions group to the left. The word `placeholders` is no name of its own.
-/
namespace TensorBench.Expr

/-- The word that introduces a name in brackets. -/
def reservedWord : String := "placeholders"

inductive SyntaxFault where
  | expected (token : Token)
  | expectedName
  | expectedOperand
  | trailing
deriving DecidableEq

/-- A fault and the tokens that were left when the offending one was looked at. -/
structure Rejection where
  fault : SyntaxFault
  left : List Token
deriving DecidableEq

/-- The reading of a phrase at the head of the tokens, and the tokens after it. -/
abbrev Reading := Except Rejection (Expr × List Token)

/-- The two levels of binary operations. -/
inductive Level where
  | sum
  | product
deriving DecidableEq

/-- The kinds of phrases; a chain is one or more parts with signs of a level between them. -/
inductive Phrase where
  | chain (level : Level)
  | signed
  | operand
deriving DecidableEq

namespace Level

/-- The operation that a sign of the level stands for. -/
def op? : Level → Token → Option BinaryOp
  | sum, .plus => some .add
  | sum, .minus => some .sub
  | product, .star => some .mul
  | product, .slash => some .div
  | product, .percent => some .rem
  | _, _ => none

/-- The parts of a sum are products, and those of a product are signed operands. -/
def part : Level → Phrase
  | sum => .chain product
  | product => .signed

end Level

/-- The rest of a name in brackets. -/
def bracketedName : List Token → Reading
  | .lbracket :: .str key :: .rbracket :: rest => .ok (name key, rest)
  | .lbracket :: .str _ :: rest => .error ⟨.expected .rbracket, rest⟩
  | .lbracket :: rest => .error ⟨.expectedName, rest⟩
  | rest => .error ⟨.expected .lbracket, rest⟩

mutual
/-- The phrase of a kind at the head of the tokens. -/
def read : Nat → Phrase → List Token → Reading
  | 0, _, tokens => .error ⟨.expectedOperand, tokens⟩
  | fuel + 1, .chain level, tokens =>
      match read fuel level.part tokens with
      | .error rejection => .error rejection
      | .ok (first, rest) => readRounds fuel level first rest
  | fuel + 1, .signed, .minus :: rest =>
      match read fuel .signed rest with
      | .error rejection => .error rejection
      | .ok (operand, rest) => .ok (neg operand, rest)
  | fuel + 1, .signed, tokens => read fuel .operand tokens
  | _ + 1, .operand, .int value :: rest => .ok (int value, rest)
  | _ + 1, .operand, .ident text :: rest =>
      if text = reservedWord then bracketedName rest else .ok (name text, rest)
  | fuel + 1, .operand, .lparen :: rest =>
      match read fuel (.chain .sum) rest with
      | .error rejection => .error rejection
      | .ok (inner, .rparen :: rest) => .ok (inner, rest)
      | .ok (_, rest) => .error ⟨.expected .rparen, rest⟩
  | _ + 1, .operand, tokens => .error ⟨.expectedOperand, tokens⟩

/-- Further parts of a chain of which `left` has been read. -/
def readRounds : Nat → Level → Expr → List Token → Reading
  | 0, _, _, tokens => .error ⟨.expectedOperand, tokens⟩
  | _ + 1, _, left, [] => .ok (left, [])
  | fuel + 1, level, left, token :: rest =>
      match level.op? token with
      | none => .ok (left, token :: rest)
      | some op =>
          match read fuel level.part rest with
          | .error rejection => .error rejection
          | .ok (right, rest) => readRounds fuel level (binary op left right) rest
end

/-- Steps enough for any reading: no more than five phrases open between two tokens. -/
def fuelFor (tokens : List Token) : Nat := 5 * tokens.length + 5

/-- The expression that all of the tokens write. -/
def ofTokens (tokens : List Token) : Except Rejection Expr :=
  match read (fuelFor tokens) (.chain .sum) tokens with
  | .error rejection => .error rejection
  | .ok (expr, []) => .ok expr
  | .ok (_, rest) => .error ⟨.trailing, rest⟩

def symbolName : Token → String
  | .lparen => "LParen"
  | .rparen => "RParen"
  | .lbracket => "LBracket"
  | .rbracket => "RBracket"
  | .plus => "Plus"
  | .minus => "Minus"
  | .star => "Star"
  | .slash => "Slash"
  | .percent => "Percent"
  | .int value => s!"Int({value})"
  | .ident text => "Ident(" ++ Text.quoted text ++ ")"
  | .str text => "Str(" ++ Text.quoted text ++ ")"

def SyntaxFault.message : SyntaxFault → String
  | expected token => "expected " ++ symbolName token
  | expectedName => "expected quoted placeholder name"
  | expectedOperand => "expected a number, name or '('"
  | trailing => "unexpected trailing input"

/-- The number of tokens read when the fault was noticed. A token that does not fit counts as read,
and so does the missing one at the end; tokens left over do not. -/
def Rejection.position (rejection : Rejection) (total : Nat) : Nat :=
  match rejection.fault with
  | .trailing => total - rejection.left.length
  | _ => total - rejection.left.length + 1

def Rejection.message (rejection : Rejection) (total : Nat) : String :=
  s!"{rejection.fault.message} at token {rejection.position total}"

end TensorBench.Expr
