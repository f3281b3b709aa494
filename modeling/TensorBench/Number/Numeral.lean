import TensorBench.Text.Chars
import TensorBench.Words

/-!
Machine words written as decimal numerals, with the reason why any other text is none.
-/
namespace TensorBench.Number.Numeral

inductive Fault where
  | empty
  | strayCharacter
  | tooLarge
deriving DecidableEq

def Fault.message : Fault → String
  | empty => "cannot parse integer from empty string"
  | strayCharacter => "invalid digit found in string"
  | tooLarge => "number too large to fit in target type"

/-- The digits still to be read, behind the ones that write `value`. The first fault from the left
is the one reported. -/
def readFrom (value : Nat) : List Char → Except Fault Nat
  | [] => .ok value
  | c :: rest =>
      if Text.isDigit c then
        let next := 10 * value + Text.digitValue c
        if next < Words.limit then readFrom next rest else .error .tooLarge
      else .error .strayCharacter

/-- A numeral, perhaps with a plus sign. -/
def word (text : String) : Except Fault Nat :=
  match text.toList with
  | [] => .error .empty
  | ['+'] => .error .strayCharacter
  | '+' :: digits => readFrom 0 digits
  | digits => readFrom 0 digits

end TensorBench.Number.Numeral
