import TensorBench.Expression.Basic
import TensorBench.NameTable
import TensorBench.Words

/-!
The value of an expression. Every intermediate value has to fit a signed word, quotients round to
the floor and remainders take the sign of the divisor.
-/
namespace TensorBench

/-- Values bound to names. -/
abbrev Bindings := NameTable Int

namespace Expr

inductive EvalFault where
  | unbound (name : String)
  | overflow
  | divisionByZero
deriving DecidableEq

def checked (value : Int) : Except EvalFault Int :=
  match Words.signed? value with
  | some value => .ok value
  | none => .error .overflow

/-- The floor of a quotient, from the quotient rounded toward zero. -/
def floorQuotient (a b : Int) : Int :=
  let quotient := a.tdiv b
  if a.tmod b ≠ 0 ∧ (decide (a < 0) ≠ decide (b < 0)) then quotient - 1 else quotient

/-- The remainder of the sign of the divisor, from the one of the sign of the dividend. -/
def floorRemainder (a b : Int) : Int :=
  let remainder := a.tmod b
  if remainder ≠ 0 ∧ (decide (remainder < 0) ≠ decide (b < 0)) then remainder + b else remainder

/-- One operation on words. The quotient of the least word by minus one leaves the range, and the
remainder of that division is refused with it. -/
def apply (op : BinaryOp) (a b : Int) : Except EvalFault Int :=
  match op with
  | .add => checked (a + b)
  | .sub => checked (a - b)
  | .mul => checked (a * b)
  | .div =>
      if b = 0 then .error .divisionByZero
      else match checked (a.tdiv b) with
        | .error fault => .error fault
        | .ok _ => .ok (floorQuotient a b)
  | .rem =>
      if b = 0 then .error .divisionByZero
      else match checked (a.tdiv b) with
        | .error fault => .error fault
        | .ok _ => .ok (floorRemainder a b)

def eval (bindings : Bindings) : Expr → Except EvalFault Int
  | int value => .ok value
  | name text =>
      match bindings.get? text with
      | some value => .ok value
      | none => .error (.unbound text)
  | neg operand =>
      match operand.eval bindings with
      | .error fault => .error fault
      | .ok value => checked (-value)
  | binary op left right =>
      match left.eval bindings with
      | .error fault => .error fault
      | .ok a =>
          match right.eval bindings with
          | .error fault => .error fault
          | .ok b => apply op a b

end Expr

end TensorBench
