/-!
Integer expressions over named values.
-/
namespace TensorBench

inductive BinaryOp where
  | add
  | sub
  | mul
  | div
  | rem
deriving DecidableEq, Inhabited

inductive Expr where
  | int (value : Int)
  | name (text : String)
  | neg (operand : Expr)
  | binary (op : BinaryOp) (left right : Expr)
deriving DecidableEq, Inhabited

namespace Expr

/-- The names of an expression from left to right, repetitions included. -/
def names : Expr → List String
  | int _ => []
  | name text => [text]
  | neg operand => operand.names
  | binary _ left right => left.names ++ right.names

end Expr

end TensorBench
