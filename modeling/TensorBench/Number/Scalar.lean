/-!
The scalar operations that tensor code is built from. Everything that computes with tensors takes
the operations from here and knows nothing else about the element type, so that its laws hold for
any choice of them; the element type of the program itself is the single precision format.
-/
namespace TensorBench

/-- Operations on tensor elements. `max` ignores an argument that is not a number, `less` and
`lessEq` are false when an argument is not a number. -/
class Scalar (α : Type) where
  zero : α
  negZero : α
  one : α
  negInf : α
  add : α → α → α
  sub : α → α → α
  mul : α → α → α
  div : α → α → α
  max : α → α → α
  neg : α → α
  abs : α → α
  sqrt : α → α
  exp : α → α
  tanh : α → α
  less : α → α → Bool
  ofNat : Nat → α
  ofBits : UInt32 → α

/-- Numbers that have a magnitude, which is what remains without the sign. -/
class Abs (α : Type) where
  abs : α → α

namespace Scalar

variable {α : Type} [Scalar α]

def sum (values : List α) : α := values.foldl add zero

/-- `1 / (1 + exp (-x))`, one rounding per operation. -/
@[inline] def sigmoid (x : α) : α := div one (add one (exp (neg x)))

@[inline] def relu (x : α) : α := max x zero

end Scalar

end TensorBench
