/-!
Machine words. Sizes and offsets are natural numbers below `2 ^ 64`, expression values are integers
of the signed 64-bit range. The checked operations answer nothing when a result leaves its range;
sizes that are computed without a check wrap around.
-/
namespace TensorBench.Words

/-- How many bit patterns of a width there are. -/
def patterns (width : Nat) : Nat := Nat.pow 2 width

/-- One more than the largest size, which is `patterns 64`. -/
def limit : Nat := 18446744073709551616

/-- What a word keeps of a size that was computed without a check. -/
def wrap (n : Nat) : Nat := n % limit

/-- The most bytes that a buffer can have, which is the largest signed word. -/
def maxBuffer : Nat := 9223372036854775807

def add? (a b : Nat) : Option Nat :=
  if a + b < limit then some (a + b) else none

def mul? (a b : Nat) : Option Nat :=
  if a * b < limit then some (a * b) else none

/-- The product of all factors, taken from left to right with a check after each one. -/
def product? (factors : List Nat) : Option Nat :=
  factors.foldlM mul? 1

/-- How many elements a shape has: the product of its dimensions. -/
def product (factors : List Nat) : Nat := factors.foldr (· * ·) 1

def minSigned : Int := -9223372036854775808

def maxSigned : Int := 9223372036854775807

def signed? (value : Int) : Option Int :=
  if minSigned ≤ value ∧ value ≤ maxSigned then some value else none

/-- The width in bytes of one tensor element. -/
def elementSize : Nat := 4

end TensorBench.Words
