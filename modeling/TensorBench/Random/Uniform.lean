import TensorBench.Number.Scalar
import TensorBench.Random.KeyStream

/-!
Random elements of a half-open interval. The topmost 23 bits of a word become the fraction of a
number between one and two, which is shifted down and scaled; a result that rounding has pushed to
the upper end is drawn again.
-/
namespace TensorBench.Random

variable {α : Type} [Scalar α]

/-- The number between zero and one that a word stands for. -/
def fraction (word : UInt32) : α :=
  Scalar.sub (Scalar.ofBits ((0x3f800000 : UInt32) ||| (word >>> 9))) Scalar.one

/-- More draws than a result can take. -/
def maxDraws : Nat := 1000

/-- Draw until the result lies below the upper end. -/
def drawBetween (low high : α) : Nat → KeyStream → α × KeyStream
  | 0, stream => (low, stream)
  | draws + 1, stream =>
      let (word, stream) := stream.next
      let value := Scalar.add (Scalar.mul (fraction word) (Scalar.sub high low)) low
      if Scalar.less value high then (value, stream) else drawBetween low high draws stream

/-- An element between `-bound` and `bound`. -/
def drawSymmetric (bound : α) (stream : KeyStream) : α × KeyStream :=
  drawBetween (Scalar.neg bound) bound maxDraws stream

/-- Several elements, in the order in which they are drawn, behind those already drawn. -/
def drawOnto (drawn : Array α) (bound : α) : Nat → KeyStream → Array α × KeyStream
  | 0, stream => (drawn, stream)
  | count + 1, stream =>
      let (value, stream) := drawSymmetric bound stream
      drawOnto (drawn.push value) bound count stream

end TensorBench.Random
