import TensorBench.Layout.Check
import TensorBench.Number.Binary32

/-!
The raw weight encoding: the bit patterns of the static elements one after the other, each with its
least significant byte first.
-/
namespace TensorBench

abbrev Bytes := List UInt8

namespace Weights

/-- A buffer of zeros for a layout whose extents are all known and consistent. -/
def allocate {α : Type} [Scalar α] (layout : Layout) : Except Stop (Array α) := do
  layout.ensureResolved
  layout.validate
  let total ← layout.totalSize
  reserve total
  return Array.replicate (total / Words.elementSize) Scalar.zero

/-- Write values from a position on; what would pass the end of the buffer is dropped. -/
def writeFrom {α : Type} (buffer : Array α) (start : Nat) : List α → Array α
  | [] => buffer
  | value :: rest => writeFrom (buffer.setIfInBounds start value) (start + 1) rest

namespace Raw

/-- The patterns of consecutive groups of four bytes, an incomplete group at the end left out;
`reversed` holds those read so far. -/
def patternsFrom (reversed : List UInt32) : Bytes → List UInt32
  | b0 :: b1 :: b2 :: b3 :: rest => patternsFrom (wordOfBytes b0 b1 b2 b3 :: reversed) rest
  | _ => reversed.reverse

def patterns (bytes : Bytes) : List UInt32 := patternsFrom [] bytes

def decode {α : Type} [Scalar α] (bytes : Bytes) (layout : Layout) :
    Except Stop (Array α) := do
  let buffer ← allocate layout
  if bytes.length ≠ layout.fixed.size then
    throw (.failed (.weightSizeMismatch layout.fixed.size bytes.length))
  return writeFrom buffer 0 ((patterns bytes).map Scalar.ofBits)

def encode (values : List Binary32) : Bytes := values.flatMap Binary32.toBytes

end Raw

end Weights

end TensorBench
