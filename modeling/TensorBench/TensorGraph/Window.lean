/-!
Strided windows over one axis with padding on both ends. Output `o` of a window looks with its tap
`t` at position `o * stride + t` of the padded input, that is at `o * stride + t - padding` of the
input itself if that lies inside.
-/
namespace TensorBench.Window

/-- The number of outputs of a window of the given size, if it fits at all. -/
def outputLength? (input size stride padding : Nat) : Option Nat :=
  if stride = 0 then none
  else if input + 2 * padding < size then none
  else some ((input + 2 * padding - size) / stride + 1)

/-- Consecutive outputs: `count` of them from `first` on, the first of which looks at `start`. -/
structure Run where
  first : Nat
  count : Nat
  start : Nat
deriving DecidableEq, Inhabited

/-- The outputs that see a position inside the input through one tap. -/
def run? (outputs inputs tap stride padding : Nat) : Option Run :=
  if inputs + padding ≤ tap then none
  else
    let first := if tap < padding then (padding - tap + stride - 1) / stride else 0
    let stop := min ((inputs + padding - tap - 1) / stride + 1) outputs
    if stop ≤ first then none
    else some ⟨first, stop - first, first * stride + tap - padding⟩

namespace Run

def covers (run : Run) (output : Nat) : Bool :=
  run.first ≤ output && output < run.first + run.count

/-- The input position that a covered output sees. -/
def source (run : Run) (stride output : Nat) : Nat :=
  run.start + (output - run.first) * stride

/-- The last input position seen. -/
def last (run : Run) (stride : Nat) : Nat := run.start + (run.count - 1) * stride

end Run

end TensorBench.Window
