import TensorBench.Number.Binary32
import TensorBench.Words

/-!
The magnitudes of the eight bit code. Code zero is zero and code `i` is the number nearest to
`2 ^ ((i - 127) / 8)`: eight steps double the magnitude, and code 127 is one.
-/
namespace TensorBench.Weights.CodeTable

/-- The bits of a root, found from the highest one down: a bit is kept as long as the eighth power
of the candidate does not pass `bound`. -/
def eighthRoot (bound : Nat) : Nat → Nat → Nat
  | 0, root => root
  | bit + 1, root =>
      let candidate := root + Words.patterns bit
      eighthRoot bound bit (if Nat.pow candidate 8 ≤ bound then candidate else root)

/-- The 24-bit significand nearest to `2 ^ 23 * 2 ^ (step / 8)`. The root is taken of twice the
value, so that its last bit tells which way to round. -/
def significand (step : Nat) : Nat :=
  (eighthRoot (Words.patterns (8 * 24 + step)) 26 0 + 1) / 2

/-- The bit pattern of a code's magnitude. -/
def pattern (code : Nat) : UInt32 :=
  if code = 0 then 0
  else
    let steps := code + 1
    let octave := steps / 8
    let exponent := 127 - 16 + octave
    let one := Words.patterns 23
    UInt32.ofNat (exponent * one + (significand (steps % 8) - one))

/-- The patterns of all codes. -/
def patterns : Array UInt32 := (Array.range 128).map pattern

/-- The magnitude of a code. -/
def magnitude {α : Type} [Scalar α] (code : Nat) : α :=
  match patterns[code]? with
  | some bits => Scalar.ofBits bits
  | none => Scalar.zero

end TensorBench.Weights.CodeTable
