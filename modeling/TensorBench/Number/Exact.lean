import TensorBench.Number.Binary64
import TensorBench.Words

/-!
Finite binary numbers as exact fractions: a significand times a power of two.
-/
namespace TensorBench

/-- The magnitude `significand * 2 ^ exponent` and its sign. `narrowBelow` marks a significand at
the lower end of its binade, below which the next number is only half as far away as above. -/
structure ExactBinary where
  negative : Bool
  significand : Nat
  exponent : Int
  narrowBelow : Bool

namespace ExactBinary

/-- Decode a pattern with the given widths of the fraction and exponent fields. -/
def ofFields (fractionWidth exponentWidth bits : Nat) : ExactBinary :=
  let fraction := bits % Words.patterns fractionWidth
  let field := bits / Words.patterns fractionWidth % Words.patterns exponentWidth
  let bias : Int := Words.patterns (exponentWidth - 1) - 1 + fractionWidth
  let negative := bits / Words.patterns (fractionWidth + exponentWidth) % 2 == 1
  if field = 0 then ⟨negative, fraction, 1 - bias, false⟩
  else ⟨negative, Words.patterns fractionWidth + fraction, field - bias, fraction == 0 && field > 1⟩

def ofBinary64 (x : Binary64) : ExactBinary := ofFields 52 11 x.bits.toNat

def ofBinary32 (x : Binary32) : ExactBinary := ofFields 23 8 x.bits.toNat

/-- Numerator and denominator of the magnitude times `scale`. -/
def fraction (x : ExactBinary) (scale : Nat) : Nat × Nat :=
  if 0 ≤ x.exponent then (x.significand * scale * Words.patterns x.exponent.toNat, 1)
  else (x.significand * scale, Words.patterns (-x.exponent).toNat)

end ExactBinary

/-- The quotient rounded to the nearest natural number, a half going to the even neighbour. -/
def roundHalfEven (num den : Nat) : Nat :=
  let floor := num / den
  let twice := 2 * (num % den)
  if twice < den then floor
  else if den < twice then floor + 1
  else if floor % 2 = 0 then floor else floor + 1

end TensorBench
