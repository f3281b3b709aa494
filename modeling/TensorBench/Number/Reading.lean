import TensorBench.Number.Binary64
import TensorBench.Text.Chars

/-!
Decimal numerals in double precision, in two ways: rounded to the nearest number, or quickly, by
scaling a word of leading digits with a power of ten.
-/
namespace TensorBench.Number.Reading

/-- `digits * 10 ^ exponent` rounded to the nearest number; nothing when it is too large. Exponents
far outside the range of the format are settled without forming the power. -/
def ofDecimal? (negative : Bool) (digits : Nat) (exponent : Int) : Option Binary64 :=
  let signed (x : Binary64) : Binary64 := if negative then ⟨x.bits ||| 0x8000000000000000⟩ else x
  let size : Int := (toString digits).length + exponent
  if digits = 0 || size < -400 then some (signed Binary64.zero)
  else if size > 400 then none
  else
    let value := Binary64.ofNative <|
      if exponent < 0 then Float.ofScientific digits true (-exponent).toNat
      else Float.ofScientific digits false exponent.toNat
    if value.isFinite then some (signed value) else none

/-- Take in digits behind a number as long as it stays a word, and give those that are left. -/
def fill (value : Nat) : List Char → Nat × List Char
  | [] => (value, [])
  | c :: rest =>
      let next := 10 * value + Text.digitValue c
      if next < Words.limit then fill next rest else (value, c :: rest)

/-- The number nearest to a power of ten. -/
def powerOfTen (exponent : Nat) : Binary64 := .ofNative (Float.ofScientific 1 false exponent)

/-- The exponent of the largest power of ten in range. -/
def largestPower : Nat := 308

/-- Divide by a power of ten, one in range at a time. No word is left after the given steps. -/
def shrink (x : Binary64) (exponent : Nat) : Nat → Binary64
  | 0 => .zero
  | steps + 1 =>
      if exponent ≤ largestPower then x.div (powerOfTen exponent)
      else shrink (x.div (powerOfTen largestPower)) (exponent - largestPower) steps

/-- Multiply by a power of ten; nothing if the result is too large. -/
def grow? (x : Binary64) (exponent : Nat) : Option Binary64 :=
  if x = .zero then some x
  else if largestPower < exponent then none
  else
    let result := x.mul (powerOfTen exponent)
    if result.isFinite then some result else none

/-- The number that digits before and after a point write, times a power of ten. As many digits as
fit are read as a word, which is rounded and then scaled with one more rounding. Digits before the
point that do not fit raise the exponent, those after it are dropped. -/
def byScaling? (negative : Bool) (whole fraction : List Char) (exponent : Int) : Option Binary64 :=
  let (word, skipped) := fill 0 whole
  let (word, dropped) := fill word fraction
  let exponent := exponent + skipped.length - (fraction.length - dropped.length : Nat)
  let magnitude :=
    if exponent < 0 then some (shrink (.ofNat word) (-exponent).toNat 3)
    else grow? (.ofNat word) exponent.toNat
  magnitude.map fun x => if negative then ⟨x.bits ||| 0x8000000000000000⟩ else x

end TensorBench.Number.Reading
