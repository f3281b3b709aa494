import TensorBench.Number.Exact

/-!
Numbers written with two decimal places.
-/
namespace TensorBench.Number.Fixed

def padTwo (n : Nat) : String :=
  if n < 10 then "0" ++ toString n else toString n

/-- The exact value rounded to hundredths, a half going to the even hundredth. The sign of a
negative number stays when the number rounds to zero. -/
def twoPlaces (x : Binary64) : String :=
  let sign := if x.isNegative then "-" else ""
  if x.isNaN then "NaN"
  else if !x.isFinite then sign ++ "inf"
  else
    let (num, den) := (ExactBinary.ofBinary64 x).fraction 100
    let hundredths := roundHalfEven num den
    sign ++ toString (hundredths / 100) ++ "." ++ padTwo (hundredths % 100)

end TensorBench.Number.Fixed
