import TensorBench.Number.Exact

/-!
The shortest decimal text of a binary number. Of all decimals that round back to the number the one
with the fewest digits is taken, and of those the nearest.
-/
namespace TensorBench.Number.Shortest

/-- A positive decimal `digits * 10 ^ exponent`. -/
structure Decimal where
  digits : Nat
  exponent : Int

/-- `num / den` divided by `10 ^ exponent`, as numerator and denominator. -/
def scaleDown (num den : Nat) (exponent : Int) : Nat × Nat :=
  if 0 ≤ exponent then (num, den * Nat.pow 10 exponent.toNat)
  else (num * Nat.pow 10 (-exponent).toNat, den)

/-- The least exponent, counting down from zero, whose power of ten is at most `num / den`. -/
def exponentBelowOne (num den : Nat) : Nat → Int
  | 0 => 0
  | steps + 1 => if den ≤ num then 0 else exponentBelowOne (num * 10) den steps - 1

/-- The exponent of the leading decimal digit of a positive fraction. -/
def leadingExponent (num den : Nat) : Int :=
  if den ≤ num then ((toString (num / den)).length - 1 : Nat)
  else exponentBelowOne num den 400

/-- Whether `candidate * 10 ^ exponent` rounds to the number, given four times its significand. -/
def roundsBack (x : ExactBinary) (candidate : Nat) (exponent : Int) : Bool :=
  let below := 4 * x.significand - (if x.narrowBelow then 1 else 2)
  let above := 4 * x.significand + 2
  let lower := ({ x with significand := below }).fraction 1
  let upper := ({ x with significand := above }).fraction 1
  let (lowNum, lowDen) := scaleDown lower.1 (lower.2 * 4) exponent
  let (highNum, highDen) := scaleDown upper.1 (upper.2 * 4) exponent
  if x.significand % 2 = 0 then lowNum ≤ candidate * lowDen && candidate * highDen ≤ highNum
  else lowNum < candidate * lowDen && candidate * highDen < highNum

/-- Try the two neighbours of the value on the decimal grid of each length in turn. -/
def search (x : ExactBinary) (num den : Nat) (lead : Int) (length : Nat) : Nat → Decimal
  | 0 => ⟨num / den, 0⟩
  | steps + 1 =>
      let exponent := lead - length + 1
      let (n, d) := scaleDown num den exponent
      let low := n / d
      let nearLow := 2 * (n % d) ≤ d
      let lowFits := roundsBack x low exponent && low > 0
      let highFits := roundsBack x (low + 1) exponent
      if lowFits && (nearLow || !highFits) then ⟨low, exponent⟩
      else if highFits then ⟨low + 1, exponent⟩
      else search x num den lead (length + 1) steps

def stripZeros (d : Decimal) : Nat → Decimal
  | 0 => d
  | steps + 1 =>
      if d.digits % 10 = 0 && d.digits > 0 then stripZeros ⟨d.digits / 10, d.exponent + 1⟩ steps
      else d

/-- The shortest decimal of a positive finite number. -/
def ofExact (x : ExactBinary) : Decimal :=
  let (num, den) := x.fraction 1
  stripZeros (search x num den (leadingExponent num den) 1 17) 20

/-- Where positional notation ends. The point stands right of at most `integerPlaces` digits and
left of at most `leadingZeros` zeros; every other number is written with an exponent. -/
structure Positional where
  integerPlaces : Int
  leadingZeros : Int

def doubleRange : Positional := ⟨16, 5⟩

def singleRange : Positional := ⟨13, 6⟩

def zeros (n : Nat) : String := String.ofList (List.replicate n '0')

/-- Write a decimal; a number without fraction keeps `.0` in positional notation. -/
def render (style : Positional) (d : Decimal) : String :=
  let text := toString d.digits
  let point : Int := text.length + d.exponent
  if 0 ≤ d.exponent && point ≤ style.integerPlaces then
    text ++ zeros d.exponent.toNat ++ ".0"
  else if 0 < point && point ≤ style.integerPlaces then
    (text.take point.toNat).toString ++ "." ++ (text.drop point.toNat).toString
  else if -style.leadingZeros < point && point ≤ 0 then
    "0." ++ zeros (-point).toNat ++ text
  else
    let fraction := if text.length = 1 then "" else "." ++ (text.drop 1).toString
    (text.take 1).toString ++ fraction ++ "e" ++ toString (point - 1)

def renderExact (style : Positional) (x : ExactBinary) : String :=
  let sign := if x.negative then "-" else ""
  if x.significand = 0 then sign ++ "0.0" else sign ++ render style (ofExact x)

/-- The text of a finite double precision number. -/
def double (x : Binary64) : String := renderExact doubleRange (.ofBinary64 x)

/-- The text of a finite single precision number. -/
def single (x : Binary32) : String := renderExact singleRange (.ofBinary32 x)

end TensorBench.Number.Shortest
