import TensorBench.Json.Basic
import TensorBench.Number.Reading
import TensorBench.Text.Chars
import TensorBench.Words

/-!
JSON text. The reader accepts exactly one value surrounded by blanks; it follows the grammar of the
format strictly and nests at most 127 containers.
-/
namespace TensorBench.Json

open TensorBench.Text

def isBlank (c : Char) : Bool := c == ' ' || c == '\t' || c == '\n' || c == '\r'

def skipBlanks (text : List Char) : List Char := text.dropWhile isBlank

/-- The unit written by four hexadecimal digits. -/
def unit? (a b c d : Char) : Option Nat :=
  match hexValue? a, hexValue? b, hexValue? c, hexValue? d with
  | some a, some b, some c, some d => some (((a * 16 + b) * 16 + c) * 16 + d)
  | _, _, _, _ => none

def isHighHalf (unit : Nat) : Bool := 0xd800 ≤ unit && unit < 0xdc00

def isLowHalf (unit : Nat) : Bool := 0xdc00 ≤ unit && unit < 0xe000

def simpleEscape? : Char → Option Char
  | '"' => some '"'
  | '\\' => some '\\'
  | '/' => some '/'
  | 'b' => some '\x08'
  | 'f' => some '\x0c'
  | 'n' => some '\n'
  | 'r' => some '\r'
  | 't' => some '\t'
  | _ => none

/-- The rest of a string after its opening quote. `reversed` holds what has been read and `high` an
escaped upper half of a surrogate pair, which only an escaped lower half may follow. -/
def readStringFrom (reversed : List Char) (high : Option Nat) :
    List Char → Option (String × List Char)
  | [] => none
  | '"' :: rest => if high.isSome then none else some (String.ofList reversed.reverse, rest)
  | '\\' :: 'u' :: a :: b :: c :: d :: rest =>
      match unit? a b c d, high with
      | none, _ => none
      | some unit, none =>
          if isHighHalf unit then readStringFrom reversed (some unit) rest
          else if isLowHalf unit then none
          else readStringFrom (Char.ofNat unit :: reversed) none rest
      | some unit, some upper =>
          if isLowHalf unit then
            let code := 0x10000 + (upper - 0xd800) * 0x400 + (unit - 0xdc00)
            readStringFrom (Char.ofNat code :: reversed) none rest
          else none
  | '\\' :: c :: rest =>
      match simpleEscape? c with
      | some c => if high.isSome then none else readStringFrom (c :: reversed) none rest
      | none => none
  | c :: rest =>
      if c.toNat < 0x20 || c == '\\' || high.isSome then none
      else readStringFrom (c :: reversed) none rest

def readString? (text : List Char) : Option (String × List Char) :=
  readStringFrom [] none text

/-- The digits after a decimal point, at least one of them; none without a point. -/
def readFraction? : List Char → Option (List Char × List Char)
  | '.' :: rest =>
      let digits := rest.takeWhile isDigit
      if digits.isEmpty then none else some (digits, rest.dropWhile isDigit)
  | text => some ([], text)

def readExponentDigits? (negative : Bool) (text : List Char) : Option (Int × List Char) :=
  let digits := text.takeWhile isDigit
  if digits.isEmpty then none
  else
    let value : Int := ofDigits digits
    some (if negative then -value else value, text.dropWhile isDigit)

/-- The exponent with its sign; the flag tells whether there is one. -/
def readExponent? : List Char → Option (Bool × Int × List Char)
  | c :: rest =>
      if c == 'e' || c == 'E' then
        let result := match rest with
          | '+' :: digits => readExponentDigits? false digits
          | '-' :: digits => readExponentDigits? true digits
          | digits => readExponentDigits? false digits
        result.map fun (value, rest) => (true, value, rest)
      else some (false, 0, c :: rest)
  | [] => some (false, 0, [])

/-- An integer numeral that fits a machine word, signed or not, is an integer; every other numeral
and minus zero are floating point numbers, read quickly rather than to the last bit. -/
def ofNumeral? (negative : Bool) (whole fraction : List Char) (hasPoint : Bool)
    (exponent : Int) : Option Json :=
  let value := ofDigits whole
  if !hasPoint && !negative && value < Words.limit then some (.int value)
  else if !hasPoint && negative && 0 < value && value ≤ Words.patterns 63 then some (.int (-value))
  else (Number.Reading.byScaling? negative whole fraction exponent).map .double

def readUnsigned? (negative : Bool) (text : List Char) : Option (Json × List Char) :=
  let whole := text.takeWhile isDigit
  let rest := text.dropWhile isDigit
  if whole.isEmpty || (whole.head? == some '0' && whole.length > 1) then none
  else match readFraction? rest with
    | none => none
    | some (fraction, afterFraction) =>
        match readExponent? afterFraction with
        | none => none
        | some (hasExponent, exponent, rest) =>
            let hasPoint := hasExponent || !fraction.isEmpty
            (ofNumeral? negative whole fraction hasPoint exponent).map fun value => (value, rest)

def readNumber? : List Char → Option (Json × List Char)
  | '-' :: rest => readUnsigned? true rest
  | text => readUnsigned? false text

/-- The text after an expected word. -/
def afterWord? : List Char → List Char → Option (List Char)
  | [], text => some text
  | w :: word, c :: text => if w = c then afterWord? word text else none
  | _ :: _, [] => none

mutual
/-- A value at the head of the text, inside at most `depth` further containers. -/
def readValue (depth : Nat) : Nat → List Char → Option (Json × List Char)
  | 0, _ => none
  | steps + 1, text =>
      match skipBlanks text with
      | 'n' :: rest => (afterWord? "ull".toList rest).map fun rest => (null, rest)
      | 't' :: rest => (afterWord? "rue".toList rest).map fun rest => (bool true, rest)
      | 'f' :: rest => (afterWord? "alse".toList rest).map fun rest => (bool false, rest)
      | '"' :: rest => (readString? rest).map fun (value, rest) => (str value, rest)
      | '[' :: rest =>
          if depth ≤ 1 then none
          else match skipBlanks rest with
            | ']' :: rest => some (arr [], rest)
            | rest => readItems (depth - 1) [] steps rest
      | '\x7b' :: rest =>
          if depth ≤ 1 then none
          else match skipBlanks rest with
            | '\x7d' :: rest => some (obj [], rest)
            | rest => readMembers (depth - 1) [] steps rest
      | rest => readNumber? rest

/-- The items of an array from the next item on. -/
def readItems (depth : Nat) (reversed : List Json) : Nat → List Char → Option (Json × List Char)
  | 0, _ => none
  | steps + 1, text =>
      match readValue depth steps text with
      | none => none
      | some (item, rest) =>
          match skipBlanks rest with
          | ',' :: rest => readItems depth (item :: reversed) steps rest
          | ']' :: rest => some (arr (item :: reversed).reverse, rest)
          | _ => none

/-- The members of an object from the next name on. -/
def readMembers (depth : Nat) (reversed : List (String × Json)) :
    Nat → List Char → Option (Json × List Char)
  | 0, _ => none
  | steps + 1, text =>
      match skipBlanks text with
      | '"' :: rest =>
          match readString? rest with
          | none => none
          | some (name, rest) =>
              match skipBlanks rest with
              | ':' :: rest =>
                  match readValue depth steps rest with
                  | none => none
                  | some (value, rest) =>
                      match skipBlanks rest with
                      | ',' :: rest => readMembers depth ((name, value) :: reversed) steps rest
                      | '\x7d' :: rest => some (obj ((name, value) :: reversed).reverse, rest)
                      | _ => none
              | _ => none
      | _ => none
end

/-- The value a text writes. Each call of the reader passes over at least one character or leads to
one that does, which bounds their number by twice the length. -/
def parse? (text : String) : Option Json :=
  let chars := text.toList
  match readValue 128 (2 * chars.length + 2) chars with
  | some (value, rest) => if (skipBlanks rest).isEmpty then some value else none
  | none => none

/-- The value written by bytes in UTF-8. -/
def parseBytes? (bytes : ByteArray) : Option Json :=
  match String.fromUTF8? bytes with
  | some text => parse? text
  | none => none

end TensorBench.Json
