import Mathlib.Data.Nat.Digits.Defs
import TensorBench.Placeholder
import TensorBench.Proofs.Expression.Spelling

/-!
Numerals in expressions. The digits of a number within the signed range are a lexeme of its token.
-/
namespace TensorBench

namespace Text

theorem isDigit_of_mem_toDigits {n : Nat} {c : Char} (hmem : c ∈ Nat.toDigits 10 n) :
    isDigit c = true := by
  have hdigit := Nat.isDigit_of_mem_toDigits (by decide) (by decide) hmem
  simpa [isDigit, Char.isDigit, Char.le_def] using hdigit

/-- The decimal digits of a number write that number. -/
theorem ofDigits_toDigits (n : Nat) : ofDigits (Nat.toDigits 10 n) = n := by
  have hvalue := Nat.ofDigitChars_ten_toDigits (n := n)
  rwa [Nat.ofDigitChars_eq_foldl] at hvalue

end Text

namespace Token

theorem lexeme_toDigits (n : Nat) (hfits : (n : Int) ≤ Words.maxSigned) :
    Lexeme (int n) (Nat.toDigits 10 n) := by
  have hvalue := Text.ofDigits_toDigits n
  have hlexeme := Lexeme.int (Nat.toDigits_ne_nil (n := n) (b := 10))
    (fun _ hmem => Text.isDigit_of_mem_toDigits hmem) (by rwa [hvalue])
  rwa [hvalue] at hlexeme

/-- A name, a sign and a number, with blanks between them. -/
theorem scan_product (n : Nat) (hfits : (n : Int) ≤ Words.maxSigned) :
    scan s!"N * {n}" = .ok [ident "N", star, int n] := by
  have hcharacters : (s!"N * {n}").toList = 'N' :: ' ' :: '*' :: ' ' :: Nat.toDigits 10 n := by
    rw [String.toList_append, Nat.toString_eq_ofList_toDigits, String.toList_ofList]
    rfl
  have hname : Lexeme (ident "N") ['N'] := .ident (by decide)
  have hsign : Lexeme star ['*'] := .symbol rfl
  rw [scan_eq_ok_iff, hcharacters]
  refine .token hname (fun _ hnext => ?_)
    (.blank rfl (.token hsign (fun _ _ => rfl) (.blank rfl ?_)))
  · cases hnext
    rfl
  · exact (lexeme_toDigits n hfits).spells

end Token

/-- The product of a name and a number, read from its text. -/
theorem Placeholder.parse_product (n : Nat) (hfits : (n : Int) ≤ Words.maxSigned) :
    parse s!"N * {n}" = .ok ⟨s!"N * {n}", .binary .mul (.name "N") (.int n)⟩ := by
  rw [parse, Token.scan_product n hfits]
  rfl

end TensorBench
