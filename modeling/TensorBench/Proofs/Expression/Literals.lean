import TensorBench.Proofs.Expression.FloorDivision
import TensorBench.Proofs.Expression.Reading
import TensorBench.Proofs.Expression.Spelling

/-!
The numbers written in an expression. The scanner refuses numerals beyond the largest signed word, so
every number in the tree of a text that is read is a word.
-/
namespace TensorBench

namespace Token

/-- The numbers among the tokens are words. -/
def InRange (tokens : List Token) : Prop :=
  ∀ value, int value ∈ tokens → (value : Int) ≤ Words.maxSigned

/-- A numeral beyond the largest word is no lexeme. -/
theorem Spellable.inRange {tokens : List Token} (h : Spellable tokens) : InRange tokens := by
  intro value hmem
  obtain ⟨lexeme, hlexeme⟩ := h _ hmem
  exact hlexeme.fits_of_int

end Token

namespace Expr

open Words

/-- The numbers written in the expression are words. -/
def OfWords : Expr → Prop
  | int value => IsSigned value
  | name _ => True
  | neg operand => operand.OfWords
  | binary _ left right => left.OfWords ∧ right.OfWords

instance decidableOfWords : (expr : Expr) → Decidable expr.OfWords
  | int value => inferInstanceAs (Decidable (IsSigned value))
  | name _ => inferInstanceAs (Decidable True)
  | neg operand => decidableOfWords operand
  | binary _ left right => @instDecidableAnd _ _ (decidableOfWords left) (decidableOfWords right)

theorem ofWords_grouped {first : Expr} {rounds : List Round} (hfirst : first.OfWords)
    (hrounds : ∀ round ∈ rounds, round.expr.OfWords) : (Round.grouped first rounds).OfWords := by
  induction rounds generalizing first with
  | nil => exact hfirst
  | cons round rounds ih =>
    obtain ⟨hround, hrounds⟩ := List.forall_mem_cons.mp hrounds
    exact ih ⟨hfirst, hround⟩ hrounds

theorem Derives.ofWords {phrase : Phrase} {tokens : List Token} {expr : Expr}
    (h : Derives phrase tokens expr) (hrange : Token.InRange tokens) : expr.OfWords := by
  induction h with
  | chain rounds _ _ _ ihfirst ihparts =>
    refine ofWords_grouped (ihfirst fun value hmem => hrange value ?_) fun round hround =>
      ihparts round hround fun value hmem => hrange value ?_
    · exact List.mem_append_left _ hmem
    · refine List.mem_append_right _ (List.mem_flatMap.mpr ⟨round, hround, ?_⟩)
      exact List.mem_cons_of_mem _ hmem
  | minus _ ih => exact ih fun value hmem => hrange value (List.mem_cons_of_mem _ hmem)
  | unsigned _ ih => exact ih hrange
  | int value =>
    have hfits := hrange value List.mem_cons_self
    exact ⟨by unfold minSigned; omega, hfits⟩
  | name | bracketed => trivial
  | parens _ ih =>
    exact ih fun value hmem => hrange value
      (List.mem_cons_of_mem _ (List.mem_append_left _ hmem))

end Expr

/-- The numbers of every placeholder that is read from a text are words. -/
theorem Placeholder.ofWords_of_parse {source : String} {placeholder : Placeholder}
    (h : parse source = .ok placeholder) : placeholder.expr.OfWords := by
  obtain ⟨-, tokens, hscan, hderives⟩ := (parse_eq_ok_iff source placeholder).mp h
  exact hderives.ofWords ((Token.scan_eq_ok_iff source tokens).mp hscan).spellable.inRange

end TensorBench
