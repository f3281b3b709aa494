import TensorBench.Placeholder
import TensorBench.Proofs.Expression.Grammar

/-!
Reading follows the grammar. A phrase that the grammar derives is read to its end wherever what
stands behind it cannot continue it, with fuel in proportion to its tokens. So the reader accepts
exactly the sentences of the grammar, each with its only tree.
-/
namespace TensorBench

namespace Expr

/-- Nothing at the head of the tokens continues a phrase of the kind. -/
def Closed : Phrase → List Token → Prop
  | .chain .sum, token :: _ => Level.sum.op? token = none ∧ Level.product.op? token = none
  | .chain .product, token :: _ => Level.product.op? token = none
  | _, _ => True

/-- How many phrases open at once before an operand is read. -/
def Phrase.depth : Phrase → Nat
  | .chain .sum => 4
  | .chain .product => 3
  | .signed => 2
  | .operand => 1

theorem Level.depth_part (level : Level) :
    level.part.depth + 1 = (Phrase.chain level).depth := by
  cases level <;> rfl

/-- Fuel that is enough to read a phrase. -/
def Enough (fuel : Nat) (phrase : Phrase) (tokens : List Token) : Prop :=
  5 * tokens.length + phrase.depth ≤ fuel + 5

/-- The tokens are read to their end wherever nothing behind them continues the phrase. -/
def ReadWhole (phrase : Phrase) (tokens : List Token) (expr : Expr) : Prop :=
  ∀ fuel rest, Enough fuel phrase tokens → Closed phrase rest →
    read fuel phrase (tokens ++ rest) = .ok (expr, rest)

theorem Closed.part {level : Level} {rest : List Token} (h : Closed (.chain level) rest) :
    Closed level.part rest := by
  cases level with
  | sum =>
    cases rest with
    | nil => exact h
    | cons token rest => exact h.2
  | product => trivial

theorem Closed.op?_eq_none {level : Level} {token : Token} {rest : List Token}
    (h : Closed (.chain level) (token :: rest)) : level.op? token = none := by
  cases level with
  | sum => exact h.1
  | product => exact h

/-- A sign of a level ends the part in front of it. -/
theorem closed_part_of_sign {level : Level} {sign : Token} {op : BinaryOp}
    (h : Sign level sign op) (rest : List Token) : Closed level.part (sign :: rest) := by
  cases h with
  | plus | minus => exact rfl
  | star | slash | percent => trivial

theorem closed_part_written {level : Level} {rounds : List Round} {rest : List Token}
    (hsigns : ∀ round ∈ rounds, Sign level round.sign round.op)
    (hrest : Closed (.chain level) rest) : Closed level.part (Round.written rounds ++ rest) := by
  cases rounds with
  | nil => exact hrest.part
  | cons round rounds => exact closed_part_of_sign (hsigns round List.mem_cons_self) _

theorem readRounds_eq_ok {level : Level} {rounds : List Round}
    (hsigns : ∀ round ∈ rounds, Sign level round.sign round.op)
    (hparts : ∀ round ∈ rounds, ReadWhole level.part round.tokens round.expr)
    (left : Expr) (fuel : Nat) (rest : List Token)
    (hfuel : 5 * (Round.written rounds).length < fuel) (hrest : Closed (.chain level) rest) :
    readRounds fuel level left (Round.written rounds ++ rest) =
      .ok (Round.grouped left rounds, rest) := by
  induction rounds generalizing left fuel with
  | nil =>
    obtain ⟨fuel, rfl⟩ : ∃ n, fuel = n + 1 := ⟨fuel - 1, by omega⟩
    cases rest with
    | nil => rfl
    | cons token rest =>
      have hnone := hrest.op?_eq_none
      simp [Round.written, Round.grouped, readRounds, hnone]
  | cons round rounds ih =>
    obtain ⟨hsign, hsigns⟩ := List.forall_mem_cons.mp hsigns
    obtain ⟨hpart, hparts⟩ := List.forall_mem_cons.mp hparts
    obtain ⟨fuel, rfl⟩ : ∃ n, fuel = n + 1 := ⟨fuel - 1, by omega⟩
    rw [Round.written_cons, List.length_cons, List.length_append] at hfuel
    have hop := (sign_iff _ _ _).mp hsign
    have hdepth : level.part.depth ≤ 3 := by cases level <;> decide
    have hread := hpart fuel (Round.written rounds ++ rest) (by unfold Enough; omega)
      (closed_part_written hsigns hrest)
    have hlater := ih hsigns hparts (binary round.op left round.expr) fuel (by omega)
    rw [Round.written_cons, List.cons_append, List.append_assoc]
    simp only [readRounds, hop, hread, hlater]
    rfl

theorem ReadWhole.chain {level : Level} {tokens : List Token} {first : Expr} {rounds : List Round}
    (hpos : 0 < tokens.length) (hfirst : ReadWhole level.part tokens first)
    (hsigns : ∀ round ∈ rounds, Sign level round.sign round.op)
    (hparts : ∀ round ∈ rounds, ReadWhole level.part round.tokens round.expr) :
    ReadWhole (.chain level) (tokens ++ Round.written rounds) (Round.grouped first rounds) := by
  intro fuel rest hfuel hrest
  unfold Enough at hfuel
  rw [List.length_append, ← level.depth_part] at hfuel
  obtain ⟨fuel, rfl⟩ : ∃ n, fuel = n + 1 := ⟨fuel - 1, by omega⟩
  have hread := hfirst fuel (Round.written rounds ++ rest) (by unfold Enough; omega)
    (closed_part_written hsigns hrest)
  have hpart : 1 ≤ level.part.depth := by cases level <;> decide
  have hrounds := readRounds_eq_ok hsigns hparts first fuel rest (by omega) hrest
  rw [List.append_assoc]
  simp only [read, hread, hrounds]

theorem ReadWhole.minus {tokens : List Token} {expr : Expr} (h : ReadWhole .signed tokens expr) :
    ReadWhole .signed (.minus :: tokens) (neg expr) := by
  intro fuel rest hfuel hrest
  simp only [Enough, List.length_cons, Phrase.depth] at hfuel
  obtain ⟨fuel, rfl⟩ : ∃ n, fuel = n + 1 := ⟨fuel - 1, by omega⟩
  have hread := h fuel rest (by simp only [Enough, Phrase.depth]; omega) trivial
  simp only [List.cons_append, read, hread]

/-- No operand starts with a sign. -/
theorem Derives.operand_ne_minus {tokens : List Token} {expr : Expr}
    (h : Derives .operand tokens expr) (rest later : List Token) :
    tokens ++ rest ≠ .minus :: later := by
  cases h <;> simp

theorem ReadWhole.unsigned {tokens : List Token} {expr : Expr}
    (hderives : Derives .operand tokens expr) (h : ReadWhole .operand tokens expr) :
    ReadWhole .signed tokens expr := by
  intro fuel rest hfuel hrest
  have hpos := hderives.length_pos
  simp only [Enough, Phrase.depth] at hfuel
  obtain ⟨fuel, rfl⟩ : ∃ n, fuel = n + 1 := ⟨fuel - 1, by omega⟩
  rw [read_signed_unsigned _ _ (hderives.operand_ne_minus rest)]
  exact h fuel rest (by simp only [Enough, Phrase.depth]; omega) trivial

theorem ReadWhole.parens {tokens : List Token} {expr : Expr}
    (h : ReadWhole (.chain .sum) tokens expr) :
    ReadWhole .operand (.lparen :: (tokens ++ [.rparen])) expr := by
  intro fuel rest hfuel hrest
  simp only [Enough, Phrase.depth, List.length_cons, List.length_append, List.length_nil] at hfuel
  obtain ⟨fuel, rfl⟩ : ∃ n, fuel = n + 1 := ⟨fuel - 1, by omega⟩
  have hread := h fuel (.rparen :: rest) (by simp only [Enough, Phrase.depth]; omega) ⟨rfl, rfl⟩
  rw [List.cons_append, List.append_assoc, List.singleton_append]
  simp only [read, hread]

theorem Derives.readWhole {phrase : Phrase} {tokens : List Token} {expr : Expr}
    (h : Derives phrase tokens expr) : ReadWhole phrase tokens expr := by
  induction h with
  | chain rounds hfirst hsigns _ ihfirst ihparts =>
    exact .chain hfirst.length_pos ihfirst hsigns ihparts
  | minus _ ih => exact .minus ih
  | unsigned h ih => exact .unsigned h ih
  | int value =>
    intro fuel rest hfuel _
    simp only [Enough, Phrase.depth, List.length_singleton] at hfuel
    obtain ⟨fuel, rfl⟩ : ∃ n, fuel = n + 1 := ⟨fuel - 1, by omega⟩
    rfl
  | name hname =>
    intro fuel rest hfuel _
    simp only [Enough, Phrase.depth, List.length_singleton] at hfuel
    obtain ⟨fuel, rfl⟩ : ∃ n, fuel = n + 1 := ⟨fuel - 1, by omega⟩
    simp [read, reservedWord, hname]
  | bracketed key =>
    intro fuel rest hfuel _
    simp only [Enough, Phrase.depth, List.length_cons] at hfuel
    obtain ⟨fuel, rfl⟩ : ∃ n, fuel = n + 1 := ⟨fuel - 1, by omega⟩
    simp [read, reservedWord, bracketedName]
  | parens _ ih => exact .parens ih

theorem ofTokens_eq_ok_iff (tokens : List Token) (expr : Expr) :
    ofTokens tokens = .ok expr ↔ Derives (.chain .sum) tokens expr := by
  constructor
  · intro h
    unfold ofTokens at h
    split at h
    · cases h
    · rename_i result hread
      cases h
      obtain ⟨front, hfront, hderives⟩ := (read_begins _).1 _ _ _ _ hread
      rwa [hfront, List.append_nil]
    · cases h
  · intro h
    have hread := h.readWhole (fuelFor tokens) [] (by
      simp only [Enough, fuelFor, Phrase.depth]
      omega) trivial
    rw [List.append_nil] at hread
    simp only [ofTokens, hread]

/-- Differences group to the left, and a sign binds tighter than a product. -/
example : ofTokens [.int 1, .minus, .int 2, .minus, .minus, .int 3, .star, .int 4] =
    .ok (binary .sub (binary .sub (int 1) (int 2)) (binary .mul (neg (int 3)) (int 4))) := by
  rfl

end Expr

namespace Placeholder

open TensorBench.Expr

/-- Of all token sequences exactly the sentences of the grammar are read, each as its only tree, and
the others are rejected as invalid expressions. -/
theorem ofTokens_follows_grammar (source : String) (tokens : List Token) :
    (∀ expr, ofTokens source tokens = .ok ⟨source, expr⟩ ↔
      Derives (.chain .sum) tokens expr) ∧
    (∀ expr other, Derives (.chain .sum) tokens expr → Derives (.chain .sum) tokens other →
      expr = other) ∧
    ((¬ ∃ expr, Derives (.chain .sum) tokens expr) ↔
      ∃ detail, ofTokens source tokens = .error (.invalidExpression source detail)) := by
  refine ⟨fun expr => ?_, fun expr other hexpr hother => ?_, ?_⟩
  · rw [← ofTokens_eq_ok_iff]
    unfold ofTokens
    cases Expr.ofTokens tokens <;> simp
  · have hread := (ofTokens_eq_ok_iff tokens expr).mpr hexpr
    cases hread.symm.trans ((ofTokens_eq_ok_iff tokens other).mpr hother)
    rfl
  · simp only [← ofTokens_eq_ok_iff]
    unfold ofTokens
    cases Expr.ofTokens tokens <;> simp

theorem parse_eq_ok_iff (source : String) (placeholder : Placeholder) :
    parse source = .ok placeholder ↔ placeholder.source = source ∧
      ∃ tokens, Token.scan source = .ok tokens ∧
        Derives (.chain .sum) tokens placeholder.expr := by
  obtain ⟨text, expr⟩ := placeholder
  unfold parse
  cases Token.scan source with
  | error fault => simp
  | ok tokens =>
    have hread := ofTokens_eq_ok_iff tokens expr
    unfold ofTokens
    cases htree : Expr.ofTokens tokens with
    | error rejection => simp [← hread, htree]
    | ok tree => simp [← hread, htree, eq_comm]

end Placeholder

end TensorBench
