import TensorBench.Expression.Parser

/-!
The grammar of expressions, as a relation between token sequences and trees:

    sum     := product (('+' | '-') product)*
    product := signed (('*' | '/' | '%') signed)*
    signed  := '-' signed | operand
    operand := INT | NAME | "placeholders" '[' STRING ']' | '(' sum ')'

The rounds of a repetition group to the left. What the reader returns is derived by the grammar from
the tokens it has taken.
-/
namespace TensorBench.Expr

/-- The signs of each level and the operations they stand for. -/
inductive Sign : Level → Token → BinaryOp → Prop
  | plus : Sign .sum .plus .add
  | minus : Sign .sum .minus .sub
  | star : Sign .product .star .mul
  | slash : Sign .product .slash .div
  | percent : Sign .product .percent .rem

/-- One round of a repetition: a sign, its operation, and the part after it. -/
structure Round where
  sign : Token
  op : BinaryOp
  tokens : List Token
  expr : Expr

namespace Round

/-- The tokens of consecutive rounds. -/
def written (rounds : List Round) : List Token :=
  rounds.flatMap fun round => round.sign :: round.tokens

/-- The tree of a chain, grouped to the left. -/
def grouped (first : Expr) (rounds : List Round) : Expr :=
  rounds.foldl (fun left round => binary round.op left round.expr) first

theorem written_cons (round : Round) (rounds : List Round) :
    written (round :: rounds) = round.sign :: (round.tokens ++ written rounds) := rfl

end Round

/-- The tokens form a phrase of the kind, and the expression is its tree. -/
inductive Derives : Phrase → List Token → Expr → Prop
  | chain {level : Level} {tokens : List Token} {first : Expr} (rounds : List Round)
      (hfirst : Derives level.part tokens first)
      (hsigns : ∀ round ∈ rounds, Sign level round.sign round.op)
      (hparts : ∀ round ∈ rounds, Derives level.part round.tokens round.expr) :
      Derives (.chain level) (tokens ++ Round.written rounds) (Round.grouped first rounds)
  | minus {tokens : List Token} {expr : Expr} (h : Derives .signed tokens expr) :
      Derives .signed (.minus :: tokens) (neg expr)
  | unsigned {tokens : List Token} {expr : Expr} (h : Derives .operand tokens expr) :
      Derives .signed tokens expr
  | int (value : Nat) : Derives .operand [.int value] (int value)
  | name {text : String} (h : text ≠ "placeholders") :
      Derives .operand [.ident text] (name text)
  | bracketed (key : String) :
      Derives .operand [.ident "placeholders", .lbracket, .str key, .rbracket] (name key)
  | parens {tokens : List Token} {expr : Expr} (h : Derives (.chain .sum) tokens expr) :
      Derives .operand (.lparen :: (tokens ++ [.rparen])) expr

theorem sign_iff (level : Level) (token : Token) (op : BinaryOp) :
    Sign level token op ↔ level.op? token = some op := by
  constructor
  · intro h
    cases h <;> rfl
  · intro h
    cases level <;> cases token <;> simp [Level.op?] at h <;> subst h <;> constructor

/-- No phrase is empty. -/
theorem Derives.length_pos {phrase : Phrase} {tokens : List Token} {expr : Expr}
    (h : Derives phrase tokens expr) : 0 < tokens.length := by
  induction h with
  | chain rounds _ _ _ ih _ =>
    rw [List.length_append]
    omega
  | unsigned _ ih => exact ih
  | minus | int | name | bracketed | parens => exact Nat.succ_pos _

/-! ### What is read is derived -/

/-- Further rounds of a chain stand between the tokens and the rest, and lead from one tree to
the other. -/
def Continues (level : Level) (left : Expr) (tokens : List Token) (expr : Expr)
    (rest : List Token) : Prop :=
  ∃ rounds : List Round, (∀ round ∈ rounds, Sign level round.sign round.op) ∧
    (∀ round ∈ rounds, Derives level.part round.tokens round.expr) ∧
    tokens = Round.written rounds ++ rest ∧ expr = Round.grouped left rounds

theorem Continues.refl (level : Level) (left : Expr) (tokens : List Token) :
    Continues level left tokens left tokens :=
  ⟨[], by simp, by simp, rfl, rfl⟩

theorem Continues.step {level : Level} {left right expr : Expr} {sign : Token} {op : BinaryOp}
    {part tokens rest : List Token} (hsign : Sign level sign op)
    (hpart : Derives level.part part right)
    (h : Continues level (binary op left right) tokens expr rest) :
    Continues level left (sign :: (part ++ tokens)) expr rest := by
  obtain ⟨rounds, hsigns, hparts, rfl, rfl⟩ := h
  refine ⟨⟨sign, op, part, right⟩ :: rounds, ?_, ?_, ?_, rfl⟩
  · exact List.forall_mem_cons.mpr ⟨hsign, hsigns⟩
  · exact List.forall_mem_cons.mpr ⟨hpart, hparts⟩
  · rw [Round.written_cons, List.cons_append, List.append_assoc]

/-- A phrase stands between the tokens and the rest. -/
def Begins (phrase : Phrase) (tokens : List Token) (expr : Expr) (rest : List Token) : Prop :=
  ∃ front, tokens = front ++ rest ∧ Derives phrase front expr

theorem Begins.chain {level : Level} {tokens middle rest : List Token} {first expr : Expr}
    (hfirst : Begins level.part tokens first middle)
    (h : Continues level first middle expr rest) : Begins (.chain level) tokens expr rest := by
  obtain ⟨front, rfl, hderives⟩ := hfirst
  obtain ⟨rounds, hsigns, hparts, rfl, rfl⟩ := h
  exact ⟨_, (List.append_assoc _ _ _).symm, .chain rounds hderives hsigns hparts⟩

theorem bracketedName_begins {tokens rest : List Token} {expr : Expr}
    (h : bracketedName tokens = .ok (expr, rest)) :
    Begins .operand (.ident reservedWord :: tokens) expr rest := by
  unfold bracketedName at h
  split at h
  · cases h
    exact ⟨_, rfl, .bracketed _⟩
  all_goals cases h

theorem read_operand_begins (fuel : Nat)
    (ih : ∀ tokens expr rest, read fuel (.chain .sum) tokens = .ok (expr, rest) →
      Begins (.chain .sum) tokens expr rest)
    {tokens rest : List Token} {expr : Expr}
    (h : read (fuel + 1) .operand tokens = .ok (expr, rest)) :
    Begins .operand tokens expr rest := by
  cases tokens with
  | nil => simp [read] at h
  | cons token tokens =>
    cases token with
    | int value =>
      simp only [read, Except.ok.injEq, Prod.mk.injEq] at h
      obtain ⟨rfl, rfl⟩ := h
      exact ⟨_, rfl, .int value⟩
    | ident text =>
      by_cases htext : text = reservedWord
      · subst htext
        exact bracketedName_begins (by simpa [read] using h)
      · simp only [read, if_neg htext, Except.ok.injEq, Prod.mk.injEq] at h
        obtain ⟨rfl, rfl⟩ := h
        exact ⟨_, rfl, .name htext⟩
    | lparen =>
      simp only [read] at h
      split at h
      · cases h
      · rename_i inner after hinner
        cases h
        obtain ⟨front, rfl, hfront⟩ := ih _ _ _ hinner
        exact ⟨_, by simp, .parens hfront⟩
      · cases h
    | _ => simp [read] at h

theorem read_signed_unsigned (fuel : Nat) (tokens : List Token)
    (h : ∀ rest, tokens ≠ .minus :: rest) :
    read (fuel + 1) .signed tokens = read fuel .operand tokens := by
  rw [read]
  exact h

theorem read_signed_begins (fuel : Nat)
    (ih : ∀ phrase tokens expr rest, read fuel phrase tokens = .ok (expr, rest) →
      Begins phrase tokens expr rest)
    {tokens rest : List Token} {expr : Expr}
    (h : read (fuel + 1) .signed tokens = .ok (expr, rest)) : Begins .signed tokens expr rest := by
  by_cases hminus : ∃ rest, tokens = .minus :: rest
  · obtain ⟨tokens, rfl⟩ := hminus
    simp only [read] at h
    split at h
    · cases h
    · rename_i operand after hoperand
      cases h
      obtain ⟨front, rfl, hfront⟩ := ih _ _ _ _ hoperand
      exact ⟨_, rfl, .minus hfront⟩
  · rw [read_signed_unsigned fuel tokens fun rest heq => hminus ⟨rest, heq⟩] at h
    obtain ⟨front, rfl, hfront⟩ := ih _ _ _ _ h
    exact ⟨front, rfl, .unsigned hfront⟩

theorem read_begins (fuel : Nat) :
    (∀ phrase tokens expr rest, read fuel phrase tokens = .ok (expr, rest) →
      Begins phrase tokens expr rest) ∧
    ∀ level left tokens expr rest, readRounds fuel level left tokens = .ok (expr, rest) →
      Continues level left tokens expr rest := by
  induction fuel with
  | zero =>
    exact ⟨fun _ _ _ _ h => by simp [read] at h, fun _ _ _ _ _ h => by simp [readRounds] at h⟩
  | succ fuel ih =>
    obtain ⟨ihread, ihrounds⟩ := ih
    constructor
    · intro phrase tokens expr rest h
      cases phrase with
      | chain level =>
        simp only [read] at h
        split at h
        · cases h
        · rename_i first middle hfirst
          exact (ihread _ _ _ _ hfirst).chain (ihrounds _ _ _ _ _ h)
      | signed => exact read_signed_begins fuel ihread h
      | operand => exact read_operand_begins fuel (ihread _) h
    · intro level left tokens expr rest h
      cases tokens with
      | nil =>
        cases h
        exact .refl level left []
      | cons token tokens =>
        simp only [readRounds] at h
        split at h
        · cases h
          exact .refl level left _
        · rename_i op hop
          split at h
          · cases h
          · rename_i right middle hright
            obtain ⟨front, rfl, hfront⟩ := ihread _ _ _ _ hright
            exact .step ((sign_iff _ _ _).mpr hop) hfront (ihrounds _ _ _ _ _ h)

end TensorBench.Expr
