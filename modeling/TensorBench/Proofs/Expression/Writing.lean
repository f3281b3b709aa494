import TensorBench.Proofs.Expression.Names
import TensorBench.Proofs.Expression.Numerals
import TensorBench.Proofs.Expression.Reading

/-!
Writing expressions. A tree is written with parentheses around every compound part, with each name
bare or in quotes and brackets, and with any blanks between the tokens. Whatever the choices, the
text is read as that tree, with the names of that tree.
-/
namespace TensorBench

namespace Expr

/-- The name stands somewhere in the tree. -/
inductive Mentions (text : String) : Expr → Prop
  | name : Mentions text (name text)
  | neg {operand : Expr} (h : Mentions text operand) : Mentions text (neg operand)
  | left {op : BinaryOp} {left right : Expr} (h : Mentions text left) :
      Mentions text (binary op left right)
  | right {op : BinaryOp} {left right : Expr} (h : Mentions text right) :
      Mentions text (binary op left right)

theorem mem_names_iff (expr : Expr) (text : String) : text ∈ expr.names ↔ Mentions text expr := by
  induction expr with
  | int value => exact iff_of_false List.not_mem_nil (fun h => nomatch h)
  | name other =>
    constructor
    · intro h
      obtain rfl := List.mem_singleton.mp h
      exact .name
    · rintro ⟨⟩
      exact List.mem_singleton_self text
  | neg operand ih =>
    refine ih.trans ⟨.neg, ?_⟩
    rintro ⟨⟩
    assumption
  | binary op left right ihleft ihright =>
    rw [names, List.mem_append, ihleft, ihright]
    constructor
    · rintro (h | h)
      · exact .left h
      · exact .right h
    · intro h
      cases h with
      | left h => exact .inl h
      | right h => exact .inr h

/-- No number is negative or beyond the largest word, and no name holds both kinds of quotes. -/
def Writable : Expr → Prop
  | int value => 0 ≤ value ∧ value ≤ Words.maxSigned
  | name text => ∃ quote, Token.IsQuote quote ∧ quote ∉ text.toList
  | neg operand => operand.Writable
  | binary _ left right => left.Writable ∧ right.Writable

/-- The sign of an operation. -/
def sign : BinaryOp → Token
  | .add => .plus
  | .sub => .minus
  | .mul => .star
  | .div => .slash
  | .rem => .percent

/-- The tokens of an expression as a part of another one: compound expressions stand in
parentheses, names alone or in brackets. -/
inductive Part : Expr → List Token → Prop
  | int (value : Nat) : Part (int value) [.int value]
  | bare {text : String} (hword : Token.IsWord text.toList) (hfree : text ≠ reservedWord) :
      Part (name text) [.ident text]
  | bracketed (key : String) :
      Part (name key) [.ident reservedWord, .lbracket, .str key, .rbracket]
  | neg {operand : Expr} {tokens : List Token} (h : Part operand tokens) :
      Part (neg operand) (.lparen :: (.minus :: tokens ++ [.rparen]))
  | binary {op : BinaryOp} {left right : Expr} {front back : List Token} (hleft : Part left front)
      (hright : Part right back) :
      Part (binary op left right) (.lparen :: (front ++ sign op :: back ++ [.rparen]))

/-- The outermost parentheses may be left out. -/
def Whole (expr : Expr) (tokens : List Token) : Prop :=
  Part expr tokens ∨ Part expr (.lparen :: (tokens ++ [.rparen]))

/-- The text writes the expression. -/
def WrittenAs (expr : Expr) (source : String) : Prop :=
  ∃ tokens, expr.Whole tokens ∧ Token.Spells tokens source.toList

/-! ### Derivations -/

namespace Derives

theorem single {level : Level} {tokens : List Token} {expr : Expr}
    (h : Derives level.part tokens expr) : Derives (.chain level) tokens expr := by
  simpa [Round.written, Round.grouped] using Derives.chain [] h (by simp) (by simp)

theorem pair {level : Level} {token : Token} {op : BinaryOp} {front back : List Token}
    {left right : Expr} (hsign : Sign level token op) (hleft : Derives level.part front left)
    (hright : Derives level.part back right) :
    Derives (.chain level) (front ++ token :: back) (Expr.binary op left right) := by
  simpa [Round.written, Round.grouped] using
    Derives.chain [⟨token, op, back, right⟩] hleft (by simpa using hsign) (by simpa using hright)

theorem binary (op : BinaryOp) {front back : List Token} {left right : Expr}
    (hleft : Derives .operand front left) (hright : Derives .operand back right) :
    Derives (.chain .sum) (front ++ sign op :: back) (Expr.binary op left right) := by
  cases op with
  | add => exact .pair .plus (.single (.unsigned hleft)) (.single (.unsigned hright))
  | sub => exact .pair .minus (.single (.unsigned hleft)) (.single (.unsigned hright))
  | mul => exact .single (.pair .star (.unsigned hleft) (.unsigned hright))
  | div => exact .single (.pair .slash (.unsigned hleft) (.unsigned hright))
  | rem => exact .single (.pair .percent (.unsigned hleft) (.unsigned hright))

/-- What stands in parentheses is a sum. -/
theorem inside {tokens : List Token} {expr : Expr}
    (h : Derives .operand (.lparen :: (tokens ++ [.rparen])) expr) :
    Derives (.chain .sum) tokens expr := by
  generalize hwhole : Token.lparen :: (tokens ++ [.rparen]) = whole at h
  cases h with
  | parens h =>
    obtain rfl : tokens = _ := by simpa using hwhole
    exact h
  | int | name | bracketed => simp at hwhole

end Derives

theorem Part.derives {expr : Expr} {tokens : List Token} (h : Part expr tokens) :
    Derives .operand tokens expr := by
  induction h with
  | int value => exact .int value
  | bare _ hfree => exact .name hfree
  | bracketed key => exact .bracketed key
  | neg _ ih => exact .parens (.single (.single (.minus (.unsigned ih))))
  | binary _ _ ihleft ihright => exact .parens (.binary _ ihleft ihright)

theorem Whole.derives {expr : Expr} {tokens : List Token} (h : expr.Whole tokens) :
    Derives (.chain .sum) tokens expr := by
  rcases h with h | h
  · exact .single (.single (.unsigned h.derives))
  · exact h.derives.inside

/-! ### Names -/

theorem mentions_grouped {text : String} {first : Expr} {rounds : List Round}
    (h : Mentions text (Round.grouped first rounds)) :
    Mentions text first ∨ ∃ round ∈ rounds, Mentions text round.expr := by
  induction rounds generalizing first with
  | nil => exact .inl h
  | cons round rounds ih =>
    rcases ih h with (_ | _ | hleft | hright) | ⟨later, hmem, hlater⟩
    · exact .inl hleft
    · exact .inr ⟨round, List.mem_cons_self, hright⟩
    · exact .inr ⟨later, List.mem_cons_of_mem _ hmem, hlater⟩

/-- Every name of a tree is one of its tokens, as a word or in quotes. -/
theorem Derives.token_of_mentions {phrase : Phrase} {tokens : List Token} {expr : Expr}
    (h : Derives phrase tokens expr) {text : String} (hmentions : Mentions text expr) :
    (.ident text ∈ tokens ∧ text ≠ reservedWord) ∨ .str text ∈ tokens := by
  have hwithin {front tokens : List Token} (hsub : front ⊆ tokens)
      (hfront : (.ident text ∈ front ∧ text ≠ reservedWord) ∨ .str text ∈ front) :
      (.ident text ∈ tokens ∧ text ≠ reservedWord) ∨ .str text ∈ tokens :=
    hfront.imp (fun hword => ⟨hsub hword.1, hword.2⟩) (fun hquoted => hsub hquoted)
  induction h with
  | chain rounds _ _ _ ihfirst ihparts =>
    rcases mentions_grouped hmentions with hfirst | ⟨round, hmem, hround⟩
    · exact hwithin (List.subset_append_left _ _) (ihfirst hfirst)
    · refine hwithin (fun token htoken => ?_) (ihparts round hmem hround)
      refine List.mem_append_right _ (List.mem_flatMap.mpr ⟨round, hmem, ?_⟩)
      exact List.mem_cons_of_mem _ htoken
  | minus _ ih =>
    cases hmentions with
    | neg hmentions => exact hwithin (List.subset_cons_self _ _) (ih hmentions)
  | unsigned _ ih => exact ih hmentions
  | int => cases hmentions
  | name hfree =>
    cases hmentions
    exact .inl ⟨List.mem_singleton_self _, hfree⟩
  | bracketed =>
    cases hmentions
    exact .inr (by simp)
  | parens _ ih =>
    refine hwithin (fun token htoken => ?_) (ih hmentions)
    exact List.mem_cons_of_mem _ (List.mem_append_left _ htoken)

/-! ### Which expressions can be written -/

theorem exists_lexeme_sign (op : BinaryOp) : ∃ lexeme, Token.Lexeme (sign op) lexeme := by
  cases op with
  | add => exact ⟨['+'], .symbol rfl⟩
  | sub => exact ⟨['-'], .symbol rfl⟩
  | mul => exact ⟨['*'], .symbol rfl⟩
  | div => exact ⟨['/'], .symbol rfl⟩
  | rem => exact ⟨['%'], .symbol rfl⟩

/-- With every name in brackets each token has a lexeme. -/
theorem exists_part {expr : Expr} (h : expr.Writable) :
    ∃ tokens, Part expr tokens ∧ Token.Spellable tokens := by
  have hsymbol (c : Char) {token : Token} (hc : Token.symbol? c = some token) :
      ∃ lexeme, Token.Lexeme token lexeme := ⟨_, .symbol hc⟩
  induction expr with
  | int value =>
    obtain ⟨n, rfl⟩ := Int.eq_ofNat_of_zero_le h.1
    refine ⟨_, .int n, ?_⟩
    simpa using ⟨_, Token.lexeme_toDigits n h.2⟩
  | name text =>
    obtain ⟨quote, hquote, hfree⟩ := h
    have hword : Token.IsWord reservedWord.toList := by decide
    have hreserved := Token.Lexeme.ident hword
    have htext := Token.Lexeme.str hquote hfree
    rw [String.ofList_toList] at hreserved htext
    refine ⟨_, .bracketed text, ?_⟩
    simpa using ⟨⟨_, hreserved⟩, hsymbol '[' rfl, ⟨_, htext⟩, hsymbol ']' rfl⟩
  | neg operand ih =>
    obtain ⟨tokens, hpart, htokens⟩ := ih h
    refine ⟨_, .neg hpart, ?_⟩
    simpa using ⟨hsymbol '(' rfl, hsymbol '-' rfl, htokens, hsymbol ')' rfl⟩
  | binary op left right ihleft ihright =>
    obtain ⟨front, hleft, hfront⟩ := ihleft h.1
    obtain ⟨back, hright, hback⟩ := ihright h.2
    refine ⟨_, .binary hleft hright, ?_⟩
    simpa using ⟨hsymbol '(' rfl, hfront, exists_lexeme_sign op, hback, hsymbol ')' rfl⟩

theorem Part.writable {expr : Expr} {tokens : List Token} (h : Part expr tokens)
    (htokens : Token.Spellable tokens) : expr.Writable := by
  induction h with
  | int value =>
    obtain ⟨⟨lexeme, hlexeme⟩, -⟩ := (Token.spellable_cons _ _).mp htokens
    exact ⟨Int.natCast_nonneg value, hlexeme.fits_of_int⟩
  | bare hword _ => exact ⟨'\'', .inl rfl, Token.IsWord.not_mem_quote hword (.inl rfl)⟩
  | bracketed key =>
    simp only [Token.spellable_cons] at htokens
    obtain ⟨-, -, ⟨lexeme, hlexeme⟩, -⟩ := htokens
    obtain ⟨quote, hquote, hfree, -⟩ := hlexeme.eq_of_str
    exact ⟨quote, hquote, hfree⟩
  | neg _ ih =>
    simp only [List.cons_append, Token.spellable_cons, Token.spellable_append] at htokens
    exact ih htokens.2.2.1
  | binary _ _ ihleft ihright =>
    simp only [List.cons_append, List.append_assoc, Token.spellable_cons,
      Token.spellable_append] at htokens
    exact ⟨ihleft htokens.2.1, ihright htokens.2.2.2.1⟩

/-- The expressions that can be written are those that the texts of the language can express. -/
theorem exists_writtenAs_iff (expr : Expr) : (∃ source, expr.WrittenAs source) ↔ expr.Writable := by
  constructor
  · rintro ⟨source, tokens, hpart | hpart, hspells⟩
    · exact hpart.writable hspells.spellable
    · have hparens : Token.Spellable (.lparen :: (tokens ++ [.rparen])) := by
        simpa using ⟨⟨['('], .symbol rfl⟩, hspells.spellable, ⟨[')'], .symbol rfl⟩⟩
      exact hpart.writable hparens
  · intro h
    obtain ⟨tokens, hpart, htokens⟩ := exists_part h
    obtain ⟨chars, hspells⟩ := htokens.exists_spells
    exact ⟨String.ofList chars, tokens, .inl hpart, by rwa [String.toList_ofList]⟩

end Expr

namespace Placeholder

open TensorBench.Expr

/-- A tree without negative or overlong numbers, and without names that hold both kinds of quotes,
can be written, and every text that writes a tree is read as that tree. The names of the
placeholder are those that stand in the tree, each once. -/
theorem parse_of_writtenAs (expr : Expr) :
    (expr.Writable → ∃ source, expr.WrittenAs source) ∧
    ∀ source, expr.WrittenAs source →
      parse source = .ok ⟨source, expr⟩ ∧
      (∀ text, text ∈ (Placeholder.mk source expr).names ↔ expr.Mentions text) ∧
      (Placeholder.mk source expr).names.Nodup := by
  refine ⟨(exists_writtenAs_iff expr).mpr, ?_⟩
  rintro source ⟨tokens, hwhole, hspells⟩
  have hscan := (Token.scan_eq_ok_iff source tokens).mpr hspells
  refine ⟨?_, fun text => ?_, ?_⟩
  · exact (parse_eq_ok_iff source _).mpr ⟨rfl, tokens, hscan, hwhole.derives⟩
  · rw [Placeholder.mem_names_iff, Expr.mem_names_iff]
  · exact NameTable.nodup_names _

/-- A sum of two names, one divided and negated, of which neither could be written bare. -/
def quotedSum : Expr :=
  .binary .add (.neg (.binary .div (.name "it's") (.int 7))) (.name "placeholders")

/-- The sum without its outermost parentheses, with several kinds of blanks. -/
def quotedSumText : String :=
  "(-\t( placeholders [\"it's\"]\u2003// 007 ) )\n+ placeholders ['placeholders' ]"

theorem parse_of_writtenAs_quotedSum :
    quotedSum.Writable ∧ quotedSum.WrittenAs quotedSumText ∧
      parse quotedSumText = .ok ⟨quotedSumText, quotedSum⟩ ∧
      "it's" ∈ (Placeholder.mk quotedSumText quotedSum).names := by
  have hwritable : quotedSum.Writable :=
    ⟨⟨⟨'"', .inr rfl, by decide⟩, by decide, by decide⟩, ⟨'"', .inr rfl, by decide⟩⟩
  have hpart : Part quotedSum _ :=
    .binary (.neg (.binary (.bracketed "it's") (.int 7))) (.bracketed "placeholders")
  have hspells := (Token.scan_eq_ok_iff quotedSumText _).mp rfl
  have hwritten : quotedSum.WrittenAs quotedSumText := ⟨_, .inr hpart, hspells⟩
  obtain ⟨hparse, hnames, -⟩ := (parse_of_writtenAs quotedSum).2 quotedSumText hwritten
  exact ⟨hwritable, hwritten, hparse, (hnames "it's").mpr (.left (.neg (.left .name)))⟩

end Placeholder

end TensorBench
