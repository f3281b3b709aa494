import TensorBench.Expression.Token

/-!
The spelling of tokens. A text spells a list of tokens if it consists of their lexemes one after the
other, with any blanks in front of them, between them and behind them. Blanks are needed only where
the next character would otherwise still belong to a lexeme. The scanner reads exactly the texts
that spell something, each as the tokens it spells.
-/
namespace TensorBench

/-! ### Classes of characters -/

namespace Text

theorem isBlank_of_isDigit {c : Char} (hdigit : isDigit c = true) : isBlank c = false := by
  simp only [isDigit, Bool.and_eq_true, decide_eq_true_eq, Char.le_def,
    UInt32.le_iff_toNat_le] at hdigit
  obtain ⟨hlow, hhigh⟩ : 48 ≤ c.toNat ∧ c.toNat ≤ 57 := hdigit
  simp only [isBlank, Bool.or_eq_false_iff, Bool.and_eq_false_iff, decide_eq_false_iff_not,
    beq_eq_false_iff_ne]
  omega

/-- Letters lie above the digits, in two ranges. -/
theorem isLetter_iff (c : Char) :
    isLetter c = true ↔ 97 ≤ c.toNat ∧ c.toNat ≤ 122 ∨ 65 ≤ c.toNat ∧ c.toNat ≤ 90 := by
  simp only [isLetter, Bool.or_eq_true, Bool.and_eq_true, decide_eq_true_eq, Char.le_def,
    UInt32.le_iff_toNat_le]
  exact Iff.rfl

theorem isBlank_of_isLetter {c : Char} (hletter : isLetter c = true) : isBlank c = false := by
  have hrange := (isLetter_iff c).mp hletter
  simp only [isBlank, Bool.or_eq_false_iff, Bool.and_eq_false_iff, decide_eq_false_iff_not,
    beq_eq_false_iff_ne]
  omega

theorem isDigit_of_isLetter {c : Char} (hletter : isLetter c = true) : isDigit c = false := by
  have hrange := (isLetter_iff c).mp hletter
  simp only [isDigit, Bool.and_eq_false_iff, decide_eq_false_iff_not, Char.le_def,
    UInt32.le_iff_toNat_le]
  change ¬ 48 ≤ c.toNat ∨ ¬ c.toNat ≤ 57
  omega

end Text

namespace Token

theorem isBlank_of_isWordStart {c : Char} (h : isWordStart c = true) : Text.isBlank c = false := by
  rcases Bool.or_eq_true_iff.mp h with hletter | hunderscore
  · exact Text.isBlank_of_isLetter hletter
  · rw [beq_iff_eq.mp hunderscore]
    rfl

theorem isDigit_of_isWordStart {c : Char} (h : isWordStart c = true) : Text.isDigit c = false := by
  rcases Bool.or_eq_true_iff.mp h with hletter | hunderscore
  · exact Text.isDigit_of_isLetter hletter
  · rw [beq_iff_eq.mp hunderscore]
    rfl

theorem isBlank_of_isWordChar {c : Char} (h : isWordChar c = true) : Text.isBlank c = false := by
  rcases Bool.or_eq_true_iff.mp h with hstart | hdigit
  · exact isBlank_of_isWordStart hstart
  · exact Text.isBlank_of_isDigit hdigit

/-! ### Lexemes -/

/-- A letter or an underscore, and behind it letters, digits and underscores. -/
def IsWord : List Char → Prop
  | [] => False
  | c :: rest => isWordStart c = true ∧ ∀ d ∈ rest, isWordChar d = true

instance : DecidablePred IsWord
  | [] => inferInstanceAs (Decidable False)
  | _ :: rest =>
      @instDecidableAnd _ _ _ (List.decidableBAll (fun d => isWordChar d = true) rest)

/-- The marks that a text in quotes may stand in. -/
def IsQuote (c : Char) : Prop := c = '\'' ∨ c = '"'

/-- The characters that write a token. A slash may be written twice. -/
inductive Lexeme : Token → List Char → Prop
  | int {digits : List Char} (hnonempty : digits ≠ [])
      (hdecimal : ∀ c ∈ digits, Text.isDigit c = true)
      (hfits : (Text.ofDigits digits : Int) ≤ Words.maxSigned) :
      Lexeme (.int (Text.ofDigits digits)) digits
  | ident {letters : List Char} (hword : IsWord letters) :
      Lexeme (.ident (String.ofList letters)) letters
  | str {quote : Char} {letters : List Char} (hmark : IsQuote quote) (hfree : quote ∉ letters) :
      Lexeme (.str (String.ofList letters)) (quote :: (letters ++ [quote]))
  | symbol {c : Char} {token : Token} (hsingle : symbol? c = some token) : Lexeme token [c]
  | doubleSlash : Lexeme .slash ['/', '/']

/-- Whether a character right behind the lexeme would belong to it. -/
def takes : Token → List Char → Char → Bool
  | .int _, _, c => Text.isDigit c
  | .ident _, _, c => isWordChar c
  | .slash, lexeme, c => lexeme == ['/'] && c == '/'
  | _, _, _ => false

/-- The text consists of the lexemes of the tokens and of blanks. -/
inductive Spells : List Token → List Char → Prop
  | nil : Spells [] []
  | blank {c : Char} {tokens : List Token} {rest : List Char} (h : Text.isBlank c = true)
      (hrest : Spells tokens rest) : Spells tokens (c :: rest)
  | token {token : Token} {lexeme : List Char} {tokens : List Token} {rest : List Char}
      (hlexeme : Lexeme token lexeme) (hnext : ∀ c ∈ rest.head?, takes token lexeme c = false)
      (hrest : Spells tokens rest) : Spells (token :: tokens) (lexeme ++ rest)

theorem Lexeme.spells {token : Token} {lexeme : List Char} (h : Lexeme token lexeme) :
    Spells [token] lexeme := by
  have hnothing : ∀ c ∈ ([] : List Char).head?, takes token lexeme c = false := by simp
  have halone := Spells.token h hnothing .nil
  rwa [List.append_nil] at halone

theorem symbol?_eq_some {c : Char} {token : Token} (h : symbol? c = some token) :
    (∀ value, token ≠ .int value) ∧ (∀ text, token ≠ .ident text) ∧ ∀ text, token ≠ .str text := by
  unfold symbol? at h
  split at h <;> cases h <;> simp

theorem Lexeme.fits_of_int {value : Nat} {lexeme : List Char} (h : Lexeme (.int value) lexeme) :
    (value : Int) ≤ Words.maxSigned := by
  cases h with
  | int _ _ hfits => exact hfits
  | symbol hsymbol => exact absurd rfl ((symbol?_eq_some hsymbol).1 value)

theorem Lexeme.eq_of_ident {text : String} {lexeme : List Char} (h : Lexeme (.ident text) lexeme) :
    lexeme = text.toList ∧ IsWord text.toList := by
  cases h with
  | ident hword => simpa using hword
  | symbol hsymbol => exact absurd rfl ((symbol?_eq_some hsymbol).2.1 text)

theorem Lexeme.eq_of_str {text : String} {lexeme : List Char} (h : Lexeme (.str text) lexeme) :
    ∃ quote, IsQuote quote ∧ quote ∉ text.toList ∧ lexeme = quote :: (text.toList ++ [quote]) := by
  cases h with
  | @str quote _ hquote hfree => exact ⟨quote, hquote, by simpa using hfree, by simp⟩
  | symbol hsymbol => exact absurd rfl ((symbol?_eq_some hsymbol).2.2 text)

/-- A blank ends every token. -/
theorem takes_of_isBlank (token : Token) (lexeme : List Char) {c : Char}
    (h : Text.isBlank c = true) : takes token lexeme c = false := by
  have hapart {p : Char → Bool} (hp : p c = true → Text.isBlank c = false) : p c = false :=
    Bool.eq_false_iff.mpr fun htrue => Bool.false_ne_true ((hp htrue).symm.trans h)
  cases token with
  | int => exact hapart Text.isBlank_of_isDigit
  | ident => exact hapart isBlank_of_isWordChar
  | slash =>
    have hslash : c ≠ '/' := by
      rintro rfl
      cases h
    simp [takes, hslash]
  | _ => rfl

/-- Each of the tokens has a lexeme. -/
def Spellable (tokens : List Token) : Prop := ∀ token ∈ tokens, ∃ lexeme, Lexeme token lexeme

@[simp] theorem spellable_nil : Spellable [] := List.forall_mem_nil _

@[simp] theorem spellable_cons (token : Token) (tokens : List Token) :
    Spellable (token :: tokens) ↔ (∃ lexeme, Lexeme token lexeme) ∧ Spellable tokens :=
  List.forall_mem_cons

@[simp] theorem spellable_append (front back : List Token) :
    Spellable (front ++ back) ↔ Spellable front ∧ Spellable back :=
  List.forall_mem_append

/-- Such tokens are spelled by their lexemes with a blank behind each. -/
theorem Spellable.exists_spells {tokens : List Token} (h : Spellable tokens) :
    ∃ chars, Spells tokens chars := by
  induction tokens with
  | nil => exact ⟨[], .nil⟩
  | cons token tokens ih =>
    obtain ⟨⟨lexeme, hlexeme⟩, htokens⟩ := (spellable_cons token tokens).mp h
    obtain ⟨chars, hchars⟩ := ih htokens
    have hblank : Text.isBlank ' ' = true := rfl
    refine ⟨lexeme ++ ' ' :: chars, .token hlexeme (fun c hc => ?_) (.blank hblank hchars)⟩
    obtain rfl : ' ' = c := by simpa using hc
    exact takes_of_isBlank token lexeme hblank

theorem Spells.exists_lexeme {tokens : List Token} {chars : List Char} (h : Spells tokens chars)
    {token : Token} (hmem : token ∈ tokens) :
    ∃ lexeme, Lexeme token lexeme ∧ lexeme.length ≤ chars.length := by
  induction h with
  | nil => cases hmem
  | blank _ _ ih =>
    obtain ⟨lexeme, hlexeme, hlength⟩ := ih hmem
    exact ⟨lexeme, hlexeme, by simp; omega⟩
  | @token first lexeme tokens rest hfirst _ _ ih =>
    rcases List.mem_cons.mp hmem with rfl | hmem
    · exact ⟨lexeme, hfirst, by simp⟩
    · obtain ⟨later, hlater, hlength⟩ := ih hmem
      exact ⟨later, hlater, by simp; omega⟩

theorem Spells.spellable {tokens : List Token} {chars : List Char} (h : Spells tokens chars) :
    Spellable tokens := fun _ hmem =>
  (h.exists_lexeme hmem).imp fun _ => And.left

/-! ### What is scanned is spelled -/

namespace Mode

/-- The characters of the open token so far. -/
def front : Mode → List Char
  | between => []
  | number reversed => reversed.reverse
  | word reversed => reversed.reverse
  | text quote reversed => quote :: reversed.reverse
  | afterSlash => ['/']

/-- The tokens that are already out although another character may still join their lexeme. -/
def early : Mode → List Token
  | afterSlash => [.slash]
  | _ => []

/-- Whether the open token takes the character in. -/
def takes : Mode → Char → Bool
  | between, _ => false
  | number _, c => Text.isDigit c
  | word _, c => isWordChar c
  | text _ _, _ => true
  | afterSlash, c => c == '/'

/-- The open token can still become one. -/
def Valid : Mode → Prop
  | number reversed => reversed ≠ [] ∧ ∀ c ∈ reversed, Text.isDigit c = true
  | word reversed => IsWord reversed.reverse
  | text quote reversed => IsQuote quote ∧ quote ∉ reversed
  | _ => True

end Mode

theorem IsWord.append {letters : List Char} {c : Char} (h : IsWord letters)
    (hc : isWordChar c = true) : IsWord (letters ++ [c]) := by
  cases letters with
  | nil => exact h.elim
  | cons d rest =>
    refine ⟨h.1, fun e he => ?_⟩
    rcases List.mem_append.mp he with he | he
    · exact h.2 e he
    · rwa [List.mem_singleton.mp he]

theorem IsWord.forall_isWordChar {letters : List Char} (h : IsWord letters) :
    ∀ c ∈ letters, isWordChar c = true := by
  cases letters with
  | nil => exact h.elim
  | cons c rest => exact List.forall_mem_cons.mpr ⟨by simp [isWordChar, h.1], h.2⟩

theorem IsWord.not_mem_quote {letters : List Char} (h : IsWord letters) {quote : Char}
    (hquote : IsQuote quote) : quote ∉ letters := by
  intro hmem
  have hchar := h.forall_isWordChar quote hmem
  rcases hquote with rfl | rfl <;> cases hchar

/-- A character that starts anew is a blank, a token of its own, or the first of an open token. -/
theorem start_cases {c : Char} {opened : List Token} {next : Mode}
    (h : start c = .ok (opened, next)) :
    next.Valid ∧ ((Text.isBlank c = true ∧ opened = [] ∧ next = .between) ∨
      (∃ token, symbol? c = some token ∧ c ≠ '/' ∧ opened = [token] ∧ next = .between) ∨
      (opened = next.early ∧ next.front = [c])) := by
  unfold start at h
  split at h
  · rename_i hblank
    cases h
    exact ⟨trivial, .inl ⟨hblank, rfl, rfl⟩⟩
  split at h
  · rename_i hdigit
    cases h
    exact ⟨⟨List.cons_ne_nil c [], by simpa using hdigit⟩, .inr (.inr ⟨rfl, rfl⟩)⟩
  split at h
  · rename_i hword
    cases h
    exact ⟨⟨hword, List.forall_mem_nil _⟩, .inr (.inr ⟨rfl, rfl⟩)⟩
  split at h
  · rename_i hquote
    cases h
    exact ⟨⟨by simpa [IsQuote] using hquote, List.not_mem_nil⟩, .inr (.inr ⟨rfl, rfl⟩)⟩
  split at h
  · rename_i token hsymbol
    cases h
    by_cases hslash : c = '/'
    · subst hslash
      cases hsymbol
      exact ⟨trivial, .inr (.inr ⟨rfl, rfl⟩)⟩
    · rw [if_neg (by simpa using hslash)]
      exact ⟨trivial, .inr (.inl ⟨token, hsymbol, hslash, rfl, rfl⟩)⟩
  · cases h

theorem restart_eq_ok {mode next : Mode} {c : Char} {tokens : List Token}
    (h : restart mode c = .ok (tokens, next)) :
    ∃ closed opened, finish mode = .ok closed ∧ start c = .ok (opened, next) ∧
      tokens = closed ++ opened := by
  unfold restart at h
  split at h
  · cases h
  · rename_i closed hclosed
    split at h
    · cases h
    · rename_i hopened
      cases h
      exact ⟨closed, _, hclosed, hopened, rfl⟩

/-- A character joins the open token, or completes its lexeme, or the token ends in front of it. -/
theorem step_cases {mode next : Mode} {c : Char} {tokens : List Token} (hmode : mode.Valid)
    (h : step mode c = .ok (tokens, next)) :
    (tokens = [] ∧ next.early = mode.early ∧ next.front = mode.front ++ [c] ∧ next.Valid) ∨
      (∃ token, mode.early ++ tokens = [token] ∧ Lexeme token (mode.front ++ [c]) ∧
        (∀ d, takes token (mode.front ++ [c]) d = false) ∧ next = .between) ∨
      (mode.takes c = false ∧ ∃ closed opened, finish mode = .ok closed ∧
        start c = .ok (opened, next) ∧ tokens = closed ++ opened) := by
  cases mode with
  | between => exact .inr (.inr ⟨rfl, [], tokens, rfl, h, rfl⟩)
  | number reversed =>
    by_cases hdigit : Text.isDigit c = true
    · simp only [step, if_pos hdigit] at h
      cases h
      exact .inl ⟨rfl, rfl, List.reverse_cons, List.cons_ne_nil c reversed,
        List.forall_mem_cons.mpr ⟨hdigit, hmode.2⟩⟩
    · simp only [step, if_neg hdigit] at h
      exact .inr (.inr ⟨by simpa [Mode.takes] using hdigit, restart_eq_ok h⟩)
  | word reversed =>
    by_cases hword : isWordChar c = true
    · simp only [step, if_pos hword] at h
      cases h
      refine .inl ⟨rfl, rfl, List.reverse_cons, ?_⟩
      simpa [Mode.Valid] using IsWord.append hmode hword
    · simp only [step, if_neg hword] at h
      exact .inr (.inr ⟨by simpa [Mode.takes] using hword, restart_eq_ok h⟩)
  | text quote reversed =>
    obtain ⟨hquote, hfree⟩ := hmode
    by_cases hclose : c = quote
    · subst hclose
      simp only [step, if_true] at h
      cases h
      exact .inr (.inl ⟨_, rfl, .str hquote (by simpa using hfree), fun _ => rfl, rfl⟩)
    · simp only [step, if_neg hclose] at h
      cases h
      refine .inl ⟨rfl, rfl, by simp [Mode.front], hquote, ?_⟩
      simp [Ne.symm hclose, hfree]
  | afterSlash =>
    by_cases hslash : c = '/'
    · subst hslash
      cases h
      exact .inr (.inl ⟨.slash, rfl, .doubleSlash, fun _ => rfl, rfl⟩)
    · simp only [step, beq_iff_eq, if_neg hslash] at h
      exact .inr (.inr ⟨by simpa [Mode.takes] using hslash, restart_eq_ok h⟩)

/-- The open token ends in front of text that it does not take in. -/
theorem Spells.close {mode : Mode} {closed tokens : List Token} {rest : List Char}
    (hmode : mode.Valid) (hclosed : finish mode = .ok closed)
    (hnext : ∀ c ∈ rest.head?, mode.takes c = false) (hrest : Spells tokens rest) :
    Spells (mode.early ++ closed ++ tokens) (mode.front ++ rest) := by
  cases mode with
  | between =>
    cases hclosed
    exact hrest
  | number reversed =>
    simp only [finish, ofNumeral] at hclosed
    split at hclosed
    · rename_i hfits
      cases hclosed
      exact .token (.int (by simpa using hmode.1) (by simpa using hmode.2) hfits) hnext hrest
    · cases hclosed
  | word reversed =>
    cases hclosed
    exact .token (.ident hmode) hnext hrest
  | text quote reversed => cases hclosed
  | afterSlash =>
    cases hclosed
    exact .token (.symbol rfl) (by simpa [takes, Mode.takes, Mode.front] using hnext) hrest

theorem takes_symbol {c : Char} {token : Token} (h : symbol? c = some token) (hslash : c ≠ '/')
    (d : Char) : takes token [c] d = false := by
  unfold symbol? at h
  split at h <;> cases h <;> first | rfl | exact absurd rfl hslash

/-- A character that starts anew, in front of what follows its token or belongs to it. -/
theorem Spells.restart {c : Char} {opened later : List Token} {next : Mode} {rest : List Char}
    (h : start c = .ok (opened, next))
    (hrest : Spells (next.early ++ later) (next.front ++ rest)) :
    Spells (opened ++ later) (c :: rest) := by
  rcases (start_cases h).2 with ⟨hblank, rfl, rfl⟩ | ⟨token, hsymbol, hslash, rfl, rfl⟩ |
    ⟨rfl, hfront⟩
  · exact .blank hblank hrest
  · exact .token (.symbol hsymbol) (fun d _ => takes_symbol hsymbol hslash d) hrest
  · rwa [hfront] at hrest

theorem spells_of_scanFrom {mode : Mode} {chars : List Char} {tokens : List Token}
    (hmode : mode.Valid) (h : scanFrom mode chars = .ok tokens) :
    Spells (mode.early ++ tokens) (mode.front ++ chars) := by
  induction chars generalizing mode tokens with
  | nil =>
    have hnothing : ∀ c ∈ ([] : List Char).head?, mode.takes c = false := by simp
    have hclose := Spells.close hmode h hnothing .nil
    rwa [List.append_nil] at hclose
  | cons c rest ih =>
    unfold scanFrom at h
    split at h
    · cases h
    rename_i now next hstep
    split at h
    · cases h
    rename_i later hlater
    cases h
    rcases step_cases hmode hstep with ⟨rfl, hearly, hfront, hnext⟩ |
      ⟨token, hearly, hlexeme, htakes, rfl⟩ | ⟨htakes, closed, opened, hclosed, hopened, rfl⟩
    · have hgrown := ih hnext hlater
      rwa [hearly, hfront, List.append_assoc] at hgrown
    · have hbetween : Mode.between.Valid := trivial
      have hwhole := Spells.token hlexeme (fun d _ => htakes d) (ih hbetween hlater)
      rw [List.append_assoc, List.singleton_append] at hwhole
      rwa [← List.append_assoc, hearly]
    · have hbehind := Spells.restart hopened (ih (start_cases hopened).1 hlater)
      have hclose := Spells.close hmode hclosed (by simpa using htakes) hbehind
      rwa [List.append_assoc, ← List.append_assoc closed] at hclose

/-! ### What is spelled is scanned -/

/-- A character that completes no token only changes the mode. -/
theorem scanFrom_of_step {mode next : Mode} {c : Char} (htaken : step mode c = .ok ([], next))
    (rest : List Char) : scanFrom mode (c :: rest) = scanFrom next rest := by
  rw [scanFrom, htaken]
  cases hscanned : scanFrom next rest <;> simp [hscanned]

theorem scanFrom_of_step_token {mode next : Mode} {c : Char} {tokens later : List Token}
    {rest : List Char} (htaken : step mode c = .ok (tokens, next))
    (hscanned : scanFrom next rest = .ok later) :
    scanFrom mode (c :: rest) = .ok (tokens ++ later) := by
  rw [scanFrom, htaken]
  simp only [hscanned]

/-- A mode that only grows takes in every character of a kind that it always takes in. -/
theorem scanFrom_taken (grow : List Char → Mode) (p : Char → Prop)
    (htaken : ∀ reversed c, p c → step (grow reversed) c = .ok ([], grow (c :: reversed)))
    (reversed chars rest : List Char) (hchars : ∀ c ∈ chars, p c) :
    scanFrom (grow reversed) (chars ++ rest) =
      scanFrom (grow (chars.reverse ++ reversed)) rest := by
  induction chars generalizing reversed with
  | nil => rfl
  | cons c chars ih =>
    obtain ⟨hc, hchars⟩ := List.forall_mem_cons.mp hchars
    rw [List.cons_append, scanFrom_of_step (htaken reversed c hc), ih _ hchars, List.reverse_cons,
      List.append_assoc, List.singleton_append]

theorem step_number (reversed : List Char) (c : Char) (h : Text.isDigit c = true) :
    step (.number reversed) c = .ok ([], .number (c :: reversed)) := by
  simp only [step, h, if_true]

theorem step_word (reversed : List Char) (c : Char) (h : isWordChar c = true) :
    step (.word reversed) c = .ok ([], .word (c :: reversed)) := by
  simp only [step, h, if_true]

theorem step_text (quote : Char) (reversed : List Char) (c : Char) (h : c ≠ quote) :
    step (.text quote reversed) c = .ok ([], .text quote (c :: reversed)) := by
  simp only [step, if_neg h]

theorem step_of_not_takes {mode : Mode} {c : Char} (h : mode.takes c = false) :
    step mode c = restart mode c := by
  cases mode with
  | between =>
    rw [step, restart, finish]
    cases start c <;> rfl
  | text quote reversed => cases h
  | number reversed => simp_all [step, Mode.takes]
  | word reversed => simp_all [step, Mode.takes]
  | afterSlash => simp_all [step, Mode.takes]

/-- The open token ends where the text behind it does not continue it. -/
theorem scanFrom_of_finish {mode : Mode} {closed tokens : List Token} {rest : List Char}
    (hclosed : finish mode = .ok closed) (hnext : ∀ c ∈ rest.head?, mode.takes c = false)
    (hrest : scanFrom .between rest = .ok tokens) :
    scanFrom mode rest = .ok (closed ++ tokens) := by
  cases rest with
  | nil =>
    cases hrest
    rw [List.append_nil]
    exact hclosed
  | cons c rest =>
    have hstep := step_of_not_takes (hnext c rfl)
    unfold scanFrom at hrest ⊢
    rw [hstep, restart, hclosed]
    rw [step] at hrest
    cases hstart : start c with
    | error fault => simp [hstart] at hrest
    | ok opened =>
      simp only [hstart] at hrest ⊢
      cases hlater : scanFrom opened.2 rest with
      | error fault => simp [hlater] at hrest
      | ok later =>
        simp only [hlater, Except.ok.injEq] at hrest ⊢
        rw [List.append_assoc, hrest]

theorem start_symbol {c : Char} {token : Token} (h : symbol? c = some token) :
    start c = .ok ([token], if c == '/' then .afterSlash else .between) := by
  unfold symbol? at h
  split at h <;> cases h <;> rfl

theorem start_quote {quote : Char} (h : IsQuote quote) :
    start quote = .ok ([], .text quote []) := by
  rcases h with rfl | rfl <;> rfl

/-- A lexeme is read as its token wherever the text behind it does not continue it. -/
theorem scanFrom_lexeme {token : Token} {lexeme : List Char} {tokens : List Token}
    {rest : List Char} (hlexeme : Lexeme token lexeme)
    (hnext : ∀ c ∈ rest.head?, takes token lexeme c = false)
    (hrest : scanFrom .between rest = .ok tokens) :
    scanFrom .between (lexeme ++ rest) = .ok (token :: tokens) := by
  cases hlexeme with
  | int hne hdigits hfits =>
    cases lexeme with
    | nil => exact absurd rfl hne
    | cons c digits =>
      obtain ⟨hdigit, hmore⟩ := List.forall_mem_cons.mp hdigits
      have hopened : step .between c = .ok ([], .number [c]) := by
        simp [step, start, Text.isBlank_of_isDigit hdigit, hdigit]
      have hfinish : finish (.number (digits.reverse ++ [c])) =
          .ok [.int (Text.ofDigits (c :: digits))] := by
        simp [finish, ofNumeral, hfits, Except.map]
      rw [List.cons_append, scanFrom_of_step hopened,
        scanFrom_taken .number _ step_number _ _ _ hmore]
      exact scanFrom_of_finish hfinish hnext hrest
  | ident hword =>
    cases lexeme with
    | nil => exact hword.elim
    | cons c letters =>
      have hopened : step .between c = .ok ([], .word [c]) := by
        simp [step, start, isBlank_of_isWordStart hword.1, isDigit_of_isWordStart hword.1, hword.1]
      have hfinish : finish (.word (letters.reverse ++ [c])) =
          .ok [.ident (String.ofList (c :: letters))] := by simp [finish]
      rw [List.cons_append, scanFrom_of_step hopened,
        scanFrom_taken .word _ step_word _ _ _ hword.2]
      exact scanFrom_of_finish hfinish hnext hrest
  | @str quote letters hquote hfree =>
    have hopened : step .between quote = .ok ([], .text quote []) := start_quote hquote
    have hclosed : step (.text quote (letters.reverse ++ [])) quote =
        .ok ([.str (String.ofList letters)], .between) := by simp [step]
    have hinside : ∀ c ∈ letters, c ≠ quote := fun c hc heq => hfree (heq ▸ hc)
    rw [List.cons_append, scanFrom_of_step hopened, List.append_assoc,
      scanFrom_taken (.text quote) _ (step_text quote) _ _ _ hinside]
    exact scanFrom_of_step_token hclosed hrest
  | @symbol c _ hsymbol =>
    have hopened : step .between c = .ok ([token], _) := start_symbol hsymbol
    refine scanFrom_of_step_token hopened ?_
    by_cases hslash : c = '/'
    · subst hslash
      cases hsymbol
      have hclosed : finish .afterSlash = .ok [] := rfl
      have hopen : ∀ c ∈ rest.head?, Mode.afterSlash.takes c = false := by
        simpa [takes, Mode.takes] using hnext
      exact scanFrom_of_finish hclosed hopen hrest
    · simpa [hslash] using hrest
  | doubleSlash =>
    have hfirst : step .between '/' = .ok ([.slash], .afterSlash) := rfl
    have hsecond : step .afterSlash '/' = .ok ([], .between) := rfl
    exact scanFrom_of_step_token hfirst ((scanFrom_of_step hsecond rest).trans hrest)

theorem scanFrom_of_spells {tokens : List Token} {chars : List Char} (h : Spells tokens chars) :
    scanFrom .between chars = .ok tokens := by
  induction h with
  | nil => rfl
  | @blank c tokens rest hblank _ ih =>
    have hskipped : step .between c = .ok ([], .between) := by simp [step, start, hblank]
    rwa [scanFrom_of_step hskipped]
  | token hlexeme hnext _ ih => exact scanFrom_lexeme hlexeme hnext ih

/-- Scanning reads the texts that spell tokens and no others. -/
theorem scan_eq_ok_iff (source : String) (tokens : List Token) :
    scan source = .ok tokens ↔ Spells tokens source.toList := by
  have hbetween : Mode.between.Valid := trivial
  exact ⟨fun h => spells_of_scanFrom hbetween h, scanFrom_of_spells⟩

end Token

end TensorBench
