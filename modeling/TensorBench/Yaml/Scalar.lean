import TensorBench.Yaml.Spot

/-!
The written forms of scalars: plain, quoted, and blocks of lines. In the first two a line break is
folded: a single one becomes a space, and of several the first one is dropped.
-/
namespace TensorBench.Yaml

/-- Blanks and breaks that only count if more of the scalar follows. Blanks are held in reverse, and
so are the breaks after the first one; blanks next to a break do not count. -/
inductive Gap where
  | blanks (reversed : List Char)
  | lines (first : Option Char) (reversed : List Char)

namespace Gap

def none : Gap := blanks []

/-- The characters a gap stands for inside a scalar, in reverse. -/
def folded : Gap → List Char
  | blanks reversed => reversed
  | lines (some first) reversed =>
      if first != '\n' then reversed ++ [first]
      else if reversed.isEmpty then [' ']
      else reversed
  | lines Option.none reversed => reversed

def addSpace (c : Char) : Gap → Gap
  | blanks reversed => blanks (c :: reversed)
  | gap => gap

def addBreak (c : Char) : Gap → Gap
  | blanks _ => lines (some c) []
  | lines first reversed => lines first (c :: reversed)

def hasBreak : Gap → Bool
  | blanks _ => false
  | lines .. => true

end Gap

namespace Scalar

def text (reversed : List Char) : String := String.ofList reversed.reverse

def isFlowIndicator (c : Char) : Bool :=
  c == ',' || c == '[' || c == ']' || c == '\x7b' || c == '\x7d'

/-- A colon here would be mistaken for the start of a value. -/
def isStrayColon : List Spot → Bool
  | a :: b :: _ => a.char == ':' && (isFlowIndicator b.char || b.char == '?')
  | _ => false

/-- The scalar ends before its next character, which is not part of a gap. -/
def endsPlain (inFlow : Bool) : List Spot → Bool
  | [] => true
  | spot :: rest =>
      (spot.char == ':' && Spot.endsWord rest) || (inFlow && isFlowIndicator spot.char)

/-- A gap is over, and the scalar ends with it. -/
def endsAfterGap (inFlow : Bool) (margin : Nat) (spots : List Spot) : Bool :=
  match spots with
  | [] => true
  | spot :: _ =>
      (!inFlow && spot.column < margin) || Spot.isDocumentMarker spots || spot.char == '#'

/-- A plain scalar whose lines after the first stand at `margin` or to the right of it. The flag
tells whether a break follows the scalar. -/
def plain (inFlow : Bool) (margin : Nat) (reversed : List Char) (gap : Gap) :
    List Spot → Option (String × Bool × List Spot)
  | [] => some (text reversed, gap.hasBreak, [])
  | spot :: rest =>
      let c := spot.char
      if isSpace c then
        if gap.hasBreak && spot.column < margin && c == '\t' then none
        else plain inFlow margin reversed (gap.addSpace c) rest
      else if isBreak c then plain inFlow margin reversed (gap.addBreak c) rest
      else
        let inGap := match gap with
          | .blanks [] => false
          | _ => true
        if inGap && endsAfterGap inFlow margin (spot :: rest) then
          some (text reversed, gap.hasBreak, spot :: rest)
        else if inFlow && isStrayColon (spot :: rest) then none
        else if endsPlain inFlow (spot :: rest) then
          some (text reversed, gap.hasBreak, spot :: rest)
        else plain inFlow margin (c :: (gap.folded ++ reversed)) .none rest

/-- A scalar in single quotes, after the opening one. -/
def single (reversed : List Char) (gap : Gap) : List Spot → Option (String × List Spot)
  | [] => none
  | spot :: rest =>
      let c := spot.char
      if isSpace c then single reversed (gap.addSpace c) rest
      else if isBreak c then single reversed (gap.addBreak c) rest
      else if Spot.isDocumentMarker (spot :: rest) then none
      else
        let reversed := gap.folded ++ reversed
        if c != '\'' then single (c :: reversed) .none rest
        else match rest with
          | next :: after =>
              if next.char == '\'' then single ('\'' :: reversed) .none after
              else some (text reversed, next :: after)
          | [] => some (text reversed, [])

def escape? : Char → Option Char
  | '0' => some '\x00'
  | 'a' => some '\x07'
  | 'b' => some '\x08'
  | 't' => some '\t'
  | '\t' => some '\t'
  | 'n' => some '\n'
  | 'v' => some '\x0b'
  | 'f' => some '\x0c'
  | 'r' => some '\r'
  | 'e' => some '\x1b'
  | ' ' => some ' '
  | '"' => some '"'
  | '/' => some '/'
  | '\\' => some '\\'
  | 'N' => some '\u0085'
  | '_' => some '\u00a0'
  | 'L' => some '\u2028'
  | 'P' => some '\u2029'
  | _ => none

/-- The number of hexadecimal digits after the letter of an escape. -/
def escapeWidth? : Char → Option Nat
  | 'x' => some 2
  | 'u' => some 4
  | 'U' => some 8
  | _ => none

def scalarValue? (code : Nat) : Option Char :=
  if (0xd800 ≤ code && code ≤ 0xdfff) || 0x10ffff < code then none else some (Char.ofNat code)

/-- What a scalar in double quotes is in the middle of: nothing, an escape, or an escape with some
hexadecimal digits to come. -/
inductive Escape where
  | none
  | letter
  | digits (left code : Nat)

/-- A scalar in double quotes, after the opening one. A break after a backslash leaves no trace, nor
do the blanks of the next line. -/
def double (reversed : List Char) (gap : Gap) (escape : Escape) :
    List Spot → Option (String × List Spot)
  | [] => none
  | spot :: rest =>
      let c := spot.char
      match escape with
      | .digits left code =>
          match Text.hexValue? c with
          | none => none
          | some digit =>
              let code := 16 * code + digit
              if 1 < left then double reversed gap (.digits (left - 1) code) rest
              else match scalarValue? code with
                | some c => double (c :: reversed) gap .none rest
                | none => none
      | .letter =>
          if isBreak c then double reversed (.lines none []) .none rest
          else match escapeWidth? c, escape? c with
            | some width, _ => double reversed gap (.digits width 0) rest
            | none, some c => double (c :: reversed) gap .none rest
            | none, none => none
      | .none =>
          if isSpace c then double reversed (gap.addSpace c) .none rest
          else if isBreak c then double reversed (gap.addBreak c) .none rest
          else if Spot.isDocumentMarker (spot :: rest) then none
          else if c == '"' then some (text (gap.folded ++ reversed), rest)
          else if c == '\\' then double (gap.folded ++ reversed) Gap.none .letter rest
          else double (c :: (gap.folded ++ reversed)) Gap.none .none rest

/-- How the breaks at the end of a block are kept: none of them, the first one, or all. -/
inductive Chomping where
  | strip
  | clip
  | keep
deriving DecidableEq

def chomping? (c : Char) : Option Chomping :=
  if c == '-' then some .strip else if c == '+' then some .keep else none

def increment? (c : Char) : Option Nat :=
  if Text.isDigit c && c != '0' then some (Text.digitValue c) else none

/-- The indicators in the head of a block, in either order. -/
def blockHead : List Spot → Chomping × Option Nat × List Spot
  | [] => (.clip, none, [])
  | a :: rest =>
      match chomping? a.char, increment? a.char, rest with
      | some chomping, _, b :: rest' =>
          match increment? b.char with
          | some n => (chomping, some n, rest')
          | none => (chomping, none, rest)
      | some chomping, _, [] => (chomping, none, [])
      | none, some n, b :: rest' =>
          match chomping? b.char with
          | some chomping => (chomping, some n, rest')
          | none => (.clip, some n, rest)
      | none, some n, [] => (.clip, some n, [])
      | none, none, _ => (.clip, none, a :: rest)

/-- The breaks of empty lines, in reverse, and the widest of their margins. Up to `margin` spaces
are passed over at the start of each line, or all of them where it is not known yet; a tab among
them is refused. -/
def emptyLines (margin : Option Nat) (breaks : List Char) (widest : Nat) :
    List Spot → Option (List Char × Nat × List Spot)
  | [] => some (breaks, widest, [])
  | spot :: rest =>
      let inMargin := match margin with
        | none => true
        | some n => spot.column < n
      if inMargin && spot.char == ' ' then
        emptyLines margin breaks (max widest (spot.column + 1)) rest
      else if inMargin && spot.char == '\t' then none
      else if isBreak spot.char then emptyLines margin (spot.char :: breaks) widest rest
      else some (breaks, widest, spot :: rest)

/-- Whether lines of a block are folded. -/
abbrev Folding := Bool

/-- The break before a line and the breaks of empty lines before it, joined to the text in reverse.
A folded block joins neighbouring lines that do not start with a blank. -/
def joinLine (folding : Folding) (reversed : List Char) (lead : Option Char) (breaks : List Char)
    (besideBlank : Bool) : List Char :=
  match lead with
  | some c =>
      if folding && c == '\n' && !besideBlank then
        if breaks.isEmpty then ' ' :: reversed else breaks ++ reversed
      else breaks ++ c :: reversed
  | none => breaks ++ reversed

/-- The lines of a block. `lead` is the break of the line before and `breaks` those of empty lines
after it; `blank` tells whether that line started with a blank. Every step passes over a line. -/
def blockLines (folding : Folding) (margin : Nat) (reversed : List Char) (lead : Option Char)
    (breaks : List Char) (blank : Bool) :
    Nat → List Spot → Option (List Char × Option Char × List Char × List Spot)
  | 0, spots => some (reversed, lead, breaks, spots)
  | _ + 1, [] => some (reversed, lead, breaks, [])
  | steps + 1, spot :: rest =>
      if spot.column != margin then some (reversed, lead, breaks, spot :: rest)
      else
        let startsBlank := isSpace spot.char
        let joined := joinLine folding reversed lead breaks (blank || startsBlank)
        let line := Spot.takeChars (fun c => !isBreak c) (spot :: rest)
        let (lead, after) := match Spot.dropChars (fun c => !isBreak c) (spot :: rest) with
          | [] => (none, [])
          | lineBreak :: after => (some lineBreak.char, after)
        match emptyLines (some margin) [] 0 after with
        | none => none
        | some (breaks, _, after) =>
            blockLines folding margin (line.reverse ++ joined) lead breaks startsBlank steps after

/-- A block of lines after its indicator, inside a collection whose column is `parent`. -/
def block (folding : Folding) (parent : Option Nat) (spots : List Spot) :
    Option (String × List Spot) := do
  let (chomping, increment, rest) := blockHead spots
  let rest ← Spot.afterLine? rest
  let given := increment.map fun n => parent.getD 0 + n
  let (breaks, widest, rest) ← emptyLines given [] 0 rest
  let least := match parent with
    | some column => max (column + 1) 1
    | none => 1
  let margin := given.getD (max widest least)
  let (reversed, lead, breaks, rest) ←
    blockLines folding margin [] none breaks false (rest.length + 1) rest
  let ending := match chomping with
    | .strip => []
    | .clip => lead.toList
    | .keep => breaks ++ lead.toList
  return (text (ending ++ reversed), rest)

end Scalar

end TensorBench.Yaml
