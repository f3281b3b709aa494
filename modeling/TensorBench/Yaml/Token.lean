import TensorBench.Yaml.Scalar

/-!
The tokens of a YAML text. Columns open and close block collections, and the start of a mapping and
the mark of its key are put in front of a key only when the colon behind the key is met; until then
the place of a possible key is remembered, one for each level of flow collections.
-/
namespace TensorBench.Yaml

inductive ScalarStyle where
  | plain
  | literal
  | other
deriving DecidableEq

inductive Token where
  | version (major minor : Nat)
  | tagHandle (handle lead : String)
  | documentStart
  | documentEnd
  | blockSequenceStart
  | blockMappingStart
  | blockEnd
  | flowSequenceStart
  | flowSequenceEnd
  | flowMappingStart
  | flowMappingEnd
  | blockEntry
  | flowEntry
  | key
  | value
  | alias (name : String)
  | anchor (name : String)
  | tag (handle suffix : String)
  | scalar (text : String) (style : ScalarStyle)
deriving DecidableEq

namespace Token

/-- Bytes of a tag, some of them escaped as two hexadecimal digits after a percent sign. -/
def tagBytes (verbatim : Bool) (reversed : List UInt8) :
    List Spot → Option (List UInt8 × List Spot)
  | [] => some (reversed, [])
  | a :: rest =>
      if a.char == '%' then
        match rest with
        | b :: d :: rest =>
            match Text.hexValue? b.char, Text.hexValue? d.char with
            | some high, some low =>
                tagBytes verbatim (UInt8.ofNat (16 * high + low) :: reversed) rest
            | _, _ => none
        | _ => none
      else if isNameChar a.char || ";/?:@&=+$.!~*'()".toList.contains a.char ||
          (verbatim && ",[]".toList.contains a.char) then
        tagBytes verbatim (a.char.toString.toUTF8.toList.reverse ++ reversed) rest
      else some (reversed, a :: rest)

def tagText? (verbatim : Bool) (spots : List Spot) : Option (String × List Spot) := do
  let (reversed, rest) ← tagBytes verbatim [] spots
  let text ← String.fromUTF8? ⟨reversed.reverse.toArray⟩
  return (text, rest)

/-- A handle between exclamation marks, or what may be the start of a local tag. The flag tells
whether there is a closing mark. -/
def handle? : List Spot → Option (String × Bool × List Spot)
  | a :: rest =>
      if a.char != '!' then none
      else
        let name := Spot.takeChars isNameChar rest
        match Spot.dropChars isNameChar rest with
        | b :: after =>
            if b.char == '!' then some (String.ofList ('!' :: name ++ ['!']), true, after)
            else some (String.ofList ('!' :: name), false, b :: after)
        | [] => some (String.ofList ('!' :: name), false, [])
  | [] => none

/-- A tag: verbatim, with a handle, local, or a lone exclamation mark. -/
def readTag? (inFlow : Bool) (spots : List Spot) : Option (Token × List Spot) := do
  let (token, rest) ← match spots with
    | _ :: b :: rest =>
        if b.char == '<' then do
          let (text, rest) ← tagText? true rest
          match rest with
          | close :: rest =>
              if close.char == '>' && text != "" then pure (tag "" text, rest) else none
          | [] => none
        else relative
    | _ => relative
  let ends := Spot.endsWord rest || (inFlow && (rest.head?.map (·.char)) == some ',')
  if ends then return (token, rest) else none
where
  relative : Option (Token × List Spot) := do
    let (handle, closed, rest) ← handle? spots
    let (suffix, rest) ← tagText? false rest
    if closed then
      if suffix = "" then none else return (tag handle suffix, rest)
    else
      let whole := String.ofList (handle.toList.drop 1) ++ suffix
      return (if whole = "" then tag "" "!" else tag "!" whole, rest)

/-- An anchor or an alias after its indicator. -/
def readName? (spots : List Spot) : Option (String × List Spot) :=
  let name := Spot.takeChars isNameChar spots
  let rest := Spot.dropChars isNameChar spots
  let ends := Spot.endsWord rest ||
    (rest.head?.map fun spot => "?:,]\x7d%@`".toList.contains spot.char) == some true
  if name.isEmpty || !ends then none else some (String.ofList name, rest)

/-- One part of a version, of at most nine digits. -/
def versionPart? (spots : List Spot) : Option (Nat × List Spot) :=
  let digits := Spot.takeChars Text.isDigit spots
  if digits.isEmpty || 9 < digits.length then none
  else some (Text.ofDigits digits, Spot.dropChars Text.isDigit spots)

/-- A directive after its percent sign, with the line it stands on. -/
def readDirective? (spots : List Spot) : Option (Token × List Spot) := do
  let name := String.ofList (Spot.takeChars isNameChar spots)
  let rest := Spot.dropChars isNameChar spots
  if !Spot.endsWord rest then none
  else
    let rest := Spot.dropChars isSpace rest
    match name with
    | "YAML" => do
        let (major, rest) ← versionPart? rest
        match rest with
        | dot :: rest =>
            if dot.char != '.' then none
            else do
              let (minor, rest) ← versionPart? rest
              return (version major minor, ← Spot.afterLine? rest)
        | [] => none
    | "TAG" => do
        let (handle, closed, rest) ← handle? rest
        if !(closed || handle = "!") || !(rest.head?.map fun spot => isSpace spot.char).getD false
        then none
        else do
          let (lead, rest) ← tagText? true (Spot.dropChars isSpace rest)
          if lead = "" || !Spot.endsWord rest then none
          else return (tagHandle handle lead, ← Spot.afterLine? rest)
    | _ => none

end Token

/-- A place where a key may start: the number of tokens before it and its first character. A key is
required where a line of a block mapping starts. -/
structure PossibleKey where
  position : Nat
  spot : Spot
  required : Bool

/-- Tokens found so far. `columns` are those of the open block collections, innermost first; `key`
is the possible key of the innermost level and `outer` those of the flow collections around it. -/
structure Scanned where
  tokens : Array Token
  columns : List Nat
  keyAllowed : Bool
  key : Option PossibleKey
  outer : List (Option PossibleKey)

namespace Scanned

def initial : Scanned := ⟨#[], [], true, none, []⟩

def inFlow (s : Scanned) : Bool := !s.outer.isEmpty

/-- The column right of which a scalar goes on in further lines. -/
def margin (s : Scanned) : Nat :=
  match s.columns with
  | [] => 0
  | column :: _ => column + 1

def push (s : Scanned) (token : Token) : Scanned := { s with tokens := s.tokens.push token }

def insertAt (s : Scanned) (position : Nat) (token : Token) : Scanned :=
  { s with tokens :=
      s.tokens.extract 0 position ++ #[token] ++ s.tokens.extract position s.tokens.size }

/-- Open a block collection at a column, unless one is open there or further right. -/
def openAt (s : Scanned) (column : Nat) (position : Nat) (token : Token) : Scanned :=
  if s.inFlow || !(match s.columns with | [] => true | open_ :: _ => open_ < column) then s
  else { s.insertAt position token with columns := column :: s.columns }

def closeColumns (leftmost : Nat) : List Nat → Array Token → List Nat × Array Token
  | [], tokens => ([], tokens)
  | column :: rest, tokens =>
      if leftmost < column then closeColumns leftmost rest (tokens.push .blockEnd)
      else (column :: rest, tokens)

/-- Close the block collections right of a column. -/
def closeRightOf (s : Scanned) (column : Nat) : Scanned :=
  if s.inFlow then s
  else
    let (columns, tokens) := closeColumns column s.columns s.tokens
    { s with columns, tokens }

/-- Close all block collections. -/
def closeAll (s : Scanned) : Scanned :=
  if s.inFlow then s
  else { s with columns := [], tokens := s.tokens ++ s.columns.toArray.map fun _ => .blockEnd }

/-- Forget a possible key, which must not be one that is required. -/
def forgetKey? (s : Scanned) : Option Scanned :=
  match s.key with
  | some key => if key.required then none else some { s with key := none }
  | none => some s

/-- Remember a possible key that starts here. -/
def saveKey? (s : Scanned) (spot : Spot) : Option Scanned :=
  if s.keyAllowed then
    s.forgetKey?.map fun s =>
      let required := !s.inFlow && s.columns.head? == some spot.column
      { s with key := some ⟨s.tokens.size, spot, required⟩ }
  else some s

/-- A key is on one line and at most 1024 characters long. -/
def freshKey? (spot : Spot) : Option PossibleKey → Option (Option PossibleKey)
  | none => some none
  | some key =>
      if key.spot.line < spot.line || key.spot.index + 1024 < spot.index then
        if key.required then none else some none
      else some (some key)

/-- Forget the possible keys that cannot be keys any more. -/
def dropStale? (s : Scanned) (spot : Spot) : Option Scanned := do
  let key ← freshKey? spot s.key
  let outer ← s.outer.mapM (freshKey? spot)
  return { s with key, outer }

/-- Pass over blanks, comments and breaks. Tabs only count as blanks where no key may start, and a
break outside flow collections allows a key. -/
def skipFiller (inFlow : Bool) : Bool → Bool → List Spot → Bool × List Spot
  | keyAllowed, _, [] => (keyAllowed, [])
  | keyAllowed, inComment, spot :: rest =>
      if isBreak spot.char then skipFiller inFlow (keyAllowed || !inFlow) false rest
      else if inComment then skipFiller inFlow keyAllowed true rest
      else if spot.char == ' ' || (spot.char == '\t' && (inFlow || !keyAllowed)) then
        skipFiller inFlow keyAllowed false rest
      else if spot.char == '#' then skipFiller inFlow keyAllowed true rest
      else (keyAllowed, spot :: rest)

/-- A token that ends whatever was open in block style. -/
def atMargin? (s : Scanned) (token : Token) : Option Scanned := do
  let s ← s.closeAll.forgetKey?
  return { s with keyAllowed := false }.push token

def openFlow? (s : Scanned) (spot : Spot) (token : Token) : Option Scanned := do
  let s ← s.saveKey? spot
  return { s with outer := s.key :: s.outer, key := none, keyAllowed := true }.push token

def closeFlow? (s : Scanned) (token : Token) : Option Scanned := do
  let s ← s.forgetKey?
  let s := match s.outer with
    | key :: outer => { s with key := key, outer := outer }
    | [] => s
  return { s with keyAllowed := false }.push token

def flowEntry? (s : Scanned) : Option Scanned := do
  let s ← s.forgetKey?
  return { s with keyAllowed := true }.push .flowEntry

def blockEntry? (s : Scanned) (spot : Spot) : Option Scanned := do
  if !s.inFlow && !s.keyAllowed then none
  else
    let s ← (s.openAt spot.column s.tokens.size .blockSequenceStart).forgetKey?
    return { s with keyAllowed := true }.push .blockEntry

def key? (s : Scanned) (spot : Spot) : Option Scanned := do
  if !s.inFlow && !s.keyAllowed then none
  else
    let s ← (s.openAt spot.column s.tokens.size .blockMappingStart).forgetKey?
    return { s with keyAllowed := !s.inFlow }.push .key

/-- The colon makes the possible key before it a key; without one it stands for an empty key. -/
def value? (s : Scanned) (spot : Spot) : Option Scanned :=
  match s.key with
  | some key =>
      let s := (s.insertAt key.position .key).openAt key.spot.column key.position .blockMappingStart
      some ({ s with key := none, keyAllowed := false }.push .value)
  | none =>
      if s.inFlow then some ({ s with keyAllowed := false }.push .value)
      else if s.keyAllowed then
        some ({ s.openAt spot.column s.tokens.size .blockMappingStart with
          keyAllowed := true }.push .value)
      else none

/-- A token that may be a key or start one. -/
def content? (s : Scanned) (spot : Spot) (token : Token) : Option Scanned := do
  let s ← s.saveKey? spot
  return { s with keyAllowed := false }.push token

def block? (s : Scanned) (folding : Scalar.Folding) (rest : List Spot) :
    Option (Scanned × List Spot) := do
  let s ← s.forgetKey?
  let (text, rest) ← Scalar.block folding s.columns.head? rest
  let style := if folding then .other else .literal
  return ({ s with keyAllowed := true }.push (.scalar text style), rest)

/-- Whether a plain scalar starts here. -/
def startsPlain (inFlow : Bool) (c : Char) (rest : List Spot) : Bool :=
  let indicators := "-?:,[]\x7b\x7d#&*!|>'\"%@`".toList
  !(isSpace c || isBreak c || indicators.contains c) ||
    (c == '-' && !(rest.head?.map fun spot => isSpace spot.char).getD false) ||
    (!inFlow && (c == '?' || c == ':') && !Spot.endsWord rest)

def plain? (s : Scanned) (spot : Spot) (spots : List Spot) : Option (Scanned × List Spot) := do
  let s ← s.saveKey? spot
  let (text, broken, rest) ← Scalar.plain s.inFlow s.margin [] .none spots
  return ({ s with keyAllowed := broken }.push (.scalar text .plain), rest)

/-- The next token, which starts at the head of the spots. -/
def next? (s : Scanned) (spot : Spot) (rest : List Spot) : Option (Scanned × List Spot) :=
  let spots := spot :: rest
  let c := spot.char
  let alone := Spot.endsWord rest
  if spot.column == 0 && c == '%' then do
    let (token, rest) ← Token.readDirective? rest
    return (← s.atMargin? token, rest)
  else if Spot.isMarker '-' spots then do return (← s.atMargin? .documentStart, rest.drop 2)
  else if Spot.isMarker '.' spots then do return (← s.atMargin? .documentEnd, rest.drop 2)
  else if c == '[' then do return (← s.openFlow? spot .flowSequenceStart, rest)
  else if c == '\x7b' then do return (← s.openFlow? spot .flowMappingStart, rest)
  else if c == ']' then do return (← s.closeFlow? .flowSequenceEnd, rest)
  else if c == '\x7d' then do return (← s.closeFlow? .flowMappingEnd, rest)
  else if c == ',' then do return (← s.flowEntry?, rest)
  else if c == '-' && alone then do return (← s.blockEntry? spot, rest)
  else if c == '?' && (s.inFlow || alone) then do return (← s.key? spot, rest)
  else if c == ':' && (s.inFlow || alone) then do return (← s.value? spot, rest)
  else if c == '*' then do
    let (name, rest) ← Token.readName? rest
    return (← s.content? spot (.alias name), rest)
  else if c == '&' then do
    let (name, rest) ← Token.readName? rest
    return (← s.content? spot (.anchor name), rest)
  else if c == '!' then do
    let (token, rest) ← Token.readTag? s.inFlow spots
    return (← s.content? spot token, rest)
  else if c == '|' && !s.inFlow then s.block? false rest
  else if c == '>' && !s.inFlow then s.block? true rest
  else if c == '\'' then do
    let (text, rest) ← Scalar.single [] .none rest
    return (← s.content? spot (.scalar text .other), rest)
  else if c == '"' then do
    let (text, rest) ← Scalar.double [] .none .none rest
    return (← s.content? spot (.scalar text .other), rest)
  else if startsPlain s.inFlow c rest then s.plain? spot spots
  else none

/-- The tokens of the whole text. Every step passes over at least one character. -/
def scan? (s : Scanned) : Nat → List Spot → Option (List Token)
  | 0, _ => none
  | steps + 1, spots =>
      let (keyAllowed, rest) := skipFiller s.inFlow s.keyAllowed false spots
      let s := { s with keyAllowed }
      match rest with
      | [] => do
          let s ← s.closeAll.forgetKey?
          return s.tokens.toList
      | spot :: rest => do
          let s ← s.dropStale? spot
          let (s, rest) ← (s.closeRightOf spot.column).next? spot rest
          scan? s steps rest

end Scanned

def Token.ofText? (text : String) : Option (List Token) := do
  let spots ← Spot.ofText? text
  Scanned.initial.scan? (spots.length + 1) spots

end TensorBench.Yaml
