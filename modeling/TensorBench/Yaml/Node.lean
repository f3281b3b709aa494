import TensorBench.NameTable
import TensorBench.Yaml.Token

/-!
The nodes of a YAML document. Aliases are replaced by the nodes they stand for, and a text must hold
exactly one document.
-/
namespace TensorBench.Yaml

/-- `enclosing` is an alias of a node around it. -/
inductive Node where
  | scalar (tag : Option String) (style : ScalarStyle) (text : String)
  | sequence (tag : Option String) (items : List Node)
  | mapping (tag : Option String) (entries : List (Node × Node))
  | enclosing
deriving Inhabited

namespace Node

/-- What is left of the tokens, and what is known of the document: the meaning of the tag handles,
the number of the last node with each anchor, and the anchored nodes that are complete. -/
structure Progress where
  tokens : List Token
  handles : List (String × String)
  anchors : NameTable Nat
  nodes : Array (Option Node)

abbrev Reader := StateT Progress Option

def peek : Reader (Option Token) := do return (← get).tokens.head?

def skip : Reader Unit := modify fun p => { p with tokens := p.tokens.drop 1 }

/-- The next token is one of the given ones. -/
def nextIs (choices : List Token) : Reader Bool := do
  match ← peek with
  | some token => return choices.contains token
  | none => return false

/-- Pass over a token, if it comes next. -/
def accept (token : Token) : Reader Bool := do
  let found ← nextIs [token]
  if found then skip
  return found

def expect (token : Token) : Reader Unit := do
  if !(← accept token) then failure

def emptyScalar : Node := .scalar none .plain ""

/-- Open the node of an anchor. -/
def openAnchor (name : String) : Reader Nat := do
  let p ← get
  set { p with anchors := p.anchors.insert name p.nodes.size, nodes := p.nodes.push none }
  return p.nodes.size

def closeAnchor (number : Option Nat) (node : Node) : Reader Unit :=
  match number with
  | none => pure ()
  | some number => modify fun p => { p with nodes := p.nodes.setIfInBounds number (some node) }

def ofAlias (name : String) : Reader Node := do
  let p ← get
  match p.anchors.get? name with
  | none => failure
  | some number => return (p.nodes.getD number none).getD .enclosing

/-- The full form of a tag. -/
def resolveTag (handle suffix : String) : Reader String := do
  if handle = "" then return suffix
  match (← get).handles.find? (·.1 == handle) with
  | some (_, lead) => return lead ++ suffix
  | none => failure

/-- The anchor and the tag in front of a node, in either order. -/
def properties : Reader (Option Nat × Option String) := do
  match ← peek with
  | some (.anchor name) =>
      skip
      let number ← openAnchor name
      match ← peek with
      | some (.tag handle suffix) =>
          skip
          return (some number, some (← resolveTag handle suffix))
      | _ => return (some number, none)
  | some (.tag handle suffix) =>
      skip
      match ← peek with
      | some (.anchor name) =>
          skip
          let number ← openAnchor name
          return (some number, some (← resolveTag handle suffix))
      | _ => return (none, some (← resolveTag handle suffix))
  | _ => return (none, none)

mutual
/-- A node. Block collections are only taken where `block` holds, and a sequence without a margin of
its own where `unindented` holds. -/
def read (block unindented : Bool) : Nat → Reader Node
  | 0 => failure
  | steps + 1 => do
      match ← peek with
      | some (.alias name) =>
          skip
          ofAlias name
      | _ =>
          let (anchor, tag) ← properties
          let node ← match ← peek with
            | some (.scalar text style) => do
                skip
                pure (.scalar (if tag = some "!" then none else tag) style text)
            | some .blockEntry =>
                if unindented then do pure (.sequence tag (← readUnindented [] steps))
                else absent anchor tag
            | some .flowSequenceStart => do
                skip
                pure (.sequence tag (← readFlowItems [] steps))
            | some .flowMappingStart => do
                skip
                pure (.mapping tag (← readFlowEntries [] steps))
            | some .blockSequenceStart =>
                if block then do
                  skip
                  pure (.sequence tag (← readItems [] steps))
                else absent anchor tag
            | some .blockMappingStart =>
                if block then do
                  skip
                  pure (.mapping tag (← readEntries [] steps))
                else absent anchor tag
            | _ => absent anchor tag
          closeAnchor anchor node
          return node

/-- An anchor or a tag alone stands for an empty scalar. -/
def absent (anchor : Option Nat) (tag : Option String) : Reader Node :=
  if anchor.isSome || tag.isSome then pure (.scalar tag .plain "") else failure

/-- A node, or an empty scalar where one of the given tokens comes next. -/
def readUnless (ends : List Token) (block unindented : Bool) : Nat → Reader Node
  | 0 => failure
  | steps + 1 => do
      if ← nextIs ends then return emptyScalar
      read block unindented steps

/-- The items of a block sequence. -/
def readItems (reversed : List Node) : Nat → Reader (List Node)
  | 0 => failure
  | steps + 1 => do
      if ← accept .blockEntry then
        let item ← readUnless [.blockEntry, .blockEnd] true false steps
        readItems (item :: reversed) steps
      else
        expect .blockEnd
        return reversed.reverse

/-- The items of a sequence that stands at the margin of the mapping around it. -/
def readUnindented (reversed : List Node) : Nat → Reader (List Node)
  | 0 => failure
  | steps + 1 => do
      if ← accept .blockEntry then
        let item ← readUnless [.blockEntry, .key, .value, .blockEnd] true false steps
        readUnindented (item :: reversed) steps
      else return reversed.reverse

/-- The entries of a block mapping. -/
def readEntries (reversed : List (Node × Node)) : Nat → Reader (List (Node × Node))
  | 0 => failure
  | steps + 1 => do
      if ← accept .key then
        let ends := [Token.key, .value, .blockEnd]
        let key ← readUnless ends true true steps
        let value ← if ← accept .value then readUnless ends true true steps else pure emptyScalar
        readEntries ((key, value) :: reversed) steps
      else
        expect .blockEnd
        return reversed.reverse

/-- The items of a flow sequence, from one that may come next on. An item may be a mapping of one
entry, whose key is not empty. -/
def readFlowItems (reversed : List Node) : Nat → Reader (List Node)
  | 0 => failure
  | steps + 1 => do
      if ← accept .flowSequenceEnd then return reversed.reverse
      if !reversed.isEmpty then expect .flowEntry
      if ← accept .key then
        let key ← read false false steps
        let value ← if ← accept .value then
            readUnless [.flowEntry, .flowSequenceEnd] false false steps
          else pure emptyScalar
        readFlowItems (.mapping none [(key, value)] :: reversed) steps
      else if ← accept .flowSequenceEnd then return reversed.reverse
      else
        let item ← read false false steps
        readFlowItems (item :: reversed) steps

/-- The entries of a flow mapping, from one that may come next on. -/
def readFlowEntries (reversed : List (Node × Node)) : Nat → Reader (List (Node × Node))
  | 0 => failure
  | steps + 1 => do
      if ← accept .flowMappingEnd then return reversed.reverse
      if !reversed.isEmpty then expect .flowEntry
      if ← accept .key then
        let key ← readUnless [.value, .flowEntry, .flowMappingEnd] false false steps
        let value ← if ← accept .value then
            readUnless [.flowEntry, .flowMappingEnd] false false steps
          else pure emptyScalar
        readFlowEntries ((key, value) :: reversed) steps
      else if ← accept .flowMappingEnd then return reversed.reverse
      else
        let key ← read false false steps
        readFlowEntries ((key, emptyScalar) :: reversed) steps
end

/-- The directives in front of a document. A version is given at most once, and so is the meaning of
each handle. -/
def directives (versioned : Bool) (handles : List (String × String)) :
    List Token → Option (Bool × List (String × String) × List Token)
  | .version major minor :: rest =>
      if versioned || major != 1 || !(minor == 1 || minor == 2) then none
      else directives true handles rest
  | .tagHandle handle lead :: rest =>
      if handles.any (·.1 == handle) then none
      else directives versioned (handles ++ [(handle, lead)]) rest
  | rest => some (versioned, handles, rest)

def standardHandles : List (String × String) := [("!", "!"), ("!!", "tag:yaml.org,2002:")]

/-- The only document of a text. A text without directives need not mark its start, and no document
is empty. Two calls of the reader in a row without a token between them are followed by one, which
bounds their number. -/
def ofTokens? (tokens : List Token) : Option Node := do
  let (versioned, handles, rest) ← directives false [] tokens
  let rest ← match rest with
    | .documentStart :: rest => some rest
    | rest => if versioned || !handles.isEmpty then none else some rest
  let (node, after) ← (read true false (4 * tokens.length + 4)).run
    ⟨rest, handles ++ standardHandles, .empty, #[]⟩
  if after.tokens.all (· == .documentEnd) then some node else none

def ofText? (text : String) : Option Node := do
  ofTokens? (← Token.ofText? text)

end Node

end TensorBench.Yaml
