import TensorBench.Json.Decode

/-!
Formats in which the records of a configuration can be written. A format tells how its values read
as fields of each kind, and the records say which fields they have, so that a record is described
once for all formats.
-/
namespace TensorBench

/-- Values of a format. `items` reads a list, `members` the members of a record that keeps the ones
it does not know, and `value` reads anything. -/
class Document (ν : Type) where
  string : ν → Except DecodeFault String
  boolean : ν → Except DecodeFault Bool
  word : String → ν → Except DecodeFault Nat
  isNull : ν → Bool
  items : ν → Except DecodeFault (List ν)
  choice : {β : Type} → List (String × β) → ν → Except DecodeFault β
  record : String → List String → ν → Except DecodeFault (Decode.Fields ν)
  members : String → ν → Except DecodeFault (List (String × ν))
  value : ν → Except DecodeFault Json

namespace Document

variable {ν β : Type} [Document ν]

/-- A value that may be null. -/
def optional (decode : ν → Except DecodeFault β) (value : ν) : Except DecodeFault (Option β) :=
  if isNull value then .ok none else (decode value).map some

def list (decode : ν → Except DecodeFault β) (value : ν) : Except DecodeFault (List β) := do
  (← items value).mapM decode

end Document

instance : Document Json where
  string := Decode.string
  boolean := Decode.bool
  word := Decode.word
  isNull
    | .null => true
    | _ => false
  items
    | .arr items => .ok items
    | found => .error (.wrongType found "a sequence")
  choice := Decode.choice
  record := Decode.record
  members kind
    | .obj members => .ok members
    | found => .error (.wrongType found ("struct " ++ kind))
  value json := .ok json.canonical

end TensorBench
