import TensorBench.Json.Basic
import TensorBench.Json.Writer
import TensorBench.Words

/-!
Reading domain values out of JSON. A record is written as an object, whose unknown members are
ignored, or as the list of its fields in their declared order.
-/
namespace TensorBench

inductive DecodeFault where
  | wrongType (found : Json) (expected : String)
  | outOfRange (found : Json) (expected : String)
  | unknownName (name : String) (expected : List String)
  | missingField (name : String)
  | duplicateField (name : String)
  | wrongLength (length : Nat) (expected : String)
  | noAlternative (expected : String)
  | rejected (message : String)
deriving Inhabited

namespace DecodeFault

def ticked (text : String) : String := "`" ++ text ++ "`"

/-- What a value is called in a complaint about it. -/
def describe : Json → String
  | .null => "null"
  | .bool value => "boolean " ++ ticked (if value then "true" else "false")
  | .int value => "integer " ++ ticked (toString value)
  | .str value => "string " ++ Text.quoted value
  | .arr _ => "sequence"
  | .obj _ => "map"
  | number => "floating point " ++ ticked (Json.atomText number)

def oneOf : List String → String
  | [] => "there are no variants"
  | [name] => "expected " ++ ticked name
  | [first, second] => "expected " ++ ticked first ++ " or " ++ ticked second
  | names => "expected one of " ++ ", ".intercalate (names.map ticked)

def message : DecodeFault → String
  | wrongType found expected => "invalid type: " ++ describe found ++ ", expected " ++ expected
  | outOfRange found expected => "invalid value: " ++ describe found ++ ", expected " ++ expected
  | unknownName name expected => "unknown variant " ++ ticked name ++ ", " ++ oneOf expected
  | missingField name => "missing field " ++ ticked name
  | duplicateField name => "duplicate field " ++ ticked name
  | wrongLength length expected =>
      "invalid length " ++ toString length ++ ", expected " ++ expected
  | noAlternative expected => "data did not match any variant of untagged enum " ++ expected
  | rejected message => message

end DecodeFault

/-- The reading of a value of the domain from JSON. -/
abbrev Decoder (β : Type) := Json → Except DecodeFault β

namespace Decode

def string : Decoder String
  | .str value => .ok value
  | found => .error (.wrongType found "a string")

/-- A path of the file system. -/
def path : Decoder String
  | .str value => .ok value
  | found => .error (.wrongType found "path string")

def bool : Decoder Bool
  | .bool value => .ok value
  | found => .error (.wrongType found "a boolean")

/-- A natural number below the word limit, written as an integer numeral. -/
def word (kind : String) : Decoder Nat
  | .int value =>
      if 0 ≤ value && value < Words.limit then .ok value.toNat
      else .error (.outOfRange (.int value) kind)
  | found => .error (.wrongType found kind)

def size : Decoder Nat := word "usize"

def signed : Decoder Int
  | .int value =>
      match Words.signed? value with
      | some value => .ok value
      | none => .error (.outOfRange (.int value) "i64")
  | found => .error (.wrongType found "i64")

/-- A single precision number; an integer numeral is rounded directly. -/
def single : Decoder Binary32
  | .int value =>
      .ok (if value < 0 then (Binary32.ofNat (-value).toNat).neg else Binary32.ofNat value.toNat)
  | .double value => .ok value.toSingle
  | .single value => .ok value
  | found => .error (.wrongType found "f32")

def optional {β : Type} (decode : Decoder β) : Decoder (Option β)
  | .null => .ok none
  | value => (decode value).map some

def list {β : Type} (decode : Decoder β) : Decoder (List β)
  | .arr items => items.mapM decode
  | found => .error (.wrongType found "a sequence")

/-- A table from the members of an object; every value must be readable, the last of a repeated name
counts. -/
def table {β : Type} (decode : Decoder β) : Decoder (NameTable β)
  | .obj members => do
      let pairs ← members.mapM fun (name, value) => do return (name, ← decode value)
      return NameTable.ofList pairs
  | found => .error (.wrongType found "a map")

/-- One of a list of names. -/
def name {β : Type} (choices : List (String × β)) : Decoder β
  | .str text =>
      match choices.find? (·.1 == text) with
      | some (_, value) => .ok value
      | none => .error (.unknownName text (choices.map (·.1)))
  | found => .error (.wrongType found "string or map")

/-- One of a list of names, alone or as the only member of an object, with the value null. -/
def choice {β : Type} (choices : List (String × β)) : Decoder β
  | .obj [(text, .null)] => name choices (.str text)
  | .obj [(text, value)] => do
      discard (name choices (.str text))
      throw (.wrongType value "unit")
  | .obj members => .error (.outOfRange (.obj members) "map with a single key")
  | value => name choices value

/-- The fields of a record in some format. In a list the fields are told by their positions
alone. -/
structure Fields (ν : Type) where
  members : List (String × ν)
  positional : Bool

namespace Fields

variable {ν β : Type}

def find? (fields : Fields ν) (name : String) : Option ν :=
  (fields.members.find? (·.1 == name)).map (·.2)

def required (fields : Fields ν) (name : String) (decode : ν → Except DecodeFault β) :
    Except DecodeFault β :=
  match fields.find? name with
  | some value => decode value
  | none => .error (.missingField name)

/-- A field that may be missing and then has a default value. -/
def defaulted (fields : Fields ν) (name : String) (decode : ν → Except DecodeFault β) (value : β) :
    Except DecodeFault β :=
  match fields.find? name with
  | some value => decode value
  | none => .ok value

/-- A field whose absence from an object means no value; in a list it has to be present. -/
def possible (fields : Fields ν) (name : String) (decode : ν → Except DecodeFault (Option β)) :
    Except DecodeFault (Option β) :=
  match fields.find? name with
  | some value => decode value
  | none =>
      if fields.positional then .error (.wrongLength fields.members.length "more elements")
      else .ok none

end Fields

/-- The first name that occurs a second time. -/
def repeated? : List String → Option String
  | [] => none
  | name :: rest => if rest.contains name then some name else repeated? rest

/-- The known members of an object, none of which may be repeated. -/
def ofMembers {ν : Type} (names : List String) (members : List (String × ν)) :
    Except DecodeFault (Fields ν) :=
  let known := members.filter fun member => names.contains member.1
  match repeated? (known.map (·.1)) with
  | some name => .error (.duplicateField name)
  | none => .ok ⟨known, false⟩

def ofItems (names : List String) (items : List Json) : Except DecodeFault (Fields Json) :=
  if names.length < items.length then
    .error (.wrongLength items.length "fewer elements in sequence")
  else .ok ⟨names.zip items, true⟩

/-- The fields of a record written in either form. -/
def record (kind : String) (names : List String) : Json → Except DecodeFault (Fields Json)
  | .obj members => ofMembers names members
  | .arr items => ofItems names items
  | found => .error (.wrongType found ("struct " ++ kind))

end Decode

end TensorBench
