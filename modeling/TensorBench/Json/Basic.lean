import TensorBench.Number.Binary64
import TensorBench.NameTable

/-!
JSON values. An object keeps its members in the order they were written, repeated names included, so
that a reader of a value can tell what the text said.
-/
namespace TensorBench

inductive Json where
  | null
  | bool (value : Bool)
  | int (value : Int)
  | double (value : Binary64)
  | single (value : Binary32)
  | str (value : String)
  | arr (items : List Json)
  | obj (members : List (String × Json))
deriving Inhabited

namespace Json

mutual
/-- Every object with its members in ascending order of their names, a repeated name keeping its
last value. -/
def canonical : Json → Json
  | arr items => arr (canonicalItems items)
  | obj members => obj (canonicalMembers members).entries
  | value => value

def canonicalItems : List Json → List Json
  | [] => []
  | item :: rest => canonical item :: canonicalItems rest

/-- Members further right win, so they are entered last. -/
def canonicalMembers : List (String × Json) → NameTable Json
  | members => canonicalInto NameTable.empty members

def canonicalInto (table : NameTable Json) : List (String × Json) → NameTable Json
  | [] => table
  | (name, value) :: rest => canonicalInto (table.insert name (canonical value)) rest
end

def ofNames (table : NameTable Json) : Json := obj table.entries

/-- The member of an object with the given name. -/
def member? (value : Json) (name : String) : Option Json :=
  match value with
  | obj members => (members.find? (·.1 == name)).map (·.2)
  | _ => none

def nat (n : Nat) : Json := int n

def ofOption {β : Type} (encode : β → Json) : Option β → Json
  | none => null
  | some value => encode value

end Json

end TensorBench
