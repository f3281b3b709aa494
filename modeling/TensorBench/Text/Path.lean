import TensorBench.Text.Chars

/-!
Paths of files, as text. Two texts name the same path if they have the same parts; repeated slashes,
a slash at the end and single dots behind the first part make no difference.
-/
namespace TensorBench.Path

/-- A part appended to a path. A part that starts at the root stands for itself. -/
def join (base part : String) : String :=
  if part.toList.head? = some '/' then part
  else if base = "" ∨ base.toList.getLast? = some '/' then base ++ part
  else base ++ "/" ++ part

def isAbsolute (path : String) : Bool := path.toList.head? == some '/'

/-- The parts of a path; a leading dot of a relative path is one of them. -/
def parts (path : String) : List String :=
  let pieces := (Text.splitOnChar '/' path.toList).map String.ofList
  let named := pieces.filter fun piece => piece ≠ "" && piece ≠ "."
  if pieces.head? = some "." then "." :: named else named

/-- The same path, perhaps written differently. -/
def same (a b : String) : Bool := isAbsolute a == isAbsolute b && parts a == parts b

/-- What lies before the last part of a path that ends in one. -/
def parent (path : String) : String :=
  String.ofList (((path.toList.reverse.dropWhile (· ≠ '/')).drop 1).reverse)

end TensorBench.Path
