import TensorBench.Expression.Evaluation
import TensorBench.Expression.Parser
import TensorBench.Failure
import TensorBench.Json.Decode

/-!
Placeholders: expressions that stand for a size or an offset until their names are bound. A
placeholder keeps the text it was written in.
-/
namespace TensorBench

structure Placeholder where
  source : String
  expr : Expr
deriving DecidableEq, Inhabited

namespace Placeholder

/-- The placeholder that the tokens of a source write. -/
def ofTokens (source : String) (tokens : List Token) : Except Failure Placeholder :=
  match Expr.ofTokens tokens with
  | .error rejection => .error (.invalidExpression source (rejection.message tokens.length))
  | .ok expr => .ok ⟨source, expr⟩

def parse (source : String) : Except Failure Placeholder :=
  match Token.scan source with
  | .error fault => .error (.invalidExpression source fault.message)
  | .ok tokens => ofTokens source tokens

/-- The placeholder for a single named value, whatever characters the name has. -/
def named (name : String) : Placeholder := ⟨name, .name name⟩

/-- The names an evaluation looks up, in ascending order. -/
def names (placeholder : Placeholder) : List String :=
  (NameTable.ofList (placeholder.expr.names.map fun name => (name, ()))).names

def failureOf (source : String) : Expr.EvalFault → Failure
  | .unbound name => .unresolvedPlaceholder s!"'{name}' is not bound (in '{source}')"
  | .overflow => .invalidExpression source "arithmetic overflow"
  | .divisionByZero => .invalidExpression source "division by zero"

def eval (placeholder : Placeholder) (bindings : Bindings) : Except Failure Int :=
  match placeholder.expr.eval bindings with
  | .ok value => .ok value
  | .error fault => .error (failureOf placeholder.source fault)

def toJson (placeholder : Placeholder) : Json := .obj [("eval", .str placeholder.source)]

def ofJson : Decoder Placeholder := fun value => do
  let fields ← Decode.record "PlaceholderRepr" ["eval"] value
  let source ← fields.required "eval" Decode.string
  match parse source with
  | .ok placeholder => .ok placeholder
  | .error failure => .error (.rejected failure.message)

end Placeholder

namespace Bindings

def toJson (bindings : Bindings) : Json :=
  .obj (bindings.entries.map fun (name, value) => (name, .int value))

def ofJson : Decoder Bindings := Decode.table Decode.signed

end Bindings

end TensorBench
