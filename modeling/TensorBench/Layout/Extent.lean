import TensorBench.Placeholder

/-!
Extents of a memory layout: byte counts that are known, or placeholders that will be.
-/
namespace TensorBench

inductive Extent where
  | value (bytes : Nat)
  | placeholder (expr : Placeholder)
deriving DecidableEq, Inhabited

namespace Extent

def value? : Extent → Option Nat
  | value bytes => some bytes
  | placeholder _ => none

def isResolved (extent : Extent) : Bool := extent.value?.isSome

/-- The byte count under the bindings. A negative value is no extent. -/
def resolve (bindings : Bindings) : Extent → Except Failure Nat
  | value bytes => .ok bytes
  | placeholder expr =>
      match expr.eval bindings with
      | .error failure => .error failure
      | .ok result =>
          if 0 ≤ result then .ok result.toNat
          else .error (.invalidExpression expr.source s!"evaluated to negative extent {result}")

def toJson : Extent → Json
  | value bytes => .nat bytes
  | placeholder expr => expr.toJson

def ofJson : Decoder Extent := fun json =>
  match Decode.size json with
  | .ok bytes => .ok (value bytes)
  | .error _ =>
      match Placeholder.ofJson json with
      | .ok expr => .ok (placeholder expr)
      | .error _ => .error (.noAlternative "Extent")

end Extent

end TensorBench
