import TensorBench.Layout.Check

/-!
Binding a layout: every placeholder is replaced by its value under the bindings and the result is
checked.
-/
namespace TensorBench.Layout

def bindAllocation (bindings : Bindings) (entry : String × DynamicAllocation) :
    Except Failure DynamicAllocation := do
  let offset ← entry.2.offset.resolve bindings
  let size ← entry.2.size.resolve bindings
  return ⟨entry.2.name, .value offset, .value size⟩

/-- The layout with every extent evaluated, not yet checked. -/
def resolve (layout : Layout) (bindings : Bindings) : Except Failure Layout := do
  let allocations ← layout.floating.allocations.traverse (bindAllocation bindings)
  let size ← layout.floating.size.resolve bindings
  return ⟨layout.fixed, ⟨.value size, allocations⟩⟩

def bind (layout : Layout) (bindings : Bindings) : Except Failure Layout := do
  let bound ← layout.resolve bindings
  bound.validate
  return bound

end TensorBench.Layout
