import TensorBench.Layout.Extent

/-!
Memory layouts. The data buffer of a graph has a static part, whose allocations have fixed places
and take their contents from a weight file, and a dynamic part behind it, whose extents may be
placeholders. Dynamic offsets count from the end of the static part; all extents are in bytes.
-/
namespace TensorBench

structure StaticAllocation where
  name : String
  offset : Nat
  size : Nat
deriving DecidableEq, Inhabited

structure DynamicAllocation where
  name : String
  offset : Extent
  size : Extent
deriving DecidableEq, Inhabited

structure StaticRegion where
  size : Nat
  allocations : NameTable StaticAllocation
deriving DecidableEq, Inhabited

structure DynamicRegion where
  size : Extent
  allocations : NameTable DynamicAllocation
deriving DecidableEq, Inhabited

structure Layout where
  fixed : StaticRegion
  floating : DynamicRegion
deriving DecidableEq, Inhabited

/-- The part of the buffer an allocation lies in. -/
inductive Region where
  | fixed
  | floating
deriving DecidableEq, Inhabited

/-- An allocation with its byte offset from the start of the buffer. -/
structure Placement where
  name : String
  region : Region
  offset : Nat
  size : Nat
deriving DecidableEq, Inhabited

namespace Placement

/-- The first element of the allocation. -/
def start (placement : Placement) : Nat := placement.offset / Words.elementSize

def length (placement : Placement) : Nat := placement.size / Words.elementSize

/-- The element after the last one. -/
def stop (placement : Placement) : Nat := placement.start + placement.length

end Placement

namespace Layout

def empty : Layout := ⟨⟨0, .empty⟩, ⟨.value 0, .empty⟩⟩

/-- Append an allocation to the static part. -/
def pushStatic (layout : Layout) (name : String) (size : Nat) : Layout :=
  { layout with fixed :=
    { size := layout.fixed.size + size
      allocations := layout.fixed.allocations.insert name ⟨name, layout.fixed.size, size⟩ } }

def pushDynamic (layout : Layout) (name : String) (offset size : Extent) : Layout :=
  { layout with floating :=
    { layout.floating with
      allocations := layout.floating.allocations.insert name ⟨name, offset, size⟩ } }

def setDynamicSize (layout : Layout) (size : Extent) : Layout :=
  { layout with floating := { layout.floating with size := size } }

def pendingIn (what : String) : Extent → List String
  | .value _ => []
  | .placeholder expr => [s!"{what} = {expr.source}"]

/-- Descriptions of the extents that are not known yet. -/
def unresolved (layout : Layout) : List String :=
  pendingIn "dynamic.size" layout.floating.size ++
    layout.floating.allocations.entries.flatMap fun (_, allocation) =>
      pendingIn (allocation.name ++ ".offset") allocation.offset ++
        pendingIn (allocation.name ++ ".size") allocation.size

def isResolved (layout : Layout) : Bool := layout.unresolved.isEmpty

def ensureResolved (layout : Layout) : Except Failure Unit :=
  if layout.isResolved then .ok ()
  else .error (.unresolvedPlaceholder (", ".intercalate layout.unresolved))

/-- The placeholders of a layout, in the order in which binding evaluates them. -/
def placeholders (layout : Layout) : List Placeholder :=
  let ofExtent : Extent → List Placeholder
    | .value _ => []
    | .placeholder expr => [expr]
  (layout.floating.allocations.entries.flatMap fun (_, allocation) =>
    ofExtent allocation.offset ++ ofExtent allocation.size) ++ ofExtent layout.floating.size

end Layout

end TensorBench
