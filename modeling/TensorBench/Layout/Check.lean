import TensorBench.Layout.Basic

/-!
The consistency of a layout. Names agree with their keys and occur in one part only, known extents
are whole elements, known allocations stay inside their part, and static allocations share no byte.
Checks run in a fixed order and the first violation is reported.
-/
namespace TensorBench.Layout

/-- A violation of the consistency rules. -/
inductive Violation where
  | keyMismatch (key name : String)
  | misaligned (what : String) (bytes : Nat)
  | endOverflow (name : String) (offset size : Nat)
  | outsideStatic (key : String) (offset stop size : Nat)
  | outsideDynamic (key : String) (offset stop size : Nat)
  | overlap (first second : String)
  | inBothRegions (key : String)
  | totalOverflow
deriving DecidableEq

def Violation.message : Violation → String
  | keyMismatch key name => s!"allocation key '{key}' does not match its name '{name}'"
  | misaligned what bytes => s!"{what} = {bytes} is not a multiple of {Words.elementSize} bytes"
  | endOverflow name offset size =>
      s!"allocation '{name}' ends past the addressable range (offset {offset}, size {size})"
  | outsideStatic key offset stop size =>
      s!"static allocation '{key}' ({offset}..{stop}) exceeds the static region ({size} bytes)"
  | outsideDynamic key offset stop size =>
      s!"dynamic allocation '{key}' ({offset}..{stop}) exceeds the dynamic region ({size} bytes)"
  | overlap first second => s!"static allocations '{first}' and '{second}' overlap"
  | inBothRegions key => s!"allocation '{key}' appears in both regions"
  | totalOverflow => "total buffer size overflows usize"

def Violation.failure (violation : Violation) : Failure := .invalidLayout violation.message

def checkAligned (what : String) (bytes : Nat) : Except Violation Unit :=
  if bytes % Words.elementSize = 0 then .ok () else .error (.misaligned what bytes)

def checkKey (key name : String) : Except Violation Unit :=
  if key = name then .ok () else .error (.keyMismatch key name)

/-- The end of a range, unless it is no word. -/
def checkedEnd (name : String) (offset size : Nat) : Except Violation Nat :=
  match Words.add? offset size with
  | some stop => .ok stop
  | none => .error (.endOverflow name offset size)

/-- A byte range with its name, ordered by start, then end, then name. -/
structure Span where
  start : Nat
  stop : Nat
  name : String
deriving DecidableEq

def Span.le (a b : Span) : Bool :=
  if a.start = b.start then
    if a.stop = b.stop then a.name ≤ b.name else a.stop < b.stop
  else a.start < b.start

/-- The ranges of the allocations that hold at least one byte. -/
def spans (region : StaticRegion) : List Span :=
  region.allocations.entries.filterMap fun (_, allocation) =>
    if 0 < allocation.size then
      some ⟨allocation.offset, allocation.offset + allocation.size, allocation.name⟩
    else none

/-- Compare each range with the next one. -/
def checkNeighbours : List Span → Except Violation Unit
  | first :: second :: rest =>
      if second.start < first.stop then .error (.overlap first.name second.name)
      else checkNeighbours (second :: rest)
  | _ => .ok ()

def checkStaticOverlap (region : StaticRegion) : Except Violation Unit :=
  checkNeighbours ((spans region).mergeSort Span.le)

def checkStatic (regionSize : Nat) (entry : String × StaticAllocation) : Except Violation Unit := do
  let (key, allocation) := entry
  checkKey key allocation.name
  checkAligned (key ++ ".offset") allocation.offset
  checkAligned (key ++ ".size") allocation.size
  let stop ← checkedEnd key allocation.offset allocation.size
  if regionSize < stop then throw (.outsideStatic key allocation.offset stop regionSize)

def checkExtent (what : String) (extent : Extent) : Except Violation Unit :=
  match extent.value? with
  | some bytes => checkAligned what bytes
  | none => .ok ()

/-- The end of a dynamic allocation, where everything it depends on is known. -/
def checkDynamicEnd (region : Option Nat) (key : String) (allocation : DynamicAllocation) :
    Except Violation Unit :=
  match allocation.offset.value?, allocation.size.value?, region with
  | some offset, some size, some region => do
      let stop ← checkedEnd key offset size
      if region < stop then throw (.outsideDynamic key offset stop region)
  | _, _, _ => .ok ()

def checkDynamic (layout : Layout) (entry : String × DynamicAllocation) :
    Except Violation Unit := do
  let (key, allocation) := entry
  checkKey key allocation.name
  if layout.fixed.allocations.contains key then throw (.inBothRegions key)
  checkExtent (key ++ ".offset") allocation.offset
  checkExtent (key ++ ".size") allocation.size
  checkDynamicEnd layout.floating.size.value? key allocation

/-- The first violation of the rules, if there is one. -/
def check (layout : Layout) : Except Violation Unit := do
  checkAligned "static.size" layout.fixed.size
  layout.fixed.allocations.entries.forM (checkStatic layout.fixed.size)
  checkStaticOverlap layout.fixed
  checkExtent "dynamic.size" layout.floating.size
  layout.floating.allocations.entries.forM (checkDynamic layout)

def validate (layout : Layout) : Except Failure Unit :=
  match layout.check with
  | .ok () => .ok ()
  | .error violation => .error violation.failure

/-- The bytes of both parts together; every extent has to be known. -/
def totalSize (layout : Layout) : Except Failure Nat := do
  layout.ensureResolved
  match Words.add? layout.fixed.size (layout.floating.size.value?.getD 0) with
  | some total => return total
  | none => throw Violation.totalOverflow.failure

/-- The place of a dynamic allocation behind a static part of the given size. -/
def placeDynamic (base : Nat) (name : String) (allocation : DynamicAllocation) :
    Except Failure Placement :=
  match allocation.offset.value?, allocation.size.value? with
  | some offset, some size =>
      match checkedEnd name base offset with
      | .error violation => .error violation.failure
      | .ok start =>
          match checkedEnd name start size with
          | .error violation => .error violation.failure
          | .ok _ => .ok ⟨allocation.name, .floating, start, size⟩
  | _, _ => .error (.unresolvedPlaceholder s!"allocation '{name}' has symbolic extents")

/-- Where the allocation of a name lies in the buffer. -/
def placement (layout : Layout) (name : String) : Except Failure Placement :=
  match layout.fixed.allocations.get? name with
  | some allocation => .ok ⟨allocation.name, .fixed, allocation.offset, allocation.size⟩
  | none =>
      match layout.floating.allocations.get? name with
      | some allocation => placeDynamic layout.fixed.size name allocation
      | none => .error (.notFound s!"allocation '{name}'")

end TensorBench.Layout
