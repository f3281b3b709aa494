import TensorBench.Layout.Basic

/-!
The JSON form of layouts.
-/
namespace TensorBench

namespace StaticAllocation

def toJson (allocation : StaticAllocation) : Json :=
  .obj [("name", .str allocation.name), ("offset", .nat allocation.offset),
    ("size", .nat allocation.size)]

def ofJson : Decoder StaticAllocation := fun json => do
  let fields ← Decode.record "StaticAllocation" ["name", "offset", "size"] json
  return ⟨← fields.required "name" Decode.string, ← fields.required "offset" Decode.size,
    ← fields.required "size" Decode.size⟩

end StaticAllocation

namespace DynamicAllocation

def toJson (allocation : DynamicAllocation) : Json :=
  .obj [("name", .str allocation.name), ("offset", allocation.offset.toJson),
    ("size", allocation.size.toJson)]

def ofJson : Decoder DynamicAllocation := fun json => do
  let fields ← Decode.record "DynamicAllocation" ["name", "offset", "size"] json
  return ⟨← fields.required "name" Decode.string, ← fields.required "offset" Extent.ofJson,
    ← fields.required "size" Extent.ofJson⟩

end DynamicAllocation

/-- The members of a table in the order of their names. -/
def NameTable.toJson {β : Type} (encode : β → Json) (table : NameTable β) : Json :=
  .obj (table.entries.map fun (name, value) => (name, encode value))

namespace StaticRegion

def toJson (region : StaticRegion) : Json :=
  .obj [("size", .nat region.size),
    ("allocations", region.allocations.toJson StaticAllocation.toJson)]

def ofJson : Decoder StaticRegion := fun json => do
  let fields ← Decode.record "StaticRegion" ["size", "allocations"] json
  return ⟨← fields.required "size" Decode.size,
    ← fields.defaulted "allocations" (Decode.table StaticAllocation.ofJson) .empty⟩

end StaticRegion

namespace DynamicRegion

def toJson (region : DynamicRegion) : Json :=
  .obj [("size", region.size.toJson),
    ("allocations", region.allocations.toJson DynamicAllocation.toJson)]

def ofJson : Decoder DynamicRegion := fun json => do
  let fields ← Decode.record "DynamicRegion" ["size", "allocations"] json
  return ⟨← fields.defaulted "size" Extent.ofJson (.value 0),
    ← fields.defaulted "allocations" (Decode.table DynamicAllocation.ofJson) .empty⟩

end DynamicRegion

namespace Layout

def toJson (layout : Layout) : Json :=
  .obj [("static", layout.fixed.toJson), ("dynamic", layout.floating.toJson)]

def ofJson : Decoder Layout := fun json => do
  let fields ← Decode.record "MemoryLayout" ["static", "dynamic"] json
  return ⟨← fields.required "static" StaticRegion.ofJson,
    ← fields.defaulted "dynamic" DynamicRegion.ofJson ⟨.value 0, .empty⟩⟩

end Layout

end TensorBench
