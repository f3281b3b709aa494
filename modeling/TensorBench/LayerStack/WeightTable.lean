import TensorBench.Failure
import TensorBench.LayerStack.Topology
import TensorBench.Text.Chars

/-!
Looking up the weights of a layer. Of several entries with the same names the first one counts; its
shape has to be the expected one, its length has to agree with the shape, and its range has to lie
inside the buffer.
-/
namespace TensorBench

structure WeightTable (α : Type) where
  buffer : Array α
  entries : List WeightEntry

namespace LayerStack

/-- The kind of engine that runs layer stacks. -/
def engineKind : String := "sequential"

def complaint (layer message : String) : String := s!"layer '{layer}': {message}"

def buildFailure (layer message : String) : Failure := .setup engineKind (complaint layer message)

end LayerStack

namespace WeightTable

variable {α : Type}

def find? (table : WeightTable α) (layer weight : String) : Option WeightEntry :=
  table.entries.find? fun entry => entry.layer == layer && entry.weight == weight

def outside (table : WeightTable α) (entry : WeightEntry) : String :=
  s!"weight '{entry.weight}' (offset {entry.offset}, length {entry.length}) " ++
    s!"lies outside the weight buffer of {table.buffer.size} elements"

/-- The elements of a weight of the given shape. -/
def get (table : WeightTable α) (layer weight : String) (shape : List Nat) :
    Except Failure (List α) :=
  match table.find? layer weight with
  | none => .error (LayerStack.buildFailure layer s!"missing weight '{weight}'")
  | some entry =>
      if entry.shape ≠ shape then
        .error (LayerStack.buildFailure layer
          (s!"weight '{weight}' has shape {Text.bracketed entry.shape}, " ++
            s!"expected {Text.bracketed shape}"))
      else if Words.product? shape ≠ some entry.length then
        .error (LayerStack.buildFailure layer
          s!"weight '{weight}' length {entry.length} disagrees with its shape")
      else if table.buffer.size < entry.offset + entry.length then
        .error (LayerStack.buildFailure layer (table.outside entry))
      else
        .ok (table.buffer.extract entry.offset (entry.offset + entry.length)).toList

end WeightTable

end TensorBench
