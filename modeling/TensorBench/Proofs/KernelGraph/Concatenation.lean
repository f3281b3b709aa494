import TensorBench.Proofs.KernelGraph.JoinedShapes
import TensorBench.Proofs.KernelGraph.Loading

/-!
Concatenations. A compiled concatenation knows of shapes only how many elements each input adds to a
row of the result. That is enough: after a run of the kernel on any backend, the elements of the
inputs stand in the result where their multi-indices belong.
-/
namespace TensorBench

namespace Concatenation

open MultiIndex Words

end Concatenation

namespace Execution

open Concatenation MultiIndex Words

variable {α : Type} [Scalar α] {axis : Nat} {outer inner : List Nat} {shapes : List (List Nat)}
  {parts : List (Slice × Nat)}

end Execution

namespace Step

open Concatenation Execution Words

/-! ### What compilation says of the shapes -/

namespace PartOf

variable {layout : Layout} {axis : Nat} {first : List Nat} {entry : String × List Nat}
  {part : Slice × Nat}

theorem drop_axis (h : PartOf layout axis first entry part) (haxis : axis < first.length) :
    entry.2.drop axis = entry.2.getD axis 0 :: first.drop (axis + 1) := by
  have hbound : axis < entry.2.length := h.rank_eq ▸ haxis
  rw [List.drop_eq_getElem_cons hbound, h.drop_eq, List.getD_eq_getElem?_getD,
    List.getElem?_eq_getElem hbound, Option.getD_some]

theorem shape_eq (h : PartOf layout axis first entry part) (haxis : axis < first.length) :
    entry.2 = first.take axis ++ entry.2.getD axis 0 :: first.drop (axis + 1) := by
  rw [← h.drop_axis haxis, ← h.take_eq, List.take_append_drop]

end PartOf

end Step

namespace Session

open Concatenation Execution

variable {α : Type} [Scalar α]

/-! ### Runs -/

/-- What a run that completes leaves behind. -/
structure Ran (session : Session α) (steps : List Step) (next : Session α) : Prop where
  layout_eq : next.layout = session.layout
  data_eq : next.data = applySteps (sumStart session.backend) session.data steps

end Session

end TensorBench
