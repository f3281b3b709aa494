/-!
Computations that run side by side.
-/
namespace TensorBench.Tasks

/-- Start a task for every item, then collect the results in order. -/
def map {β γ : Type} (f : β → γ) (items : List β) : List γ :=
  (items.map fun item => Task.spawn fun _ => f item).map Task.get

theorem map_eq {β γ : Type} (f : β → γ) (items : List β) : map f items = items.map f := by
  simp [map, Task.spawn]

end TensorBench.Tasks
