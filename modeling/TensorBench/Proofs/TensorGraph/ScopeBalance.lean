import TensorBench.Proofs.TensorGraph.Accounting
import TensorBench.TensorGraph.Engine

/-!
The accounts of an evaluation. Wherever an evaluation stops, the tracker counts what it counted
before and what the scope holds, so that closing the scope restores the counter.
-/
namespace TensorBench

variable {α : Type}

namespace Workspace

/-- The scope counts what it holds, and the tracker counts that on top of `base` bytes. -/
structure Above (space : Workspace α) (base : Nat) : Prop where
  counted : space.scope.Counted
  tracked : space.tracker.live = base + space.scope.bytes

variable {space next : Workspace α} {base : Nat}

theorem Above.backed (habove : space.Above base) : space.Backed :=
  ⟨habove.counted, habove.tracked ▸ Nat.le_add_left _ _⟩

theorem above_open (tracker : Tracker) (slots : Nat) :
    (open_ tracker slots : Workspace α).Above tracker.live :=
  ⟨Scope.counted_ofSlots slots, rfl⟩

theorem Above.release (habove : space.Above base) (id : Nat) : (space.release id).Above base := by
  obtain ⟨hcounted, hbytes, hlive, -⟩ := space.release_accounts id habove.backed
  have htracked := habove.tracked
  exact ⟨hcounted, by omega⟩

theorem Above.insert (habove : space.Above base) {id : Nat} {x : Volume α}
    (hinserted : space.insert id x = .ok next) : next.Above base := by
  obtain ⟨hcounted, hbytes, hlive, -⟩ := insert_accounts space next id x habove.backed hinserted
  have htracked := habove.tracked
  exact ⟨hcounted, by omega⟩

theorem Above.close (habove : space.Above base) : space.close.live = base := by
  change space.tracker.live - space.scope.bytes = base
  rw [habove.tracked, Nat.add_sub_cancel]

end Workspace

namespace TensorGraph

variable (graph : TensorGraph α) {base : Nat}

theorem consume_above {progress : Progress α} (habove : progress.space.Above base) (id : Nat) :
    (graph.consume progress id).space.Above base := by
  unfold consume
  dsimp only
  split
  · exact habove.release id
  · exact habove

theorem foldl_consume_above {progress : Progress α} (habove : progress.space.Above base)
    (ids : List Nat) : (ids.foldl graph.consume progress).space.Above base := by
  induction ids generalizing progress with
  | nil => exact habove
  | cons id rest ih => exact ih (graph.consume_above habove id)

variable [Scalar α]

/-- Whether a node is evaluated or stops the evaluation, the accounts are kept. -/
theorem step_above (input : Volume α) (parallel : Bool) (node : GraphNode α) (id : Nat)
    {progress : Progress α} (habove : progress.space.Above base) :
    (graph.step input parallel node id progress).2.space.Above base := by
  unfold step
  split
  · exact habove
  · split
    · exact habove
    · rename_i hinserted
      exact graph.foldl_consume_above (habove.insert hinserted) _

theorem steps_above (input : Volume α) (parallel : Bool) (nodes : List (GraphNode α × Nat))
    (progress : Progress α) (habove : progress.space.Above base) :
    (graph.steps input parallel nodes progress).2.space.Above base := by
  induction nodes generalizing progress with
  | nil => exact habove
  | cons entry rest ih =>
    have hstepped := graph.step_above input parallel entry.1 entry.2 habove
    unfold steps
    split
    · rename_i hstopped
      rwa [hstopped] at hstepped
    · rename_i hevaluated
      rw [hevaluated] at hstepped
      split
      · exact hstepped
      · exact ih _ hstepped

theorem evaluate_above (input : Volume α) (parallel : Bool) {space : Workspace α}
    (habove : space.Above base) : (graph.evaluate input parallel space).2.Above base := by
  have hstepped := graph.steps_above input parallel graph.nodes.toList.zipIdx
    ⟨graph.consumers, space⟩ habove
  unfold evaluate
  dsimp only
  split
  · exact hstepped
  · split <;> exact hstepped

end TensorGraph

/-- An execution gives back all that it takes, whatever becomes of it. -/
theorem Residual.Engine.execute_live [Scalar α] (engine : Residual.Engine α) :
    engine.execute.2.tracker.live = engine.tracker.live := by
  unfold execute
  split
  · rfl
  · rename_i loaded _
    have habove := loaded.graph.evaluate_above loaded.input (engine.options.device == .gpu)
      (Workspace.above_open engine.tracker loaded.graph.nodes.size)
    dsimp only
    split <;> exact habove.close

end TensorBench
