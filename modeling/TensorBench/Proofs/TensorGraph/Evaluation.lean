import TensorBench.Number.Binary32
import TensorBench.Proofs.TensorGraph.Liveness

/-!
Evaluation with early release against evaluation that keeps every value. One node after the other,
the slots hold the kept values that are still needed and nothing else of this evaluation. So no
operand is missing, and the output is that of the graph.
-/
namespace TensorBench

variable {α : Type}

namespace TensorGraph

/-- A graph as it is finished: its nodes fit each other, their uses have been counted, and the
output is one of them. -/
structure Sound (graph : TensorGraph α) : Prop where
  fit : NodesFit graph.nodes
  counted : graph.Counted
  output_lt : graph.output < graph.nodes.size

end TensorGraph

namespace GraphBuilder

theorem finish_eq_ok {builder : GraphBuilder α} {output : Nat} {graph : TensorGraph α}
    (h : builder.finish output = .ok graph) :
    output < builder.nodes.size ∧ graph.nodes = builder.nodes ∧ graph.output = output ∧
      graph.parameters = builder.parameters := by
  unfold finish at h
  split at h
  · rename_i hlt
    cases h
    exact ⟨hlt, rfl, rfl, rfl⟩
  · cases h

theorem Consistent.finish_sound {builder : GraphBuilder α} (hbuilder : builder.Consistent)
    {output : Nat} {graph : TensorGraph α} (h : builder.finish output = .ok graph) :
    graph.Sound := by
  obtain ⟨hlt, hnodes, houtput, -⟩ := finish_eq_ok h
  have hfit : NodesFit graph.nodes := hnodes ▸ hbuilder.fit
  refine ⟨hfit, fun x => ?_, by rw [houtput, hnodes]; exact hlt⟩
  have hcounts : graph.consumers =
      ((List.range graph.nodes.size).map (graph.usesFrom 0)).toArray := by
    unfold finish at h
    rw [if_pos hlt] at h
    cases h
    rfl
  by_cases hx : x < graph.nodes.size
  · simp [hcounts, hx]
  · have hunused : graph.usesFrom 0 x = 0 := by
      by_contra hne
      obtain ⟨id, -, node, hnode, huse⟩ :=
        (graph.usesFrom_pos_iff 0 x).mp (Nat.pos_of_ne_zero hne)
      have hid := (Array.getElem?_eq_some_iff.mp hnode).1
      have := hfit.operand_lt hnode huse
      omega
    simp [hcounts, hx, hunused]

end GraphBuilder

namespace TensorGraph

/-- How an evaluation stands when the nodes in front of `next` have run: what is still needed is
held, what is not is gone, and the slots from `next` on are as they were. -/
structure Stands (graph : TensorGraph α) (kept : Array (Volume α)) (initial : Scope α) (next : Nat)
    (progress : Progress α) : Prop where
  left_eq : ∀ x, progress.left x = graph.usesFrom next x
  size_eq : progress.space.scope.slots.size = initial.slots.size
  held : ∀ x < next, graph.Needed next x → progress.space.scope.held? x = kept[x]?
  released : ∀ x < next, ¬ graph.Needed next x → progress.space.scope.held? x = none
  untouched : ∀ x, next ≤ x → progress.space.scope.held? x = initial.held? x

theorem stands_zero {graph : TensorGraph α} (hsound : graph.Sound) (kept : Array (Volume α))
    (space : Workspace α) : graph.Stands kept space.scope 0 ⟨graph.consumers, space⟩ where
  left_eq := hsound.counted
  size_eq := rfl
  held x hx := absurd hx (Nat.not_lt_zero x)
  released x hx := absurd hx (Nat.not_lt_zero x)
  untouched _ _ := rfl

/-- The operands of the next node are held. -/
theorem Stands.offers {graph : TensorGraph α} (hsound : graph.Sound) {kept : Array (Volume α)}
    (hkept : kept.size = graph.output + 1) {initial : Scope α} {next : Nat}
    (hnext : next ≤ graph.output) {node : GraphNode α} (hnode : graph.nodes[next]? = some node)
    {progress : Progress α} (h : graph.Stands kept initial next progress) :
    progress.space.scope.Offers kept node := by
  intro x hx
  have hlt := hsound.fit.operand_lt hnode hx
  have hvalue : kept[x]? = some kept[x] := Array.getElem?_eq_getElem (by omega)
  have hneeded : graph.Needed next x := .inr (.inr ⟨next, Nat.le_refl _, node, hnode, hx⟩)
  exact ⟨_, hvalue, (Scope.get_eq_ok_iff _ _ _).mpr ((h.held x hlt hneeded).trans hvalue)⟩

variable [Scalar α]

/-- The next node runs, and its operands are released if it was the last one to use them. -/
theorem Stands.step {graph : TensorGraph α} (hsound : graph.Sound) {input : Volume α}
    {kept : Array (Volume α)} (hkept : graph.Keeps input (graph.output + 1) kept)
    {initial : Scope α} (hslots : graph.output < initial.slots.size) {next : Nat}
    (hnext : next ≤ graph.output) {node : GraphNode α} (hnode : graph.nodes[next]? = some node)
    {progress : Progress α} (h : graph.Stands kept initial next progress) (parallel : Bool) :
    ∃ after, graph.step input parallel node next progress = (.ok (), after) ∧
      graph.Stands kept initial (next + 1) after := by
  obtain ⟨value, hvalue, -, hcomputed⟩ := hkept.computed next node (by omega) hnode
  have hrun := hcomputed parallel _ (h.offers hsound hkept.size_eq hnext hnode)
  have hcount : ∀ x, progress.left x =
      node.operation.inputs.count x + graph.usesFrom (next + 1) x := fun x =>
    (h.left_eq x).trans (graph.usesFrom_succ hnode x)
  have hslot : next < progress.space.scope.slots.size := by
    rw [h.size_eq]
    omega
  obtain ⟨after, hstep, hleft, hsize, hheld⟩ :=
    graph.step_eq_ok hrun hslot fun x => Nat.le.intro (hcount x).symm
  have hleft : ∀ x, after.left x = graph.usesFrom (next + 1) x := fun x =>
    (hleft x).trans (Nat.sub_eq_of_eq_add' (hcount x))
  refine ⟨after, hstep, hleft, hsize.trans h.size_eq, ?_, ?_, ?_⟩
  · intro x hx hneeded
    rw [hheld, if_neg ?_]
    · by_cases hlast : x = next
      · rw [if_pos hlast, hlast, hvalue]
      · rw [if_neg hlast]
        exact h.held x (by omega) hneeded.of_succ
    · rintro ⟨hoperand, hzero, hne⟩
      rw [hleft] at hzero
      exact (graph.not_needed_iff _ x).mpr ⟨hne, ⟨next, node, hnode, hoperand⟩, hzero⟩ hneeded
  · intro x hx hunneeded
    obtain ⟨hne, ⟨user, found, hfound, huse⟩, hzero⟩ := (graph.not_needed_iff _ x).mp hunneeded
    rw [hheld]
    by_cases hoperand : x ∈ node.operation.inputs
    · rw [if_pos ⟨hoperand, (hleft x).trans hzero, hne⟩]
    · -- Whoever used it did so earlier, so that it is not the node that has just run.
      have huser := hsound.fit.operand_lt hfound huse
      have hlast : x ≠ next := by
        rintro rfl
        have := (graph.usesFrom_pos_iff (x + 1) x).mpr ⟨user, huser, found, hfound, huse⟩
        omega
      have hgone : ¬ graph.Needed next x := by
        refine (graph.not_needed_iff _ x).mpr ⟨hne, ⟨user, found, hfound, huse⟩, ?_⟩
        rw [graph.usesFrom_succ hnode, List.count_eq_zero_of_not_mem hoperand, hzero]
      rw [if_neg fun hall => hoperand hall.1, if_neg hlast]
      exact h.released x (by omega) hgone
  · intro x hx
    have hoperand : x ∉ node.operation.inputs := fun hmem => by
      have := hsound.fit.operand_lt hnode hmem
      omega
    rw [hheld, if_neg fun hall => hoperand hall.1, if_neg (by omega)]
    exact h.untouched x (by omega)

/-! ### All nodes -/

/-- An evaluation after a number of nodes, of which the output is at most the last one. -/
def runTo (graph : TensorGraph α) (input : Volume α) (parallel : Bool) (space : Workspace α)
    (count : Nat) : Except Stop Unit × Progress α :=
  graph.steps input parallel (graph.nodes.toList.zipIdx.take count) ⟨graph.consumers, space⟩

/-- Nodes in front of the output that run do not end the evaluation. -/
theorem steps_append (graph : TensorGraph α) (input : Volume α) (parallel : Bool)
    (front back : List (GraphNode α × Nat)) {progress after : Progress α}
    (hfront : ∀ entry ∈ front, entry.2 ≠ graph.output)
    (h : graph.steps input parallel front progress = (.ok (), after)) :
    graph.steps input parallel (front ++ back) progress =
      graph.steps input parallel back after := by
  induction front generalizing progress with
  | nil =>
    cases h
    rfl
  | cons entry rest ih =>
    obtain ⟨node, id⟩ := entry
    obtain ⟨hid, hrest⟩ := List.forall_mem_cons.mp hfront
    rw [List.cons_append]
    rcases hstep : graph.step input parallel node id progress with ⟨stop | ⟨⟩, next⟩
    · simp only [steps, hstep] at h
      cases h
    · simp only [steps, hstep, if_neg hid] at h ⊢
      exact ih hrest h

/-- Nodes behind the output do not run. -/
theorem steps_append_output (graph : TensorGraph α) (input : Volume α) (parallel : Bool)
    (front back : List (GraphNode α × Nat)) (node : GraphNode α) (progress : Progress α) :
    graph.steps input parallel (front ++ (node, graph.output) :: back) progress =
      graph.steps input parallel (front ++ [(node, graph.output)]) progress := by
  induction front generalizing progress with
  | nil => simp only [List.nil_append, steps, if_true]
  | cons entry rest ih =>
    simp only [List.cons_append, steps, ih]

theorem exists_stands {graph : TensorGraph α} (hsound : graph.Sound) {input : Volume α}
    {kept : Array (Volume α)} (hkept : graph.Keeps input (graph.output + 1) kept)
    (parallel : Bool) {space : Workspace α} (hslots : graph.output < space.scope.slots.size)
    (count : Nat) (hcount : count ≤ graph.output + 1) :
    ∃ progress, graph.runTo input parallel space count = (.ok (), progress) ∧
      graph.Stands kept space.scope count progress := by
  induction count with
  | zero => exact ⟨_, rfl, stands_zero hsound kept space⟩
  | succ count ih =>
    obtain ⟨progress, hrun, hstands⟩ := ih (by omega)
    have hlt : count < graph.nodes.size := Nat.lt_of_lt_of_le hcount hsound.output_lt
    have hnode := Array.getElem?_eq_getElem hlt
    obtain ⟨after, hstep, hafter⟩ :=
      hstands.step hsound hkept hslots (Nat.le_of_succ_le_succ hcount) hnode parallel
    refine ⟨after, ?_, hafter⟩
    have hentry : graph.nodes.toList.zipIdx[count]? = some (graph.nodes[count], count) := by
      simp [hnode]
    have hfront : ∀ entry ∈ graph.nodes.toList.zipIdx.take count, entry.2 ≠ graph.output := by
      intro entry hentry
      obtain ⟨i, hi, rfl⟩ := List.mem_take_iff_getElem.mp hentry
      simp
      omega
    rw [runTo, List.take_add_one, hentry, Option.toList_some,
      steps_append graph input parallel _ _ hfront hrun]
    simp only [steps, hstep, ite_self]

/-- An evaluation is the run to its output and the value that is then in the slot of the output. -/
theorem evaluate_eq_ok {graph : TensorGraph α} (hsound : graph.Sound) {input : Volume α}
    {parallel : Bool} {space : Workspace α} {progress : Progress α} {value : Volume α}
    (hrun : graph.runTo input parallel space (graph.output + 1) = (.ok (), progress))
    (hget : progress.space.scope.get graph.output = .ok value) :
    graph.evaluate input parallel space = (.ok value.values, progress.space) := by
  obtain ⟨node, hnode⟩ : ∃ node, graph.nodes[graph.output]? = some node :=
    ⟨_, Array.getElem?_eq_getElem hsound.output_lt⟩
  have hentry : graph.nodes.toList.zipIdx[graph.output]? = some (node, graph.output) := by
    simp [hnode]
  obtain ⟨hlt, hlast⟩ := List.getElem?_eq_some_iff.mp hentry
  have hsplit := List.take_append_drop graph.output graph.nodes.toList.zipIdx
  rw [List.drop_eq_getElem_cons hlt, hlast] at hsplit
  rw [runTo, List.take_add_one, hentry, Option.toList_some, ← steps_append_output, hsplit] at hrun
  simp only [evaluate, hrun, hget]

/-- An evaluation succeeds whatever its scope held before. -/
theorem evaluate_eq_kept {graph : TensorGraph α} (hsound : graph.Sound) {input : Volume α}
    {kept : Array (Volume α)} (hkept : graph.Keeps input (graph.output + 1) kept)
    (parallel : Bool) {space : Workspace α} (hslots : graph.output < space.scope.slots.size) :
    ∃ value last, kept[graph.output]? = some value ∧
      graph.runTo input parallel space (graph.output + 1) = (.ok (), last) ∧
      graph.evaluate input parallel space = (.ok value.values, last.space) := by
  obtain ⟨last, hlast, hstands⟩ := exists_stands hsound hkept parallel hslots _ (Nat.le_refl _)
  have hlt : graph.output < kept.size := by
    rw [hkept.size_eq]
    exact Nat.lt_succ_self _
  have hvalue := Array.getElem?_eq_getElem hlt
  have hheld := hstands.held graph.output (Nat.lt_succ_self _) (.inl rfl)
  exact ⟨_, last, hvalue, hlast,
    evaluate_eq_ok hsound hlast ((Scope.get_eq_ok_iff _ _ _).mpr (hheld.trans hvalue))⟩

/-! ### Results -/

omit [Scalar α] in
theorem Stands.live_iff {graph : TensorGraph α} {kept : Array (Volume α)} {initial : Scope α}
    {next : Nat} {progress : Progress α} (h : graph.Stands kept initial next progress)
    (hnext : next ≤ kept.size) {x : Nat} (hx : x < next) :
    progress.space.scope.Live x ↔ graph.Needed next x := by
  constructor
  · intro hlive
    by_contra hunneeded
    exact (Scope.not_live_iff _ x).mpr (h.released x hx hunneeded) hlive
  · intro hneeded
    have hvalue := Array.getElem?_eq_getElem (show x < kept.size by omega)
    exact (Scope.live_iff _ x).mpr ⟨_, (h.held x hx hneeded).trans hvalue⟩

/-- Calls of which two are refused. The others make a node behind the output 3, one that nobody
uses, and one that is used twice by the same node. -/
def unevenCalls : List NodeCall :=
  [.input 1 2 2, .relu "left" 0, .conv2d "large" 0 1 5 1 0, .batchNorm "unused" 0,
    .add "double" 1 1, .relu "missing" 9, .maxPool "behind" 3 2 2 0]

def unevenGraph : TensorGraph Binary32 where
  nodes := #[⟨"input", .input, ⟨1, 2, 2⟩⟩, ⟨"left", .relu 0, ⟨1, 2, 2⟩⟩,
    ⟨"unused", .batchNorm 0 #[GraphBuilder.unitScale] #[Scalar.zero], ⟨1, 2, 2⟩⟩,
    ⟨"double", .add 1 1, ⟨1, 2, 2⟩⟩, ⟨"behind", .maxPool 3 2 2 0, ⟨1, 1, 1⟩⟩]
  consumers := #[2, 2, 0, 1, 0]
  output := 3
  parameters := 4

def unevenInput : Volume Binary32 := .full ⟨1, 2, 2⟩ Scalar.one

theorem unevenGraph_accepts : unevenGraph.Accepts unevenInput where
  complete := Volume.wellFormed_full _ _
  shape_eq id node _ hnode hisInput := by
    match id, hnode with
    | 0, rfl => rfl
    | 1, rfl | 2, rfl | 3, rfl | 4, rfl => cases hisInput

/-- Whatever calls are made and refused, operands come first and the parameters are those of the
nodes. A finished graph, given what it accepts, evaluates every node up to the output to a whole
volume of the recorded shape, and its result has the size of the output shape. -/
theorem ofCalls_evaluates (seed : UInt64) (calls : List NodeCall) (builder : GraphBuilder α)
    (hbuilder : GraphBuilder.ofCalls seed calls = builder) :
    (∀ (id : Nat) (node : GraphNode α), builder.nodes[id]? = some node →
      ∀ x ∈ node.operation.inputs, x < id) ∧
    builder.parameters = parameterCount builder.nodes.toList ∧
    ∀ (output : Nat) (graph : TensorGraph α), builder.finish output = .ok graph →
      graph.nodes = builder.nodes ∧ graph.output = output ∧
      graph.parameters = builder.parameters ∧
      ∀ (input : Volume α), graph.Accepts input → ∀ (parallel : Bool) (space : Workspace α),
        graph.output < space.scope.slots.size →
        (∀ id ≤ graph.output, ∃ node progress value, graph.nodes[id]? = some node ∧
          graph.runTo input parallel space id = (.ok (), progress) ∧
          valueOf input parallel progress.space.scope node = .ok value ∧
          value.HasShape node.shape) ∧
        ∃ values, (graph.evaluate input parallel space).1 = .ok values ∧
          values.size = graph.outputShape.size := by
  have hconsistent : builder.Consistent := hbuilder ▸ GraphBuilder.ofCalls_consistent seed calls
  refine ⟨fun id node hnode x hx => hconsistent.fit.operand_lt hnode hx, hconsistent.counted,
    fun output graph hgraph => ?_⟩
  obtain ⟨-, hnodes, houtput, hparameters⟩ := GraphBuilder.finish_eq_ok hgraph
  refine ⟨hnodes, houtput, hparameters, fun input hinput parallel space hslots => ?_⟩
  have hsound := hconsistent.finish_sound hgraph
  obtain ⟨kept, hkept⟩ :=
    exists_keeps hsound.fit hsound.output_lt hinput _ (Nat.le_refl (graph.output + 1))
  constructor
  · intro id hid
    have hnode := Array.getElem?_eq_getElem (Nat.lt_of_le_of_lt hid hsound.output_lt)
    obtain ⟨progress, hprogress, hstands⟩ :=
      exists_stands hsound hkept parallel hslots id (Nat.le_succ_of_le hid)
    obtain ⟨value, -, hshape, hcomputed⟩ :=
      hkept.computed id _ (Nat.lt_succ_of_le hid) hnode
    exact ⟨_, progress, value, hnode, hprogress,
      hcomputed parallel _ (hstands.offers hsound hkept.size_eq hid hnode), hshape⟩
  · have hnode := Array.getElem?_eq_getElem hsound.output_lt
    obtain ⟨value, last, hvalue, -, hevaluate⟩ := evaluate_eq_kept hsound hkept parallel hslots
    obtain ⟨found, hfound, hshape, -⟩ :=
      hkept.computed graph.output _ (Nat.lt_succ_self _) hnode
    cases hvalue.symm.trans hfound
    refine ⟨value.values, by rw [hevaluate], ?_⟩
    rw [hshape.size_eq]
    simp [outputShape, hnode]

theorem ofCalls_evaluates_uneven :
    unevenGraph.parameters = parameterCount unevenGraph.nodes.toList ∧
      ∃ values, (unevenGraph.evaluate unevenInput true (.open_ .initial 4)).1 = .ok values ∧
        values.size = 4 := by
  obtain ⟨-, hparameters, hfinished⟩ :=
    ofCalls_evaluates (α := Binary32) 0 unevenCalls (GraphBuilder.ofCalls 0 unevenCalls) rfl
  obtain ⟨hnodes, -, hcount, hevaluates⟩ := hfinished 3 unevenGraph rfl
  obtain ⟨-, hresult⟩ :=
    hevaluates unevenInput unevenGraph_accepts true (.open_ .initial 4) (by decide)
  exact ⟨by rw [hcount, hnodes, hparameters], hresult⟩

end TensorGraph

end TensorBench
