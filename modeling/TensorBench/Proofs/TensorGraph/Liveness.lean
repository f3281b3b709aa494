import TensorBench.Proofs.TensorGraph.KeptValues

/-!
Which values an evaluation holds. The counters of a running evaluation say how often each node is
still to be used, dead nodes and those behind the output included. So a slot is emptied exactly when
its last user has run, and every slot is read while it holds the value of its node.
-/
namespace TensorBench

variable {α : Type}

/-- How often a node is still to be used. -/
def Progress.left (progress : Progress α) (id : Nat) : Nat := progress.remaining.getD id 0

namespace TensorGraph

/-- A node has another one as an operand. -/
def Uses (graph : TensorGraph α) (id x : Nat) : Prop :=
  ∃ node, graph.nodes[id]? = some node ∧ x ∈ node.operation.inputs

/-- A node whose value has to stay when those in front of `next` have run: it is the output, no node
uses it at all, or one of those to come does. -/
def Needed (graph : TensorGraph α) (next x : Nat) : Prop :=
  x = graph.output ∨ (∀ id, ¬ graph.Uses id x) ∨ ∃ id, next ≤ id ∧ graph.Uses id x

/-- How often a node is used from another one on. -/
def usesFrom (graph : TensorGraph α) (next x : Nat) : Nat :=
  ((graph.nodes.toList.drop next).flatMap fun node => node.operation.inputs).count x

/-- The counts that finishing a graph provides. -/
def Counted (graph : TensorGraph α) : Prop :=
  ∀ x, graph.consumers.getD x 0 = graph.usesFrom 0 x

theorem usesFrom_succ (graph : TensorGraph α) {next : Nat} {node : GraphNode α}
    (hnode : graph.nodes[next]? = some node) (x : Nat) :
    graph.usesFrom next x = node.operation.inputs.count x + graph.usesFrom (next + 1) x := by
  obtain ⟨hlt, rfl⟩ := Array.getElem?_eq_some_iff.mp hnode
  have hdrop : graph.nodes.toList.drop next =
      graph.nodes[next] :: graph.nodes.toList.drop (next + 1) := by
    rw [← Array.getElem_toList hlt]
    exact List.drop_eq_getElem_cons (by simpa using hlt)
  rw [usesFrom, hdrop, List.flatMap_cons, List.count_append]
  rfl

theorem usesFrom_pos_iff (graph : TensorGraph α) (next x : Nat) :
    0 < graph.usesFrom next x ↔ ∃ id, next ≤ id ∧ graph.Uses id x := by
  unfold usesFrom Uses
  rw [List.count_pos_iff, List.mem_flatMap]
  constructor
  · rintro ⟨node, hnode, hx⟩
    obtain ⟨i, hi⟩ := List.mem_iff_getElem?.mp hnode
    rw [List.getElem?_drop] at hi
    exact ⟨next + i, Nat.le_add_right _ _, node, by simpa using hi, hx⟩
  · rintro ⟨id, hid, node, hnode, hx⟩
    refine ⟨node, List.mem_iff_getElem?.mpr ⟨id - next, ?_⟩, hx⟩
    rw [List.getElem?_drop, Nat.add_sub_cancel' hid]
    simpa using hnode

theorem Needed.of_succ {graph : TensorGraph α} {next x : Nat} (h : graph.Needed (next + 1) x) :
    graph.Needed next x := by
  rcases h with houtput | hunused | ⟨id, hid, huses⟩
  · exact .inl houtput
  · exact .inr (.inl hunused)
  · exact .inr (.inr ⟨id, by omega, huses⟩)

theorem not_needed_iff (graph : TensorGraph α) (next x : Nat) :
    ¬ graph.Needed next x ↔
      x ≠ graph.output ∧ (∃ id, graph.Uses id x) ∧ graph.usesFrom next x = 0 := by
  rw [Needed, not_or, not_or, ← graph.usesFrom_pos_iff, Nat.not_lt, Nat.le_zero, not_forall_not]

theorem needed_iff (graph : TensorGraph α) (next x : Nat) :
    graph.Needed next x ↔
      x = graph.output ∨ graph.usesFrom 0 x = 0 ∨ 0 < graph.usesFrom next x := by
  have hunused : (∀ id, ¬ graph.Uses id x) ↔ graph.usesFrom 0 x = 0 := by
    rw [← not_exists, ← Nat.le_zero, ← Nat.not_lt, usesFrom_pos_iff]
    simp only [Nat.zero_le, true_and]
  rw [Needed, hunused, usesFrom_pos_iff]

instance (graph : TensorGraph α) (next x : Nat) : Decidable (graph.Needed next x) :=
  decidable_of_iff _ (graph.needed_iff next x).symm

/-! ### Using up operands -/

theorem left_consume (graph : TensorGraph α) (progress : Progress α) (id x : Nat) :
    (graph.consume progress id).left x =
      if x = id then progress.left id - 1 else progress.left x := by
  unfold Progress.left consume
  simp only [Array.getD_eq_getD_getElem?, Array.getElem?_setIfInBounds]
  by_cases hx : id = x
  · subst hx
    by_cases hlt : id < progress.remaining.size
    · simp [hlt]
    · simp [hlt]
  · simp [hx, Ne.symm hx]

theorem held?_consume (graph : TensorGraph α) (progress : Progress α) (id x : Nat) :
    (graph.consume progress id).space.scope.held? x =
      if x = id ∧ progress.left id - 1 = 0 ∧ id ≠ graph.output then none
      else progress.space.scope.held? x := by
  unfold consume Progress.left
  by_cases hrelease : progress.remaining.getD id 0 - 1 = 0 ∧ id ≠ graph.output
  · simp only [if_pos hrelease, Workspace.held?_release]
    by_cases hx : x = id
    · rw [if_pos hx, if_pos ⟨hx, hrelease⟩]
    · rw [if_neg hx, if_neg fun h => hx h.1]
  · simp only [if_neg hrelease]
    rw [if_neg fun h => hrelease h.2]

theorem size_consume (graph : TensorGraph α) (progress : Progress α) (id : Nat) :
    (graph.consume progress id).space.scope.slots.size = progress.space.scope.slots.size := by
  unfold consume
  dsimp only
  split
  · exact Workspace.size_release _ _
  · rfl

/-- The operands of a node have been used, each as often as it occurs. Those that nobody will use
any more are gone, except for the output. -/
structure UsedUp (graph : TensorGraph α) (operands : List Nat) (before after : Progress α) :
    Prop where
  left_eq : ∀ x, after.left x = before.left x - operands.count x
  size_eq : after.space.scope.slots.size = before.space.scope.slots.size
  held?_eq : ∀ x, after.space.scope.held? x =
    if x ∈ operands ∧ after.left x = 0 ∧ x ≠ graph.output then none
    else before.space.scope.held? x

theorem usedUp_foldl (graph : TensorGraph α) (operands : List Nat) (progress : Progress α)
    (hcount : ∀ x, operands.count x ≤ progress.left x) :
    graph.UsedUp operands progress (operands.foldl graph.consume progress) := by
  induction operands generalizing progress with
  | nil => exact ⟨fun x => rfl, rfl, fun x => (if_neg fun h => List.not_mem_nil h.1).symm⟩
  | cons operand rest ih =>
    have hcountRest : ∀ x, rest.count x ≤ (graph.consume progress operand).left x := by
      intro x
      have hx := hcount x
      rw [List.count_cons] at hx
      rw [left_consume]
      by_cases heq : x = operand
      · subst heq
        simp only [beq_self_eq_true, if_true] at hx ⊢
        omega
      · rw [if_neg heq]
        omega
    have hrest := ih (graph.consume progress operand) hcountRest
    rw [List.foldl_cons]
    refine ⟨fun x => ?_, hrest.size_eq.trans (graph.size_consume progress operand), fun x => ?_⟩
    · rw [hrest.left_eq, left_consume, List.count_cons]
      by_cases heq : x = operand
      · subst heq
        simp only [beq_self_eq_true, if_true]
        omega
      · simp [heq, Ne.symm heq]
    · have hleft := hrest.left_eq x
      rw [left_consume] at hleft
      rw [hrest.held?_eq, held?_consume]
      by_cases hgone : x ∈ rest ∧
          (rest.foldl graph.consume (graph.consume progress operand)).left x = 0 ∧ x ≠ graph.output
      · rw [if_pos hgone, if_pos ⟨List.mem_cons_of_mem _ hgone.1, hgone.2⟩]
      · rw [if_neg hgone]
        refine if_congr ⟨?_, ?_⟩ rfl rfl
        · rintro ⟨rfl, hzero, hne⟩
          rw [if_pos rfl, hzero, Nat.zero_sub] at hleft
          exact ⟨List.mem_cons_self, hleft, hne⟩
        · rintro ⟨hmem, hzero, hne⟩
          have hlater : x ∉ rest := fun h => hgone ⟨h, hzero, hne⟩
          obtain rfl := (List.mem_cons.mp hmem).resolve_right hlater
          rw [if_pos rfl, List.count_eq_zero_of_not_mem hlater, hzero] at hleft
          exact ⟨rfl, hleft.symm, hne⟩

/-- All that running a node does: its value comes into its slot, and those of its operands go that
nobody else will use. -/
theorem step_eq_ok [Scalar α] (graph : TensorGraph α) {input value : Volume α} {parallel : Bool}
    {node : GraphNode α} {id : Nat} {progress : Progress α}
    (hvalue : valueOf input parallel progress.space.scope node = .ok value)
    (hslot : id < progress.space.scope.slots.size)
    (hcount : ∀ x, node.operation.inputs.count x ≤ progress.left x) :
    ∃ after, graph.step input parallel node id progress = (.ok (), after) ∧
      (∀ x, after.left x = progress.left x - node.operation.inputs.count x) ∧
      after.space.scope.slots.size = progress.space.scope.slots.size ∧
      ∀ x, after.space.scope.held? x =
        if x ∈ node.operation.inputs ∧ after.left x = 0 ∧ x ≠ graph.output then none
        else if x = id then some value else progress.space.scope.held? x := by
  obtain ⟨space, hinsert, hsize, hheld⟩ := progress.space.insert_eq_ok id value hslot
  have hused := graph.usedUp_foldl node.operation.inputs ⟨progress.remaining, space⟩ hcount
  refine ⟨node.operation.inputs.foldl graph.consume ⟨progress.remaining, space⟩, ?_,
    hused.left_eq, hused.size_eq.trans hsize, fun x => ?_⟩
  · simp only [step, hvalue, hinsert]
  · rw [hused.held?_eq, hheld]

end TensorGraph

end TensorBench
