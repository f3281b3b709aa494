import TensorBench.Proofs.TensorGraph.Shapes
import TensorBench.TensorGraph.Evaluation

/-!
Graphs under construction. A call either leaves the builder as it is or appends one node, whose
operands are earlier nodes of shapes that its operation is made for, and counts that node's
parameters. This holds of every node of every graph, whatever calls were made and refused.
-/
namespace TensorBench

variable {α : Type}

/-- The parameters that a node contributes; a normalization has four for each channel. -/
def GraphNode.parameters (node : GraphNode α) : Nat :=
  match node.operation with
  | .conv2d _ filter _ _ => filter.values.size
  | .batchNorm _ _ _ => 4 * node.shape.channels
  | .dense _ weights bias => weights.values.size + bias.size
  | _ => 0

def parameterCount : List (GraphNode α) → Nat
  | [] => 0
  | node :: rest => node.parameters + parameterCount rest

theorem parameterCount_append (front back : List (GraphNode α)) :
    parameterCount (front ++ back) = parameterCount front + parameterCount back := by
  induction front with
  | nil => exact (Nat.zero_add _).symm
  | cons node rest ih => rw [List.cons_append, parameterCount, ih, parameterCount, Nat.add_assoc]

/-- The shapes of the nodes in front of one of them. -/
def shapeBefore (nodes : Array (GraphNode α)) (id x : Nat) : Option VolumeShape :=
  if x < id then nodes[x]?.map (·.shape) else none

theorem exists_of_shapeBefore {nodes : Array (GraphNode α)} {id x : Nat} {shape : VolumeShape}
    (h : shapeBefore nodes id x = some shape) :
    ∃ node, x < id ∧ nodes[x]? = some node ∧ node.shape = shape := by
  unfold shapeBefore at h
  split at h
  · rename_i hlt
    obtain ⟨node, hnode, hshape⟩ := Option.map_eq_some_iff.mp h
    exact ⟨node, hlt, hnode, hshape⟩
  · cases h

theorem shapeBefore_push (nodes : Array (GraphNode α)) (node : GraphNode α) {id : Nat}
    (h : id ≤ nodes.size) : shapeBefore (nodes.push node) id = shapeBefore nodes id := by
  funext x
  unfold shapeBefore
  by_cases hx : x < id
  · rw [if_pos hx, if_pos hx, Array.getElem?_push, if_neg (by omega)]
  · rw [if_neg hx, if_neg hx]

/-- The operands have shapes from which the operation makes a volume of the shape. -/
def NodeOperation.Typed (shapeOf : Nat → Option VolumeShape) :
    NodeOperation α → VolumeShape → Prop
  | input, _ => True
  | conv2d x filter stride padding, shape =>
      ∃ source, shapeOf x = some source ∧ filter.Convolves stride padding source shape
  | batchNorm x scale shift, shape =>
      shapeOf x = some shape ∧ scale.size = shape.channels ∧ shift.size = shape.channels
  | relu x, shape => shapeOf x = some shape
  | maxPool x size stride padding, shape =>
      ∃ source, shapeOf x = some source ∧ source.Pools size stride padding shape ∧ padding < size
  | add x y, shape => shapeOf x = some shape ∧ shapeOf y = some shape
  | globalAveragePool x, shape =>
      ∃ source, shapeOf x = some source ∧ shape = ⟨source.channels, 1, 1⟩
  | dense x weights bias, shape =>
      ∃ source, shapeOf x = some source ∧ weights.columns = source.size ∧
        weights.values.size = weights.rows * weights.columns ∧ bias.size = weights.rows ∧
        shape = ⟨weights.rows, 1, 1⟩

theorem NodeOperation.Typed.operand_known {shapeOf : Nat → Option VolumeShape}
    {operation : NodeOperation α} {shape : VolumeShape} (h : operation.Typed shapeOf shape)
    {x : Nat} (hx : x ∈ operation.inputs) : ∃ source, shapeOf x = some source := by
  cases operation with
  | input => simp [inputs] at hx
  | add a b =>
    simp only [inputs, List.mem_cons, List.not_mem_nil, or_false] at hx
    rcases hx with rfl | rfl
    · exact ⟨shape, h.1⟩
    · exact ⟨shape, h.2⟩
  | batchNorm a scale shift =>
    obtain rfl := List.mem_singleton.mp hx
    exact ⟨shape, h.1⟩
  | relu a =>
    obtain rfl := List.mem_singleton.mp hx
    exact ⟨shape, h⟩
  | conv2d | maxPool | globalAveragePool | dense =>
    obtain rfl := List.mem_singleton.mp hx
    obtain ⟨source, hsource, -⟩ := h
    exact ⟨source, hsource⟩

/-- Every node has been made for the nodes in front of it. -/
def NodesFit (nodes : Array (GraphNode α)) : Prop :=
  ∀ (id : Nat) (node : GraphNode α), nodes[id]? = some node →
    node.operation.Typed (shapeBefore nodes id) node.shape

theorem NodesFit.operand_lt {nodes : Array (GraphNode α)} (h : NodesFit nodes) {id : Nat}
    {node : GraphNode α} (hnode : nodes[id]? = some node) {x : Nat}
    (hx : x ∈ node.operation.inputs) : x < id := by
  obtain ⟨source, hsource⟩ := (h id node hnode).operand_known hx
  obtain ⟨-, hlt, -⟩ := exists_of_shapeBefore hsource
  exact hlt

theorem NodesFit.push {nodes : Array (GraphNode α)} (h : NodesFit nodes) {node : GraphNode α}
    (htyped : node.operation.Typed (shapeBefore nodes nodes.size) node.shape) :
    NodesFit (nodes.push node) := by
  intro id found hfound
  rw [Array.getElem?_push] at hfound
  by_cases hid : id = nodes.size
  · rw [if_pos hid, Option.some.injEq] at hfound
    subst hfound
    rw [shapeBefore_push _ _ (Nat.le_of_eq hid), hid]
    exact htyped
  · rw [if_neg hid] at hfound
    have hlt := (Array.getElem?_eq_some_iff.mp hfound).1
    rw [shapeBefore_push _ _ (Nat.le_of_lt hlt)]
    exact h id found hfound

namespace Random

variable [Scalar α]

@[simp] theorem size_drawOnto (drawn : Array α) (bound : α) (count : Nat) (stream : KeyStream) :
    (drawOnto drawn bound count stream).1.size = drawn.size + count := by
  induction count generalizing drawn stream with
  | zero => rfl
  | succ count ih =>
    rw [drawOnto, ih, Array.size_push]
    omega

end Random

namespace GraphBuilder

/-- Another node has been appended and counted. -/
structure Extends (before : GraphBuilder α) (node : GraphNode α) (after : GraphBuilder α) :
    Prop where
  nodes_eq : after.nodes = before.nodes.push node
  parameters_eq : after.parameters = before.parameters + node.parameters
  typed : node.operation.Typed (shapeBefore before.nodes before.nodes.size) node.shape

/-- All that a call can do: stop without a trace, or append a node and answer its number. -/
def Outcome (builder : GraphBuilder α) (reply : Reply α) : Prop :=
  (∃ stop, reply = (.error stop, builder)) ∨
    ∃ node after, reply = (.ok builder.nodes.size, after) ∧ builder.Extends node after

theorem refuse_outcome (builder : GraphBuilder α) (name message : String) :
    builder.Outcome (builder.refuse name message) :=
  Or.inl ⟨_, rfl⟩

theorem withShape_outcome (builder : GraphBuilder α) (id : Nat) (next : VolumeShape → Reply α)
    (h : ∀ shape, shapeBefore builder.nodes builder.nodes.size id = some shape →
      builder.Outcome (next shape)) : builder.Outcome (builder.withShape id next) := by
  unfold withShape shapeOf
  cases hnode : builder.nodes[id]? with
  | none => exact Or.inl ⟨_, rfl⟩
  | some node =>
    have hlt := (Array.getElem?_eq_some_iff.mp hnode).1
    refine h node.shape ?_
    rw [shapeBefore, if_pos hlt, hnode]
    rfl

theorem withRoom_outcome (builder : GraphBuilder α) (shape : List Nat) {next : Reply α}
    (h : builder.Outcome next) : builder.Outcome (builder.withRoom shape next) := by
  unfold withRoom
  split
  · exact h
  · exact Or.inl ⟨_, rfl⟩

/-- A node is appended to a builder that has drawn and counted its parameters. -/
theorem push_outcome (builder drawn : GraphBuilder α) (name : String)
    (operation : NodeOperation α) (shape : VolumeShape) (hnodes : drawn.nodes = builder.nodes)
    (hparameters : drawn.parameters =
      builder.parameters + (GraphNode.mk name operation shape).parameters)
    (htyped : operation.Typed (shapeBefore builder.nodes builder.nodes.size) shape) :
    builder.Outcome (drawn.push name operation shape) := by
  refine Or.inr ⟨⟨name, operation, shape⟩, (drawn.push name operation shape).2, ?_, ?_,
    hparameters, htyped⟩
  · rw [push, hnodes]
  · rw [push, hnodes]

theorem relu_outcome (builder : GraphBuilder α) (name : String) (x : Nat) :
    builder.Outcome (builder.relu name x) :=
  builder.withShape_outcome x _ fun _ hsource => builder.push_outcome _ _ _ _ rfl rfl hsource

theorem maxPool_outcome (builder : GraphBuilder α) (name : String)
    (x size stride padding : Nat) :
    builder.Outcome (builder.maxPool name x size stride padding) := by
  refine builder.withShape_outcome x _ fun source hsource => ?_
  cases hheight : Window.outputLength? source.height size stride padding with
  | none => exact builder.refuse_outcome _ _
  | some height =>
    cases hwidth : Window.outputLength? source.width size stride padding with
    | none => exact builder.refuse_outcome _ _
    | some width =>
      by_cases hpadding : padding < size
      · simp only [if_pos hpadding]
        exact builder.push_outcome _ _ _ _ rfl rfl
          ⟨source, hsource, ⟨hheight, hwidth, rfl⟩, hpadding⟩
      · simp only [if_neg hpadding]
        exact builder.refuse_outcome _ _

theorem add_outcome (builder : GraphBuilder α) (name : String) (x y : Nat) :
    builder.Outcome (builder.add name x y) := by
  refine builder.withShape_outcome x _ fun left hleft => ?_
  refine builder.withShape_outcome y _ fun right hright => ?_
  by_cases hsame : left = right
  · subst hsame
    rw [if_pos rfl]
    exact builder.push_outcome _ _ _ _ rfl rfl ⟨hleft, hright⟩
  · rw [if_neg hsame]
    exact builder.refuse_outcome _ _

theorem globalAveragePool_outcome (builder : GraphBuilder α) (name : String) (x : Nat) :
    builder.Outcome (builder.globalAveragePool name x) :=
  builder.withShape_outcome x _ fun source hsource =>
    builder.push_outcome _ _ _ _ rfl rfl ⟨source, hsource, rfl⟩

variable [Scalar α]

theorem conv2d_outcome (builder : GraphBuilder α) (name : String)
    (x outputs size stride padding : Nat) :
    builder.Outcome (builder.conv2d name x outputs size stride padding) := by
  refine builder.withShape_outcome x _ fun source hsource => ?_
  cases hheight : Window.outputLength? source.height size stride padding with
  | none => exact builder.refuse_outcome _ _
  | some height =>
    cases hwidth : Window.outputLength? source.width size stride padding with
    | none => exact builder.refuse_outcome _ _
    | some width =>
      refine builder.withRoom_outcome _ (builder.push_outcome _ _ _ _ rfl rfl ⟨source, hsource, ?_⟩)
      exact ⟨rfl, rfl, by simp, hheight, hwidth, rfl⟩

theorem batchNorm_outcome (builder : GraphBuilder α) (name : String) (x : Nat) :
    builder.Outcome (builder.batchNorm name x) := by
  refine builder.withShape_outcome x _ fun source hsource => ?_
  exact builder.withRoom_outcome _ (builder.push_outcome _ _ _ _ rfl rfl
    ⟨hsource, Array.size_replicate, Array.size_replicate⟩)

theorem dense_outcome (builder : GraphBuilder α) (name : String) (x units : Nat) :
    builder.Outcome (builder.dense name x units) := by
  refine builder.withShape_outcome x _ fun source hsource => ?_
  refine builder.withRoom_outcome _ (builder.withRoom_outcome _ (builder.push_outcome _ _ _ _ rfl ?_
    ⟨source, hsource, rfl, by simp, by simp, rfl⟩))
  simp [GraphNode.parameters, count, Nat.add_assoc]

theorem perform_outcome (builder : GraphBuilder α) (call : NodeCall) :
    builder.Outcome (builder.perform call) := by
  cases call with
  | input channels height width => exact builder.push_outcome _ _ _ _ rfl rfl trivial
  | conv2d name x outputs size stride padding =>
    exact builder.conv2d_outcome name x outputs size stride padding
  | batchNorm name x => exact builder.batchNorm_outcome name x
  | relu name x => exact builder.relu_outcome name x
  | maxPool name x size stride padding => exact builder.maxPool_outcome name x size stride padding
  | add name x y => exact builder.add_outcome name x y
  | globalAveragePool name x => exact builder.globalAveragePool_outcome name x
  | dense name x units => exact builder.dense_outcome name x units

/-- The nodes fit each other, and the parameters are those of the nodes. -/
structure Consistent (builder : GraphBuilder α) : Prop where
  fit : NodesFit builder.nodes
  counted : builder.parameters = parameterCount builder.nodes.toList

omit [Scalar α] in
theorem Consistent.extended {before after : GraphBuilder α} {node : GraphNode α}
    (h : before.Consistent) (hextends : before.Extends node after) : after.Consistent := by
  constructor
  · rw [hextends.nodes_eq]
    exact h.fit.push hextends.typed
  · rw [hextends.parameters_eq, hextends.nodes_eq, Array.toList_push, parameterCount_append,
      h.counted]
    rfl

theorem perform_consistent {builder : GraphBuilder α} (h : builder.Consistent) (call : NodeCall) :
    (builder.perform call).2.Consistent := by
  rcases builder.perform_outcome call with ⟨stop, hreply⟩ | ⟨node, after, hreply, hextends⟩
  · rw [hreply]
    exact h
  · rw [hreply]
    exact h.extended hextends

theorem performAll_consistent {builder : GraphBuilder α} (h : builder.Consistent)
    (calls : List NodeCall) : (builder.performAll calls).2.Consistent := by
  induction calls generalizing builder with
  | nil => exact h
  | cons call rest ih => exact ih (perform_consistent h call)

omit [Scalar α] in
theorem ofSeed_consistent (seed : UInt64) : (ofSeed seed : GraphBuilder α).Consistent :=
  ⟨fun id node h => by simp [ofSeed] at h, rfl⟩

/-- The builder after calls, whatever became of each. -/
def ofCalls (seed : UInt64) (calls : List NodeCall) : GraphBuilder α :=
  ((ofSeed seed).performAll calls).2

theorem ofCalls_consistent (seed : UInt64) (calls : List NodeCall) :
    (ofCalls seed calls : GraphBuilder α).Consistent :=
  performAll_consistent (ofSeed_consistent seed) calls

end GraphBuilder

end TensorBench
