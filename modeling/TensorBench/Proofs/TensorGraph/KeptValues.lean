import TensorBench.Proofs.TensorGraph.Construction
import TensorBench.Proofs.TensorGraph.Slots

/-!
Evaluation that keeps every value. It defines what a graph computes, and since the value of a node
depends on nothing but the values of its operands, any other way of holding them gives the same.
Every value is a whole volume of the shape recorded for its node.
-/
namespace TensorBench

variable {α : Type}

/-- A scope that holds the values of all nodes so far. -/
def Scope.ofValues (values : Array (Volume α)) : Scope α := ⟨values.map some, 0⟩

theorem Scope.get_ofValues {values : Array (Volume α)} {x : Nat} {value : Volume α}
    (h : values[x]? = some value) : (ofValues values).get x = .ok value := by
  simp [ofValues, get, h]

/-- The scope holds the values of the operands of a node. -/
def Scope.Offers (scope : Scope α) (values : Array (Volume α)) (node : GraphNode α) : Prop :=
  ∀ x ∈ node.operation.inputs, ∃ value, values[x]? = some value ∧ scope.get x = .ok value

theorem Scope.Offers.of_push {scope : Scope α} {values : Array (Volume α)} {value : Volume α}
    {node : GraphNode α} (h : scope.Offers (values.push value) node)
    (hinputs : ∀ x ∈ node.operation.inputs, x < values.size) : scope.Offers values node := by
  intro x hx
  obtain ⟨found, hfound, hget⟩ := h x hx
  rw [Array.getElem?_push, if_neg (Nat.ne_of_lt (hinputs x hx))] at hfound
  exact ⟨found, hfound, hget⟩

namespace TensorGraph

/-- What an input has to be for the nodes up to the output: whole, and of the shape of each input
node. -/
structure Accepts (graph : TensorGraph α) (input : Volume α) : Prop where
  complete : input.WellFormed
  shape_eq : ∀ (id : Nat) (node : GraphNode α), id ≤ graph.output →
    graph.nodes[id]? = some node → node.operation.isInput = true → input.shape = node.shape

variable [Scalar α]

/-- Evaluate nodes in order and append each value to those kept. -/
def keepValues (input : Volume α) :
    List (GraphNode α) → Array (Volume α) → Except Stop (Array (Volume α))
  | [], values => .ok values
  | node :: rest, values =>
      match valueOf input false (Scope.ofValues values) node with
      | .error stop => .error stop
      | .ok value => keepValues input rest (values.push value)

omit [Scalar α] in
theorem applied_eq_ok {scope : Scope α} {x : Nat} {value y : Volume α}
    {operator : Volume α → Option (Volume α)} (hget : scope.get x = .ok value)
    (hy : operator value = some y) : applied scope x operator = .ok y := by
  simp only [applied, hget, hy]

/-- A node only sees its operands, and tasks make no difference. -/
theorem valueOf_eq {values : Array (Volume α)} {node : GraphNode α} {scope other : Scope α}
    (h : scope.Offers values node) (hother : other.Offers values node) (input : Volume α)
    (parallel : Bool) :
    valueOf input parallel scope node = valueOf input false other node := by
  have hsame : ∀ x ∈ node.operation.inputs, scope.get x = other.get x := by
    intro x hx
    obtain ⟨value, hvalue, hget⟩ := h x hx
    obtain ⟨value', hvalue', hget'⟩ := hother x hx
    cases hvalue.symm.trans hvalue'
    exact hget.trans hget'.symm
  unfold valueOf
  cases hoperation : node.operation with
  | input => rfl
  | conv2d x filter stride padding =>
    simp only [applied, hsame x (by simp [hoperation, NodeOperation.inputs]),
      fun x : Volume α => Operator.conv2d?_parallel x filter stride padding parallel]
  | batchNorm x | relu x | maxPool x | globalAveragePool x | dense x =>
    simp only [applied, hsame x (by simp [hoperation, NodeOperation.inputs])]
  | add x y =>
    simp only [applied, hsame x (by simp [hoperation, NodeOperation.inputs]),
      hsame y (by simp [hoperation, NodeOperation.inputs])]

/-- The operands that a node has been built for are held, each with its recorded shape. -/
def Supplies (scope : Scope α) (shapeOf : Nat → Option VolumeShape) (node : GraphNode α) : Prop :=
  ∀ x ∈ node.operation.inputs, ∀ shape, shapeOf x = some shape →
    ∃ value, scope.get x = .ok value ∧ value.HasShape shape

/-- A node whose operands have their shapes gets a value of its own shape. -/
theorem valueOf_hasShape {shapeOf : Nat → Option VolumeShape} {node : GraphNode α}
    {scope : Scope α} {input : Volume α} (htyped : node.operation.Typed shapeOf node.shape)
    (hsupplies : Supplies scope shapeOf node)
    (hinput : node.operation.isInput = true → input.HasShape node.shape) :
    ∃ value, valueOf input false scope node = .ok value ∧ value.HasShape node.shape := by
  obtain ⟨name, operation, shape⟩ := node
  cases operation with
  | input =>
    have hshape := hinput rfl
    exact ⟨input, by simp [valueOf, hshape.shape_eq], hshape⟩
  | conv2d x filter stride padding =>
    obtain ⟨source, hsource, hconvolves⟩ := htyped
    obtain ⟨value, hget, hvalue⟩ := hsupplies x (List.mem_singleton_self x) source hsource
    obtain ⟨y, hy, hshape⟩ := Operator.conv2d?_hasShape (hvalue.shape_eq ▸ hconvolves) false
    exact ⟨y, applied_eq_ok hget hy, hshape⟩
  | batchNorm x scale shift =>
    obtain ⟨value, hget, hvalue⟩ := hsupplies x (List.mem_singleton_self x) shape htyped.1
    exact ⟨Operator.batchNorm value scale shift, by simp only [valueOf, applied, hget],
      Operator.batchNorm_hasShape hvalue scale shift⟩
  | relu x =>
    obtain ⟨value, hget, hvalue⟩ := hsupplies x (List.mem_singleton_self x) shape htyped
    exact ⟨Operator.relu value, by simp only [valueOf, applied, hget],
      Operator.relu_hasShape hvalue⟩
  | maxPool x size stride padding =>
    obtain ⟨source, hsource, hpools, -⟩ := htyped
    obtain ⟨value, hget, hvalue⟩ := hsupplies x (List.mem_singleton_self x) source hsource
    obtain ⟨y, hy, hshape⟩ := Operator.maxPool?_hasShape (hvalue.shape_eq ▸ hpools)
    exact ⟨y, applied_eq_ok hget hy, hshape⟩
  | add x y =>
    obtain ⟨left, hleft, hleftShape⟩ := hsupplies x (by simp [NodeOperation.inputs]) shape htyped.1
    obtain ⟨right, hright, hrightShape⟩ :=
      hsupplies y (by simp [NodeOperation.inputs]) shape htyped.2
    obtain ⟨z, hz, hshape⟩ := Operator.add?_hasShape hleftShape hrightShape
    refine ⟨z, ?_, hshape⟩
    simp only [valueOf, hleft]
    exact applied_eq_ok hright hz
  | globalAveragePool x =>
    obtain ⟨source, hsource, rfl⟩ := htyped
    obtain ⟨value, hget, hvalue⟩ := hsupplies x (List.mem_singleton_self x) source hsource
    exact ⟨Operator.globalAveragePool value, by simp only [valueOf, applied, hget],
      hvalue.shape_eq ▸ Operator.globalAveragePool_hasShape value⟩
  | dense x weights bias =>
    obtain ⟨source, hsource, hcolumns, -, hbias, rfl⟩ := htyped
    obtain ⟨value, hget, hvalue⟩ := hsupplies x (List.mem_singleton_self x) source hsource
    obtain ⟨y, hy, hshape⟩ := Operator.dense?_hasShape (hcolumns.trans hvalue.size_eq.symm) hbias
    exact ⟨y, applied_eq_ok hget hy, hshape⟩

/-! ### All values -/

theorem keepValues_append (input : Volume α) (front : List (GraphNode α)) (node : GraphNode α)
    (values : Array (Volume α)) :
    keepValues input (front ++ [node]) values = match keepValues input front values with
      | .error stop => .error stop
      | .ok values =>
          match valueOf input false (Scope.ofValues values) node with
          | .error stop => .error stop
          | .ok value => .ok (values.push value) := by
  induction front generalizing values with
  | nil => rfl
  | cons first rest ih =>
    simp only [List.cons_append, keepValues]
    cases valueOf input false (Scope.ofValues values) first with
    | error stop => rfl
    | ok value => exact ih _

/-- The values of the first nodes: each has its recorded shape, and is what its node computes from
the values of its operands wherever they are held. -/
structure Keeps (graph : TensorGraph α) (input : Volume α) (count : Nat)
    (values : Array (Volume α)) : Prop where
  size_eq : values.size = count
  run : keepValues input (graph.nodes.toList.take count) #[] = .ok values
  computed : ∀ (id : Nat) (node : GraphNode α), id < count → graph.nodes[id]? = some node →
    ∃ value, values[id]? = some value ∧ value.HasShape node.shape ∧
      ∀ (parallel : Bool) (scope : Scope α), scope.Offers values node →
        valueOf input parallel scope node = .ok value

theorem Keeps.push {graph : TensorGraph α} {input : Volume α} {count : Nat}
    {values : Array (Volume α)} (hfit : NodesFit graph.nodes) (hinput : graph.Accepts input)
    (hcount : count ≤ graph.output) {node : GraphNode α} (hnode : graph.nodes[count]? = some node)
    (h : graph.Keeps input count values) :
    ∃ value, graph.Keeps input (count + 1) (values.push value) := by
  have hoffers : (Scope.ofValues values).Offers values node := by
    intro x hx
    have hlt := hfit.operand_lt hnode hx
    have hvalue := Array.getElem?_eq_getElem (h.size_eq ▸ hlt)
    exact ⟨_, hvalue, Scope.get_ofValues hvalue⟩
  have hsupplies : Supplies (Scope.ofValues values) (shapeBefore graph.nodes count) node := by
    intro x hx shape hshape
    obtain ⟨source, hlt, hsource, rfl⟩ := exists_of_shapeBefore hshape
    obtain ⟨value, hvalue, hhas, -⟩ := h.computed x source hlt hsource
    exact ⟨value, Scope.get_ofValues hvalue, hhas⟩
  obtain ⟨value, hvalue, hhas⟩ := valueOf_hasShape (hfit count node hnode) hsupplies
    fun hisInput => ⟨hinput.shape_eq count node hcount hnode hisInput, hinput.complete⟩
  have hsize := h.size_eq
  refine ⟨value, ?_, ?_, ?_⟩
  · rw [Array.size_push, hsize]
  · have hlist : graph.nodes.toList[count]? = some node := by simpa using hnode
    rw [List.take_add_one, hlist, Option.toList_some, keepValues_append, h.run]
    simp only [hvalue]
  · intro id found hid hfound
    have hinputs : ∀ x ∈ found.operation.inputs, x < values.size := by
      intro x hx
      have hlt := hfit.operand_lt hfound hx
      omega
    rw [Array.getElem?_push]
    by_cases hlast : id = count
    · subst hlast
      cases hnode.symm.trans hfound
      rw [if_pos hsize.symm]
      refine ⟨value, rfl, hhas, fun parallel scope hscope => ?_⟩
      rw [valueOf_eq (hscope.of_push hinputs) hoffers, hvalue]
    · rw [if_neg (by omega)]
      obtain ⟨kept, hkept, hkeptHas, hcomputed⟩ := h.computed id found (by omega) hfound
      exact ⟨kept, hkept, hkeptHas, fun parallel scope hscope =>
        hcomputed parallel scope (hscope.of_push hinputs)⟩

/-- All nodes up to the output get values. -/
theorem exists_keeps {graph : TensorGraph α} {input : Volume α} (hfit : NodesFit graph.nodes)
    (houtput : graph.output < graph.nodes.size) (hinput : graph.Accepts input) (count : Nat)
    (hcount : count ≤ graph.output + 1) : ∃ values, graph.Keeps input count values := by
  induction count with
  | zero => exact ⟨#[], rfl, rfl, fun id node hid _ => absurd hid (Nat.not_lt_zero id)⟩
  | succ count ih =>
    obtain ⟨values, hvalues⟩ := ih (by omega)
    have hnode := Array.getElem?_eq_getElem (show count < graph.nodes.size by omega)
    obtain ⟨value, hpushed⟩ := hvalues.push hfit hinput (by omega) hnode
    exact ⟨_, hpushed⟩

end TensorGraph

end TensorBench
