import TensorBench.TensorGraph.Builder
import TensorBench.TensorGraph.Memory

/-!
Finished tensor graphs and their evaluation. Nodes are evaluated in order up to the output; the
value of a node is released as soon as its last consumer has run, unless it is the output.
-/
namespace TensorBench

structure TensorGraph (α : Type) where
  nodes : Array (GraphNode α)
  /-- How often each node is used as an operand anywhere in the graph. -/
  consumers : Array Nat
  output : Nat
  parameters : Nat
deriving DecidableEq, Inhabited

/-- The graph of all nodes so far, with one of them as its output. -/
def GraphBuilder.finish {α : Type} (builder : GraphBuilder α) (output : Nat) :
    Except Failure (TensorGraph α) :=
  if output < builder.nodes.size then
    let uses := builder.nodes.toList.flatMap fun node => node.operation.inputs
    .ok ⟨builder.nodes, ((List.range builder.nodes.size).map uses.count).toArray, output,
      builder.parameters⟩
  else .error (.notFound s!"graph node {output}")

/-- An evaluation on its way: the uses of each node that are still to come, and the values held. -/
structure Progress (α : Type) where
  remaining : Array Nat
  space : Workspace α
deriving DecidableEq, Inhabited

namespace TensorGraph

variable {α : Type}

def inputShape? (graph : TensorGraph α) : Option VolumeShape :=
  (graph.nodes.toList.find? fun node => node.operation.isInput).map (·.shape)

def outputShape (graph : TensorGraph α) : VolumeShape :=
  (graph.nodes.toList.getD graph.output ⟨"", .input, ⟨0, 0, 0⟩⟩).shape

variable [Scalar α]

/-- An operator applied to a live value. -/
def applied (scope : Scope α) (id : Nat) (operator : Volume α → Option (Volume α)) :
    Except Stop (Volume α) :=
  match scope.get id with
  | .error failure => .error (.failed failure)
  | .ok x =>
      match operator x with
      | some y => .ok y
      | none => .error .crashed

/-- The value of a node, computed from the values held in a scope. -/
def valueOf (input : Volume α) (parallel : Bool) (scope : Scope α) (node : GraphNode α) :
    Except Stop (Volume α) :=
  match node.operation with
  | .input =>
      if input.shape = node.shape then .ok input
      else .error (.failed (.execution GraphBuilder.engineKind
        s!"input shape {input.shape.text} does not match {node.shape.text}"))
  | .conv2d x filter stride padding =>
      applied scope x fun x => Operator.conv2d? x filter stride padding parallel
  | .batchNorm x scale shift => applied scope x fun x => some (Operator.batchNorm x scale shift)
  | .relu x => applied scope x fun x => some (Operator.relu x)
  | .maxPool x size stride padding =>
      applied scope x fun x => Operator.maxPool? x size stride padding
  | .add x y =>
      match scope.get x with
      | .error failure => .error (.failed failure)
      | .ok left => applied scope y fun right => Operator.add? left right
  | .globalAveragePool x => applied scope x fun x => some (Operator.globalAveragePool x)
  | .dense x weights bias => applied scope x fun x => Operator.dense? x weights bias

/-- One use of a node is over. -/
def consume (graph : TensorGraph α) (progress : Progress α) (id : Nat) : Progress α :=
  let left := (progress.remaining.getD id 0) - 1
  ⟨progress.remaining.setIfInBounds id left,
    if left = 0 ∧ id ≠ graph.output then progress.space.release id else progress.space⟩

/-- Evaluate one node and release what nobody needs any more. -/
def step (graph : TensorGraph α) (input : Volume α) (parallel : Bool) (node : GraphNode α)
    (id : Nat) (progress : Progress α) : Except Stop Unit × Progress α :=
  match valueOf input parallel progress.space.scope node with
  | .error stop => (.error stop, progress)
  | .ok value =>
      match progress.space.insert id value with
      | .error failure => (.error (.failed failure), progress)
      | .ok space =>
          (.ok (), node.operation.inputs.foldl graph.consume ⟨progress.remaining, space⟩)

/-- Evaluate nodes in order, as far as the output. -/
def steps (graph : TensorGraph α) (input : Volume α) (parallel : Bool) :
    List (GraphNode α × Nat) → Progress α → Except Stop Unit × Progress α
  | [], progress => (.ok (), progress)
  | (node, id) :: rest, progress =>
      match graph.step input parallel node id progress with
      | (.error stop, progress) => (.error stop, progress)
      | (.ok (), progress) =>
          if id = graph.output then (.ok (), progress)
          else graph.steps input parallel rest progress

/-- The elements of the output for one input. The output stays in the scope. -/
def evaluate (graph : TensorGraph α) (input : Volume α) (parallel : Bool) (space : Workspace α) :
    Except Stop (Array α) × Workspace α :=
  let (result, progress) := graph.steps input parallel graph.nodes.toList.zipIdx
    ⟨graph.consumers, space⟩
  match result with
  | .error stop => (.error stop, progress.space)
  | .ok () =>
      match progress.space.scope.get graph.output with
      | .ok output => (.ok output.values, progress.space)
      | .error failure => (.error (.failed failure), progress.space)

end TensorGraph

end TensorBench
