import TensorBench.Proofs.Failure
import TensorBench.Proofs.TensorGraph.Construction

/-!
Calls that are accepted. From the shapes of its operands a call makes the shape of a node and those of
its parameters, or none. A builder accepts exactly the calls that make a shape and have room for their
parameters, and the node that it appends has that shape and the operands of the call. A call that makes
a shape without room for its parameters crashes.
-/
namespace TensorBench

variable {α : Type}

namespace NodeCall

/-- The operands of a call, one for each use. -/
def operands : NodeCall → List Nat
  | input .. => []
  | conv2d _ x _ _ _ _ => [x]
  | batchNorm _ x => [x]
  | relu _ x => [x]
  | maxPool _ x _ _ _ => [x]
  | add _ x y => [x, y]
  | globalAveragePool _ x => [x]
  | dense _ x _ => [x]

/-- A call makes a shape, with parameters of some shapes, of what is known about its operands. -/
inductive Makes (known : Nat → VolumeShape → Prop) :
    NodeCall → VolumeShape → List (List Nat) → Prop
  | input (channels height width : Nat) :
      Makes known (input channels height width) ⟨channels, height, width⟩ []
  | conv2d {name : String} {x size stride padding height width : Nat} {source : VolumeShape}
      (outputs : Nat) (hx : known x source)
      (hheight : Window.outputLength? source.height size stride padding = some height)
      (hwidth : Window.outputLength? source.width size stride padding = some width) :
      Makes known (conv2d name x outputs size stride padding) ⟨outputs, height, width⟩
        [[outputs, source.channels, size, size]]
  | batchNorm {name : String} {x : Nat} {shape : VolumeShape} (hx : known x shape) :
      Makes known (batchNorm name x) shape [[shape.channels]]
  | relu {name : String} {x : Nat} {shape : VolumeShape} (hx : known x shape) :
      Makes known (relu name x) shape []
  | maxPool {name : String} {x size stride padding : Nat} {source shape : VolumeShape}
      (hx : known x source) (hpools : source.Pools size stride padding shape)
      (hpadding : padding < size) : Makes known (maxPool name x size stride padding) shape []
  | add {name : String} {x y : Nat} {shape : VolumeShape} (hx : known x shape)
      (hy : known y shape) : Makes known (add name x y) shape []
  | globalAveragePool {name : String} {x : Nat} {source : VolumeShape} (hx : known x source) :
      Makes known (globalAveragePool name x) ⟨source.channels, 1, 1⟩ []
  | dense {name : String} {x : Nat} {source : VolumeShape} (units : Nat) (hx : known x source) :
      Makes known (dense name x units) ⟨units, 1, 1⟩ [[units, source.size], [units]]

theorem Makes.mono {known more : Nat → VolumeShape → Prop} {call : NodeCall} {shape : VolumeShape}
    {parameters : List (List Nat)} (h : call.Makes known shape parameters)
    (hmore : ∀ x source, known x source → more x source) : call.Makes more shape parameters := by
  cases h with
  | input => exact .input _ _ _
  | conv2d _ hx hheight hwidth => exact .conv2d _ (hmore _ _ hx) hheight hwidth
  | batchNorm hx => exact .batchNorm (hmore _ _ hx)
  | relu hx => exact .relu (hmore _ _ hx)
  | maxPool hx hpools hpadding => exact .maxPool (hmore _ _ hx) hpools hpadding
  | add hx hy => exact .add (hmore _ _ hx) (hmore _ _ hy)
  | globalAveragePool hx => exact .globalAveragePool (hmore _ _ hx)
  | dense _ hx => exact .dense _ (hmore _ _ hx)

end NodeCall

namespace GraphBuilder

/-- The node exists and has the shape. -/
def Knows (builder : GraphBuilder α) (x : Nat) (shape : VolumeShape) : Prop :=
  builder.shapeOf x = .ok shape

theorem knows_iff (builder : GraphBuilder α) (x : Nat) (shape : VolumeShape) :
    builder.Knows x shape ↔ ∃ node, builder.nodes[x]? = some node ∧ node.shape = shape := by
  unfold Knows shapeOf
  cases builder.nodes[x]? <;> simp

theorem getElem?_pushed {before after : GraphBuilder α} {node found : GraphNode α} {x : Nat}
    (hnodes : after.nodes = before.nodes.push node) (hfound : before.nodes[x]? = some found) :
    after.nodes[x]? = some found := by
  have hlt := (Array.getElem?_eq_some_iff.mp hfound).1
  rw [hnodes, Array.getElem?_push, if_neg (Nat.ne_of_lt hlt), hfound]

theorem knows_pushed {before after : GraphBuilder α} {node : GraphNode α}
    (h : after.nodes = before.nodes.push node) : after.Knows before.nodes.size node.shape := by
  refine (knows_iff _ _ _).mpr ⟨node, ?_, rfl⟩
  rw [h, Array.getElem?_push_size]

theorem Knows.pushed {before after : GraphBuilder α} {node : GraphNode α} {x : Nat}
    {shape : VolumeShape} (h : before.Knows x shape) (hnodes : after.nodes = before.nodes.push node) :
    after.Knows x shape := by
  obtain ⟨found, hfound, hshape⟩ := (knows_iff _ _ _).mp h
  exact (knows_iff _ _ _).mpr ⟨found, getElem?_pushed hnodes hfound, hshape⟩

theorem withShape_eq {builder : GraphBuilder α} {x : Nat} {shape : VolumeShape}
    (h : builder.Knows x shape) (next : VolumeShape → Reply α) :
    builder.withShape x next = next shape := by
  rw [withShape, h]

/-- A call whose operand is missing is not accepted, so the operand has a shape. -/
theorem exists_knows_of_withShape {builder after : GraphBuilder α} {x id : Nat}
    {next : VolumeShape → Reply α} (h : builder.withShape x next = (.ok id, after)) :
    ∃ shape, builder.Knows x shape ∧ next shape = (.ok id, after) := by
  unfold withShape at h
  split at h
  · rename_i shape hshape
    exact ⟨shape, hshape, h⟩
  · cases h

theorem withRoom_eq {shape : List Nat} (h : HasRoom shape) (builder : GraphBuilder α)
    (next : Reply α) : builder.withRoom shape next = next := by
  rw [withRoom, h]

theorem withRoom_crashes {shape : List Nat} (h : ¬ HasRoom shape) (builder : GraphBuilder α)
    (next : Reply α) : builder.withRoom shape next = (.error .crashed, builder) := by
  rw [withRoom, reserveArray_crashes h]

/-- Without room a call is not accepted. -/
theorem hasRoom_of_withRoom {builder after : GraphBuilder α} {shape : List Nat} {id : Nat}
    {next : Reply α} (h : builder.withRoom shape next = (.ok id, after)) : HasRoom shape := by
  by_contra hroom
  rw [withRoom_crashes hroom] at h
  cases h

variable [Scalar α]

/-- The call appends a node of the shape, with the operands of the call. -/
def Appends (builder : GraphBuilder α) (call : NodeCall) (shape : VolumeShape) : Prop :=
  ∃ node after, builder.perform call = (.ok builder.nodes.size, after) ∧
    after.nodes = builder.nodes.push node ∧ node.shape = shape ∧
    node.operation.inputs = call.operands

theorem appends_of_makes {builder : GraphBuilder α} {call : NodeCall} {shape : VolumeShape}
    {parameters : List (List Nat)} (h : call.Makes builder.Knows shape parameters)
    (hroom : ∀ parameter ∈ parameters, HasRoom parameter) : builder.Appends call shape := by
  unfold Appends
  cases h with
  | input => exact ⟨_, _, rfl, rfl, rfl, rfl⟩
  | conv2d _ hx hheight hwidth =>
    rw [perform, conv2d, withShape_eq hx]
    simp only [hheight, hwidth, withRoom_eq (hroom _ List.mem_cons_self)]
    exact ⟨_, _, rfl, rfl, rfl, rfl⟩
  | batchNorm hx =>
    rw [perform, batchNorm, withShape_eq hx, withRoom_eq (hroom _ List.mem_cons_self)]
    exact ⟨_, _, rfl, rfl, rfl, rfl⟩
  | relu hx =>
    rw [perform, relu, withShape_eq hx]
    exact ⟨_, _, rfl, rfl, rfl, rfl⟩
  | @maxPool _ _ _ _ _ source _ hx hpools hpadding =>
    rw [perform, maxPool, withShape_eq hx]
    simp only [hpools.height_eq, hpools.width_eq, if_pos hpadding]
    refine ⟨_, _, rfl, rfl, ?_, rfl⟩
    rw [← hpools.channels_eq]
  | add hx hy =>
    rw [perform, add, withShape_eq hx, withShape_eq hy, if_pos rfl]
    exact ⟨_, _, rfl, rfl, rfl, rfl⟩
  | globalAveragePool hx =>
    rw [perform, globalAveragePool, withShape_eq hx]
    exact ⟨_, _, rfl, rfl, rfl, rfl⟩
  | dense _ hx =>
    obtain ⟨hweights, hbias⟩ := List.forall_mem_cons.mp hroom
    rw [perform, dense, withShape_eq hx]
    simp only [withRoom_eq hweights, withRoom_eq (hbias _ List.mem_cons_self)]
    exact ⟨_, _, rfl, rfl, rfl, rfl⟩

/-- Without room for a parameter the call crashes. -/
theorem crashes_of_makes {builder : GraphBuilder α} {call : NodeCall} {shape : VolumeShape}
    {parameters : List (List Nat)} (h : call.Makes builder.Knows shape parameters)
    (hroom : ¬ ∀ parameter ∈ parameters, HasRoom parameter) :
    builder.perform call = (.error .crashed, builder) := by
  cases h with
  | input | relu | maxPool | add | globalAveragePool => exact absurd nofun hroom
  | conv2d _ hx hheight hwidth =>
    rw [List.forall_mem_singleton] at hroom
    rw [perform, conv2d, withShape_eq hx]
    simp only [hheight, hwidth, withRoom_crashes hroom]
  | batchNorm hx =>
    rw [List.forall_mem_singleton] at hroom
    rw [perform, batchNorm, withShape_eq hx, withRoom_crashes hroom]
  | @dense _ _ source units hx =>
    rw [List.forall_mem_cons, List.forall_mem_singleton] at hroom
    rw [perform, dense, withShape_eq hx]
    by_cases hweights : HasRoom [units, source.size]
    · have hbias : ¬ HasRoom [units] := fun hbias => hroom ⟨hweights, hbias⟩
      simp only [withRoom_eq hweights, withRoom_crashes hbias]
    · simp only [withRoom_crashes hweights]

theorem exists_makes_of_perform {builder after : GraphBuilder α} {call : NodeCall} {id : Nat}
    (h : builder.perform call = (.ok id, after)) :
    ∃ shape parameters, call.Makes builder.Knows shape parameters ∧
      ∀ parameter ∈ parameters, HasRoom parameter := by
  cases call with
  | input => exact ⟨_, _, .input _ _ _, nofun⟩
  | conv2d name x outputs size stride padding =>
    obtain ⟨source, hx, h⟩ := exists_knows_of_withShape h
    split at h
    · rename_i height width hheight hwidth
      exact ⟨_, _, .conv2d outputs hx hheight hwidth,
        List.forall_mem_singleton.mpr (hasRoom_of_withRoom h)⟩
    · cases h
  | batchNorm name x =>
    obtain ⟨source, hx, h⟩ := exists_knows_of_withShape h
    exact ⟨source, _, .batchNorm hx, List.forall_mem_singleton.mpr (hasRoom_of_withRoom h)⟩
  | relu name x =>
    obtain ⟨source, hx, -⟩ := exists_knows_of_withShape h
    exact ⟨source, _, .relu hx, nofun⟩
  | maxPool name x size stride padding =>
    obtain ⟨source, hx, h⟩ := exists_knows_of_withShape h
    split at h
    · rename_i height width hheight hwidth
      split at h
      · rename_i hpadding
        exact ⟨⟨source.channels, height, width⟩, _,
          .maxPool hx ⟨hheight, hwidth, rfl⟩ hpadding, nofun⟩
      · cases h
    · cases h
  | add name x y =>
    obtain ⟨left, hx, h⟩ := exists_knows_of_withShape h
    obtain ⟨right, hy, h⟩ := exists_knows_of_withShape h
    split at h
    · rename_i hsame
      exact ⟨left, _, .add hx (hsame ▸ hy), nofun⟩
    · cases h
  | globalAveragePool name x =>
    obtain ⟨source, hx, -⟩ := exists_knows_of_withShape h
    exact ⟨_, _, .globalAveragePool hx, nofun⟩
  | dense name x units =>
    obtain ⟨source, hx, h⟩ := exists_knows_of_withShape h
    have hweights := hasRoom_of_withRoom h
    rw [withRoom_eq hweights] at h
    exact ⟨_, _, .dense units hx, List.forall_mem_cons.mpr
      ⟨hweights, List.forall_mem_singleton.mpr (hasRoom_of_withRoom h)⟩⟩

/-- A builder accepts the calls that make a shape and have room for their parameters, and no others. -/
theorem accepts_iff (builder : GraphBuilder α) (call : NodeCall) :
    (∃ id after, builder.perform call = (.ok id, after)) ↔
      ∃ shape parameters, call.Makes builder.Knows shape parameters ∧
        ∀ parameter ∈ parameters, HasRoom parameter := by
  constructor
  · rintro ⟨id, after, h⟩
    exact exists_makes_of_perform h
  · rintro ⟨shape, parameters, h, hroom⟩
    obtain ⟨node, after, hperform, -⟩ := appends_of_makes h hroom
    exact ⟨_, after, hperform⟩

end GraphBuilder

end TensorBench
