import TensorBench.Proofs.KernelGraph.Loading
import TensorBench.Proofs.KernelGraph.Samples
import TensorBench.Proofs.Weights.StaticPart

/-!
The perceptron graph. Whatever size its batch is bound to, its layout settles, its kernels compile to
one chain of layers, and a weight file is accepted or not without regard to the batch.
-/
namespace TensorBench.KernelGraph.Perceptron

open Execution Sequencing

/-! ### The static part -/

/-- The matrices and biases one behind the other. -/
def staticLayout (inputs hidden outputs : Nat) : Layout :=
  (((Layout.empty.pushStatic "w1" (hidden * inputs * Words.elementSize)).pushStatic
    "b1" (hidden * Words.elementSize)).pushStatic
    "w2" (outputs * hidden * Words.elementSize)).pushStatic "b2" (outputs * Words.elementSize)

def staticPart (inputs hidden outputs : Nat) : StaticRegion :=
  (staticLayout inputs hidden outputs).fixed

/-- An allocation of whole elements. -/
def allocationOf (name : String) (place length : Nat) : StaticAllocation :=
  ⟨name, place * Words.elementSize, length * Words.elementSize⟩

/-- Widths and a batch of at least one, with byte counts that can be computed and addressed. -/
structure Sized (inputs hidden outputs batch : Nat) : Prop where
  inputs_pos : 0 < inputs
  hidden_pos : 0 < hidden
  outputs_pos : 0 < outputs
  batch_pos : 0 < batch
  computable : (batchBytes batch (sampleLength (tensors inputs hidden outputs)) : Int) ≤
    Words.maxSigned
  addressable : weightCount inputs hidden outputs * Words.elementSize +
    batchBytes batch (sampleLength (tensors inputs hidden outputs)) < Words.limit

/-- The bytes of the weights and of the tensors of all samples. -/
def layoutBytes (inputs hidden outputs batch : Nat) : Nat :=
  weightCount inputs hidden outputs * Words.elementSize +
    batchBytes batch (sampleLength (tensors inputs hidden outputs))

variable {inputs hidden outputs batch : Nat}

theorem layoutBytes_le {fewer : Nat} (h : fewer ≤ batch) :
    layoutBytes inputs hidden outputs fewer ≤ layoutBytes inputs hidden outputs batch :=
  Nat.add_le_add_left (Nat.mul_le_mul_right _ h) _

theorem Sized.alone (hsized : Sized inputs hidden outputs batch) :
    Sized inputs hidden outputs 1 := by
  have hfewer : batchBytes 1 (sampleLength (tensors inputs hidden outputs)) ≤
      batchBytes batch (sampleLength (tensors inputs hidden outputs)) :=
    Nat.mul_le_mul_right _ hsized.batch_pos
  have hcomputable := hsized.computable
  have haddressable := hsized.addressable
  exact ⟨hsized.inputs_pos, hsized.hidden_pos, hsized.outputs_pos, Nat.one_pos, by omega, by omega⟩

theorem size_staticPart (inputs hidden outputs : Nat) :
    (staticPart inputs hidden outputs).size =
      weightCount inputs hidden outputs * Words.elementSize := by
  simp only [staticPart, staticLayout, Layout.pushStatic, Layout.empty, weightCount,
    Words.elementSize]
  omega

theorem size_layout (inputs hidden outputs batch : Nat) :
    (staticPart inputs hidden outputs).size +
        batchBytes batch (sampleLength (tensors inputs hidden outputs)) =
      layoutBytes inputs hidden outputs batch := by
  rw [size_staticPart, layoutBytes]

theorem packed_staticPart
    (haddressable : weightCount inputs hidden outputs * Words.elementSize < Words.limit) :
    Layout.Packed (staticPart inputs hidden outputs) := by
  simp only [weightCount, Words.elementSize] at haddressable
  have hwhole (elements : Nat) : Words.elementSize ∣ elements * Words.elementSize :=
    Nat.dvd_mul_left _ _
  refine (((Layout.packed_empty.pushStatic "w1" (hwhole _) ?_).pushStatic
    "b1" (hwhole _) ?_).pushStatic
    "w2" (hwhole _) ?_).pushStatic "b2" (hwhole _) ?_ <;>
  · simp only [Layout.pushStatic, Layout.empty, Words.elementSize]
    omega

theorem get?_staticPart (inputs hidden outputs : Nat) :
    let table := (staticPart inputs hidden outputs).allocations
    table.get? "w1" = some (allocationOf "w1" 0 (hidden * inputs)) ∧
      table.get? "b1" = some (allocationOf "b1" (hidden * inputs) hidden) ∧
      table.get? "w2" = some (allocationOf "w2" (hidden * inputs + hidden) (outputs * hidden)) ∧
      table.get? "b2" =
        some (allocationOf "b2" (hidden * inputs + hidden + outputs * hidden) outputs) := by
  simp [staticPart, staticLayout, Layout.pushStatic, Layout.empty, NameTable.get?_insert,
    allocationOf, Nat.add_mul]

/-! ### Layers -/

/-- The tensor that inputs are written to. -/
def first (inputs : Nat) : Tensor := ⟨"x", 0, inputs⟩

/-- The layers with the tensors that they write. -/
def layers (inputs hidden outputs : Nat) : List (Layer × Tensor) :=
  [(.linear ⟨0, hidden * inputs⟩, ⟨"h", inputs, hidden⟩),
    (.bias ⟨hidden * inputs, hidden⟩, ⟨"h_bias", inputs + hidden, hidden⟩),
    (.transform .relu, ⟨"h_relu", inputs + hidden + hidden, hidden⟩),
    (.linear ⟨hidden * inputs + hidden, outputs * hidden⟩,
      ⟨"o", inputs + hidden + hidden + hidden, outputs⟩),
    (.bias ⟨hidden * inputs + hidden + outputs * hidden, outputs⟩,
      ⟨"o_bias", inputs + hidden + hidden + hidden + outputs, outputs⟩),
    (.transform .sigmoid,
      ⟨"y", inputs + hidden + hidden + hidden + outputs + outputs, outputs⟩)]

/-- The tensor that outputs are read from. -/
def last (inputs hidden outputs : Nat) : Tensor :=
  lastTensor (first inputs) (layers inputs hidden outputs)

theorem arranged_tensors (inputs hidden outputs : Nat) :
    arranged 0 (tensors inputs hidden outputs) =
      first inputs :: (layers inputs hidden outputs).map (·.2) := by
  simp [arranged, tensors, first, layers]

theorem first_mem_arranged (inputs hidden outputs : Nat) :
    first inputs ∈ arranged 0 (tensors inputs hidden outputs) := by
  rw [arranged_tensors]
  exact List.mem_cons_self

theorem output_mem_arranged {layer : Layer × Tensor} (hmem : layer ∈ layers inputs hidden outputs) :
    layer.2 ∈ arranged 0 (tensors inputs hidden outputs) := by
  rw [arranged_tensors]
  exact List.mem_cons_of_mem _ (List.mem_map_of_mem hmem)

theorem last_mem_arranged (inputs hidden outputs : Nat) :
    last inputs hidden outputs ∈ arranged 0 (tensors inputs hidden outputs) := by
  rw [arranged_tensors]
  simp [last, layers, lastTensor]

theorem chained_layers (hsized : Sized inputs hidden outputs batch) :
    Chained (weightCount inputs hidden outputs) (first inputs) (layers inputs hidden outputs) := by
  have hinputs := hsized.inputs_pos
  have hhidden := hsized.hidden_pos
  simp only [layers, Chained, Layer.Fits, first, weightCount, and_true, true_and]
  omega

/-! ### The layout of a batch -/

/-- The layout that the graph declares, with its expressions. -/
def layoutOf (inputs hidden outputs : Nat) : Layout :=
  ⟨staticPart inputs hidden outputs, dynamicPart (tensors inputs hidden outputs)⟩

/-- The graph with its layout written out. -/
def graphOf (inputs hidden outputs : Nat) (encoding : String) : KernelGraph :=
  ⟨layoutOf inputs hidden outputs, encoding, ["x"], ["y"], kernels inputs hidden,
    NameTable.empty.insert "N" 1⟩

theorem fresh_tensors (name : String)
    (hdeclared : name ∈ (tensors inputs hidden outputs).map (·.1)) :
    (staticPart inputs hidden outputs).allocations.get? name = none := by
  simp only [tensors, List.map_cons, List.map_nil, List.mem_cons, List.not_mem_nil, or_false]
    at hdeclared
  rcases hdeclared with rfl | rfl | rfl | rfl | rfl | rfl | rfl <;>
  · simp only [staticPart, staticLayout, Layout.pushStatic, NameTable.get?_insert]
    rfl

theorem layout_eq_ok (hsized : Sized inputs hidden outputs batch) :
    layout inputs hidden outputs = .ok (layoutOf inputs hidden outputs) := by
  have hcomputable := hsized.alone.computable
  rw [batchBytes, Nat.one_mul] at hcomputable
  have hpushed := pushTensors_eq_ok (staticLayout inputs hidden outputs) 0
    (tensors inputs hidden outputs) (by rwa [Nat.zero_add])
  rw [Nat.zero_add] at hpushed
  exact hpushed

theorem graph_eq_ok (hsized : Sized inputs hidden outputs batch) (encoding : String) :
    graph inputs hidden outputs encoding = .ok (graphOf inputs hidden outputs encoding) := by
  rw [graph, layout_eq_ok hsized]
  rfl

/-- The size of the batch: one sample, unless `N` is bound. -/
def batchOf (overrides : Bindings) : Int := (overrides.get? "N").getD 1

theorem get?_bindings {overrides : Bindings} (hbound : batchOf overrides = batch) :
    ((NameTable.empty.insert "N" 1).extend overrides).get? "N" = some (batch : Int) := by
  rw [NameTable.get?_extend, NameTable.get?_insert, if_pos rfl, ← hbound, batchOf]
  cases overrides.get? "N" <;> rfl

/-- The bound layout of a batch. -/
def BatchLayout (inputs hidden outputs batch : Nat) (layout : Layout) : Prop :=
  Batched (staticPart inputs hidden outputs) (tensors inputs hidden outputs) batch layout

theorem exists_batchLayout (hsized : Sized inputs hidden outputs batch) {bindings : Bindings}
    (hbound : bindings.get? "N" = some (batch : Int)) :
    ∃ layout, (layoutOf inputs hidden outputs).bind bindings = .ok layout ∧
      BatchLayout inputs hidden outputs batch layout := by
  have haddressable := hsized.addressable
  refine bind_dynamicPart (packed_staticPart (by omega)) (by simp [tensors]) fresh_tensors hbound
    hsized.computable ?_
  rwa [size_staticPart]

namespace BatchLayout

variable {layout : Layout}

theorem sliceOf_tensor (hbound : BatchLayout inputs hidden outputs batch layout) {tensor : Tensor}
    (hmem : tensor ∈ arranged 0 (tensors inputs hidden outputs)) :
    Step.sliceOf layout tensor.name =
      .ok (tensor.slice (weightCount inputs hidden outputs) batch) := by
  have hslice := Batched.sliceOf_tensor hbound hmem
  rwa [size_staticPart, Nat.mul_div_cancel _ (by decide)] at hslice

theorem sliceOf_static (hbound : BatchLayout inputs hidden outputs batch layout) {name : String}
    {place length : Nat} (hfound : (staticPart inputs hidden outputs).allocations.get? name =
      some (allocationOf name place length)) :
    Step.sliceOf layout name = .ok ⟨place, length⟩ := by
  have hslice := Batched.sliceOf_static hbound hfound
  rwa [allocationOf, Nat.mul_div_cancel _ (by decide), Nat.mul_div_cancel _ (by decide)] at hslice

end BatchLayout

/-! ### Kernels -/

section Compilation

variable {layout : Layout} {base : Nat} {x y : Tensor} {name : String} {parameters : Slice}

theorem compile_linear (hbatch : 0 < batch) (hbase : base < Words.limit)
    (hfits : Layer.Fits base x.width y.width (.linear parameters))
    (hinput : Step.sliceOf layout x.name = .ok (x.slice base batch))
    (hweights : Step.sliceOf layout name = .ok parameters)
    (houtput : Step.sliceOf layout y.name = .ok (y.slice base batch)) :
    Step.compile layout (.linear x.name name y.name (some x.width)) =
      .ok (Layer.step base batch x y (.linear parameters)) := by
  obtain ⟨hpositive, hlength, hstatic⟩ := hfits
  have hword : Words.wrap (y.width * x.width) = y.width * x.width :=
    Words.wrap_of_lt (by omega)
  simp only [Step.compile, Step.compileLinear, bind_eq_ok_iff (ε := Failure),
    throw_unless_bind_eq_ok_iff]
  have hrows : batch * x.width / x.width = batch := Nat.mul_div_cancel _ hpositive
  have hcolumns : batch * y.width / batch = y.width := Nat.mul_div_cancel_left _ hbatch
  refine ⟨_, hinput, _, hweights, _, houtput, ?_, ?_, ?_, rfl⟩
  · simp only [Option.getD_some, Tensor.slice, Nat.mul_mod_left]
    omega
  · simp only [Option.getD_some, Tensor.slice, hrows, Nat.mul_mod_right]
    omega
  · simp only [Option.getD_some, Tensor.slice, hrows, hcolumns, hlength, Nat.mul_comm x.width,
      hword, ne_eq, not_true_eq_false, not_false_eq_true]

theorem compile_bias (hwidth : 0 < y.width) (hfits : Layer.Fits base x.width y.width
      (.bias parameters))
    (hinput : Step.sliceOf layout x.name = .ok (x.slice base batch))
    (hbiases : Step.sliceOf layout name = .ok parameters)
    (houtput : Step.sliceOf layout y.name = .ok (y.slice base batch)) :
    Step.compile layout (.bias x.name name y.name) =
      .ok (Layer.step base batch x y (.bias parameters)) := by
  obtain ⟨hsame, hlength, -⟩ := hfits
  simp only [Step.compile, Step.compileBinary, bind_eq_ok_iff (ε := Failure),
    throw_unless_bind_eq_ok_iff]
  refine ⟨_, hinput, _, hbiases, _, houtput, ?_, rfl⟩
  have hnonempty : y.width ≠ 0 := by omega
  simp [Tensor.slice, hsame, hlength, hnonempty]

theorem compile_transform {function : UnaryFunction}
    (hfits : Layer.Fits base x.width y.width (.transform function))
    (hinput : Step.sliceOf layout x.name = .ok (x.slice base batch))
    (houtput : Step.sliceOf layout y.name = .ok (y.slice base batch)) :
    Step.compile layout (.unary function x.name y.name) =
      .ok (Layer.step base batch x y (.transform function)) := by
  have hsame : x.width = y.width := hfits
  simp only [Step.compile, Step.compileUnary, bind_eq_ok_iff (ε := Failure),
    throw_unless_bind_eq_ok_iff]
  exact ⟨_, hinput, _, houtput, by simp [Tensor.slice, hsame], rfl⟩

end Compilation

theorem compile_kernels (hsized : Sized inputs hidden outputs batch) {layout : Layout}
    (hbound : BatchLayout inputs hidden outputs batch layout) :
    (kernels inputs hidden).mapM (Step.compile layout) = .ok
      (chain (weightCount inputs hidden outputs) batch (first inputs)
        (layers inputs hidden outputs)) := by
  have hbase : weightCount inputs hidden outputs < Words.limit := by
    have haddressable := hsized.addressable
    simp only [Words.elementSize] at haddressable
    omega
  obtain ⟨hw1, hb1, hw2, hb2⟩ := get?_staticPart inputs hidden outputs
  obtain ⟨hfits1, hfits2, hfits3, hfits4, hfits5, hfits6, -⟩ := chained_layers hsized
  have hslice : ∀ tensor ∈ first inputs :: (layers inputs hidden outputs).map (·.2),
      Step.sliceOf layout tensor.name =
        .ok (tensor.slice (weightCount inputs hidden outputs) batch) :=
    fun _ hmem => hbound.sliceOf_tensor (arranged_tensors inputs hidden outputs ▸ hmem)
  simp only [layers, List.map_cons, List.map_nil, List.forall_mem_cons] at hslice
  obtain ⟨hx, h, hBias, hRelu, ho, hoBias, hy, -⟩ := hslice
  refine (mapM_eq_ok_iff _ _ _).mpr ?_
  refine .cons (compile_linear hsized.batch_pos hbase hfits1 hx (hbound.sliceOf_static hw1) h) ?_
  refine .cons (compile_bias hsized.hidden_pos hfits2 h (hbound.sliceOf_static hb1) hBias) ?_
  refine .cons (compile_transform hfits3 hBias hRelu) ?_
  refine .cons (compile_linear hsized.batch_pos hbase hfits4 hRelu
    (hbound.sliceOf_static hw2) ho) ?_
  refine .cons (compile_bias hsized.outputs_pos hfits5 ho (hbound.sliceOf_static hb2) hoBias) ?_
  exact .cons (compile_transform hfits6 hoBias hy) .nil

/-! ### Loading -/

/-- The steps that the kernels compile to for a batch. -/
def stepsOf (inputs hidden outputs batch : Nat) : List Step :=
  chain (weightCount inputs hidden outputs) batch (first inputs) (layers inputs hidden outputs)

section Loading

variable {α : Type} [Scalar α] {layout : Layout} {overrides : Bindings}

/-- Whatever the batch, only the weight file decides whether the graph is loaded. -/
theorem prepare_eq_ok_iff (hsized : Sized inputs hidden outputs batch)
    (hbound : (layoutOf inputs hidden outputs).bind
      ((NameTable.empty.insert "N" 1).extend overrides) = .ok layout)
    (hbatched : BatchLayout inputs hidden outputs batch layout) (encoding : String)
    (weights : Bytes) (prepared : Session.Preparation α) :
    Session.prepare (graphOf inputs hidden outputs encoding) weights overrides = .ok prepared ↔
      ∃ code data, Encoding.ofName encoding = .ok code ∧ code.decode weights layout = .ok data ∧
        prepared = ⟨layout, data, stepsOf inputs hidden outputs batch,
          (staticPart inputs hidden outputs).size +
            batchBytes batch (sampleLength (tensors inputs hidden outputs))⟩ := by
  have hcompiled := (mapM_eq_ok_iff _ _ _).mp (compile_kernels hsized hbatched)
  have htotal := hbatched.settled.total_ok
  have hplaced : ∀ name ∈ ["x", "y"], ∃ placement, layout.placement name = .ok placement := by
    intro name hdeclared
    simp only [List.mem_cons, List.not_mem_nil, or_false] at hdeclared
    rcases hdeclared with rfl | rfl
    · exact ⟨_, hbatched.placement_tensor (first_mem_arranged inputs hidden outputs)⟩
    · exact ⟨_, hbatched.placement_tensor (last_mem_arranged inputs hidden outputs)⟩
  rw [Session.prepare_eq_ok_iff]
  constructor
  · rintro ⟨hbound', ⟨code, hnamed, hdecoded⟩, -, hcompiled', htotal'⟩
    obtain ⟨other, data, steps, bytes⟩ := prepared
    cases hbound.symm.trans hbound'
    cases htotal.symm.trans htotal'
    cases (compile_kernels hsized hbatched).symm.trans ((mapM_eq_ok_iff _ _ _).mpr hcompiled')
    exact ⟨code, data, hnamed, hdecoded, rfl⟩
  · rintro ⟨code, data, hnamed, hdecoded, rfl⟩
    exact ⟨hbound, ⟨code, hnamed, hdecoded⟩, hplaced, hcompiled, htotal⟩

/-- A loaded graph whose batch has a size. -/
structure Opened (inputs hidden outputs batch : Nat) (session : Session α) : Prop where
  layout : BatchLayout inputs hidden outputs batch session.layout
  inputs_eq : session.inputs = ["x"]
  loaded : Session.Loaded session (stepsOf inputs hidden outputs batch)

/-- A graph is loaded only if its buffer can be had. -/
theorem Opened.allocatable {session : Session α}
    (hopened : Opened inputs hidden outputs batch session) :
    session.layout.Allocatable (layoutBytes inputs hidden outputs batch) := by
  obtain ⟨total, hallocatable, -⟩ := hopened.loaded.settled
  cases hopened.layout.settled.total_ok.symm.trans hallocatable.total_ok
  rwa [size_layout] at hallocatable

theorem opened_of_load (hsized : Sized inputs hidden outputs batch) {overrides : Bindings}
    (hsize : batchOf overrides = batch) {encoding : String} {weights : Bytes} {backend : Backend}
    {session : Session α}
    (hopened : Session.load (graphOf inputs hidden outputs encoding) weights backend overrides =
      .ok session) :
    Opened inputs hidden outputs batch session ∧ session.backend = backend ∧
      ∃ code, Encoding.ofName encoding = .ok code ∧
        code.decode weights session.layout = .ok session.data := by
  obtain ⟨prepared, hready, rfl⟩ := (Session.load_eq_ok_iff _ _ _ _ _).mp hopened
  have hloaded := Session.assemble_loaded _ _ backend _ hready
  obtain ⟨layout, hbound, hbatched⟩ := exists_batchLayout hsized (get?_bindings hsize)
  obtain ⟨code, data, hnamed, hdecoded, rfl⟩ :=
    (prepare_eq_ok_iff hsized hbound hbatched encoding weights prepared).mp hready
  exact ⟨⟨hbatched, rfl, hloaded⟩, rfl, code, hnamed, hdecoded⟩

/-- Weights that are accepted for one batch are accepted for every other one whose buffer can be had,
with the same static elements. -/
theorem exists_load_of_load {other : Nat} (hsized : Sized inputs hidden outputs batch)
    (hotherSized : Sized inputs hidden outputs other) {overrides otherOverrides : Bindings}
    (hsize : batchOf overrides = batch) (hotherSize : batchOf otherOverrides = other)
    (hallocatable : layoutBytes inputs hidden outputs other ≤ Words.maxBuffer)
    {encoding : String} {weights : Bytes} {backend : Backend} {session : Session α}
    (hopened : Session.load (graphOf inputs hidden outputs encoding) weights backend overrides =
      .ok session) :
    ∃ next, Session.load (graphOf inputs hidden outputs encoding) weights backend otherOverrides =
        .ok next ∧
      StaticAgrees (weightCount inputs hidden outputs) next.data session.data := by
  obtain ⟨hisOpen, -, code, hnamed, hdecoded⟩ := opened_of_load hsized hsize hopened
  obtain ⟨layout, hbound, hotherBatched⟩ :=
    exists_batchLayout hotherSized (get?_bindings hotherSize)
  have hbatched := hisOpen.layout
  obtain ⟨data, hotherDecoded, hsame⟩ := Weights.decode_of_same_static code weights
    hisOpen.allocatable ⟨hotherBatched.settled, (size_layout ..).symm ▸ hallocatable⟩
    (by rw [hbatched.fixed_eq, hotherBatched.fixed_eq]) hdecoded
  have hready := (prepare_eq_ok_iff hotherSized hbound hotherBatched encoding weights _).mpr
    ⟨code, data, hnamed, hotherDecoded, rfl⟩
  refine ⟨_, (Session.load_eq_ok_iff _ _ _ _ _).mpr ⟨_, hready, rfl⟩, fun i hstatic => ?_⟩
  refine element_congr (hsame i ?_)
  rwa [hbatched.fixed_eq, size_staticPart, Nat.mul_div_cancel _ (by decide)]

/-- Raw weights are accepted if there are as many bytes as the static part has. -/
theorem exists_load_raw (hsized : Sized inputs hidden outputs batch) {overrides : Bindings}
    (hsize : batchOf overrides = batch)
    (hallocatable : layoutBytes inputs hidden outputs batch ≤ Words.maxBuffer) (weights : Bytes)
    (hlength : weights.length = weightCount inputs hidden outputs * Words.elementSize)
    (backend : Backend) :
    ∃ session : Session α,
      Session.load (graphOf inputs hidden outputs "raw") weights backend overrides = .ok session := by
  obtain ⟨layout, hbound, hbatched⟩ := exists_batchLayout hsized (get?_bindings hsize)
  have hdecoded := (Weights.Raw.decode_eq_ok_iff (α := α)
    ⟨hbatched.settled, (size_layout ..).symm ▸ hallocatable⟩ weights _).mpr
    ⟨by rw [hlength, hbatched.fixed_eq, size_staticPart], rfl⟩
  have hready := (prepare_eq_ok_iff hsized hbound hbatched "raw" weights _).mpr
    ⟨.raw, _, by cbv, hdecoded, rfl⟩
  exact ⟨_, (Session.load_eq_ok_iff _ _ _ _ _).mpr ⟨_, hready, rfl⟩⟩

end Loading

end TensorBench.KernelGraph.Perceptron
