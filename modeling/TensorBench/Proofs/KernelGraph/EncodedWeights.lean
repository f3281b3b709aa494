import TensorBench.Proofs.KernelGraph.Batches
import TensorBench.Proofs.Layout.Tiling
import TensorBench.Proofs.Weights.Blocks
import TensorBench.Proofs.Weights.RawFiles

/-!
The perceptron graph with weights of its own. Its weights can be loaded in either encoding and for
every size of the batch. Both parts of the bound layout are tiled: the matrices and biases lie one
behind the other, and so do the tensors, each for all samples of the batch.
-/
namespace TensorBench

/-! ### Encoded weights -/

/-- What was encoded can be decoded for a static part of that many elements. -/
theorem Encoding.exists_decode_encode {α : Type} [Scalar α] (encoding : Encoding) {layout : Layout}
    {total : Nat} (hlayout : layout.Allocatable total) (values : List Binary32)
    (hsize : layout.fixed.size = values.length * Words.elementSize)
    (hfew : values.length ≤ 2 ^ 31) :
    ∃ data : Array α, encoding.decode (encoding.encode values) layout = .ok data := by
  cases encoding with
  | raw =>
    have hlength : (Weights.Raw.encode values).length = layout.fixed.size :=
      (Weights.Raw.length_encode values).trans hsize.symm
    exact ⟨_, (Weights.Raw.decode_eq_ok_iff hlayout _ _).mpr ⟨hlength, rfl⟩⟩
  | eightbit =>
    open Weights Eightbit in
    have hfits : ∀ record ∈ (List.range (blockCount values.length)).map (blockRecord values),
        record.Fits (layout.fixed.size / Words.elementSize) := by
      rw [hsize, Nat.mul_div_cancel _ (by decide)]
      apply records_fit values _ (Nat.le_refl _)
      unfold blockCount blockLength
      omega
    obtain ⟨data, hdecoded, -⟩ := Weights.Eightbit.decode_records (α := α) hlayout _ hfits
    rw [← Weights.Eightbit.encode_eq_records] at hdecoded
    exact ⟨data, hdecoded⟩

theorem Encoding.ofName_name (encoding : Encoding) :
    Encoding.ofName encoding.name = .ok encoding := by
  cases encoding <;> cbv

namespace KernelGraph.Perceptron

open Sequencing Execution

variable {inputs hidden outputs batch : Nat} {layout : Layout} {bindings : Bindings}

/-! ### Tiled parts -/

/-- The bytes of a tensor for all samples of a batch. -/
def Tensor.span (batch : Nat) (tensor : Tensor) : Layout.Span :=
  ⟨batchBytes batch tensor.place, batchBytes batch tensor.place + batchBytes batch tensor.width,
    tensor.name⟩

theorem tiles_arranged (batch place : Nat) (tensors : List (String × Nat)) :
    Layout.Tiles (batchBytes batch place) ((arranged place tensors).map (Tensor.span batch))
      (batchBytes batch (place + sampleLength tensors)) := by
  induction tensors generalizing place with
  | nil => rfl
  | cons tensor rest ih =>
    have hwhole : place + sampleLength (tensor :: rest) =
        place + tensor.2 + sampleLength rest := (Nat.add_assoc place tensor.2 _).symm
    have hothers := ih (place + tensor.2)
    rw [← hwhole, batchBytes_add] at hothers
    exact ⟨rfl, Nat.le_add_right _ _, hothers⟩

/-- What a table holds for a tensor when it is bound for a batch. -/
def Tensor.entry (batch : Nat) (tensor : Tensor) : String × DynamicAllocation :=
  (tensor.name, ⟨tensor.name, .value (batchBytes batch tensor.place),
    .value (batchBytes batch tensor.width)⟩)

/-- The bound table holds the tensors and nothing else. It is ordered by name and they are by
place. -/
theorem perm_entries_of_bind {fixed : StaticRegion} {tensors : List (String × Nat)}
    (hdistinct : (tensors.map (·.1)).Nodup)
    (hbound : (⟨fixed, dynamicPart tensors⟩ : Layout).bind bindings = .ok layout)
    (hbatched : Batched fixed tensors batch layout) :
    layout.floating.allocations.entries.Perm ((arranged 0 tensors).map (Tensor.entry batch)) := by
  have hlisted : ((arranged 0 tensors).map (Tensor.entry batch)).Nodup := by
    rw [← map_name_arranged 0] at hdistinct
    apply List.Nodup.of_map Prod.fst
    rwa [List.map_map]
  have hfound (tensor : Tensor) (hmem : tensor ∈ arranged 0 tensors) :
      tensor.entry batch ∈ layout.floating.allocations.entries :=
    (NameTable.get?_eq_some_iff _ _ _).mp (hbatched.found tensor hmem)
  apply (List.perm_ext_iff_of_nodup layout.floating.allocations.nodup_names.of_map hlisted).mpr
  intro entry
  constructor
  · intro hpresent
    obtain ⟨-, -, -, hkept⟩ := Layout.bind_eq_ok _ _ hbound
    obtain ⟨before, hdeclared, hsame, -⟩ := exists_item_of_mem_results hkept hpresent
    obtain ⟨tensor, hmem, rfl⟩ := tensor_of_mem_dynamicPart hdeclared
    have hunique := NameTable.eq_of_mem_of_name_eq _ (hfound tensor hmem) hpresent hsame
    exact hunique ▸ List.mem_map_of_mem hmem
  · intro hpresent
    obtain ⟨tensor, hmem, rfl⟩ := List.mem_map.mp hpresent
    exact hfound tensor hmem

/-- Tensors that are bound for a batch tile the dynamic part in their order. -/
theorem tiledBy_of_bind {fixed : StaticRegion} {tensors : List (String × Nat)}
    (hdistinct : (tensors.map (·.1)).Nodup)
    (hbound : (⟨fixed, dynamicPart tensors⟩ : Layout).bind bindings = .ok layout)
    (hbatched : Batched fixed tensors batch layout) :
    layout.floating.TiledBy (tensors.map (·.1)) := by
  obtain ⟨bytes, hsize, htotal, -, -⟩ := hbatched.settled.dynamicSize
  have hwhole : bytes = batchBytes batch (sampleLength tensors) := by
    rw [hbatched.fixed_eq] at htotal
    omega
  refine ⟨(arranged 0 tensors).map (Tensor.span batch), bytes, ?_, hsize, ?_, ?_⟩
  · rw [List.map_map, ← map_name_arranged 0 tensors]
    rfl
  · refine ((perm_entries_of_bind hdistinct hbound hbatched).map _).trans ?_
    rw [List.map_map, List.map_map]
    exact .refl _
  · have htiles := tiles_arranged batch 0 tensors
    rw [Nat.zero_add, ← hwhole] at htiles
    have hstart : batchBytes batch 0 = 0 := by
      rw [batchBytes, Nat.zero_mul, Nat.mul_zero]
    exact hstart ▸ htiles

/-- The matrices and biases tile the static part. -/
theorem tiledBy_staticPart (inputs hidden outputs : Nat) :
    (staticPart inputs hidden outputs).TiledBy ["w1", "b1", "w2", "b2"] := by
  have hpushed : staticLayout inputs hidden outputs = Layout.ofPushes
      [("w1", hidden * inputs * Words.elementSize), ("b1", hidden * Words.elementSize),
        ("w2", outputs * hidden * Words.elementSize), ("b2", outputs * Words.elementSize)] := rfl
  have hdistinct : ["w1", "b1", "w2", "b2"].Nodup := by decide
  rw [staticPart, hpushed]
  exact Layout.tiledBy_ofPushes hdistinct

/-! ### Loading -/

theorem length_weights (inputs hidden outputs : Nat) :
    (weights inputs hidden outputs).length = weightCount inputs hidden outputs := by
  rw [weights, List.length_map, List.length_range]

/-- With at most `2 ^ 31` weights, everything can be addressed if the samples can be computed. -/
theorem sized_of_few (hpositive : 0 < inputs ∧ 0 < hidden ∧ 0 < outputs ∧ 0 < batch)
    (hfew : weightCount inputs hidden outputs ≤ 2 ^ 31)
    (hdynamic : (batch * ((inputs + 3 * hidden + 3 * outputs) * Words.elementSize) : Nat) ≤
      Words.maxSigned) : Sized inputs hidden outputs batch := by
  obtain ⟨hinputs, hhidden, houtputs, hbatch⟩ := hpositive
  rw [← sampleLength_tensors] at hdynamic
  refine ⟨hinputs, hhidden, houtputs, hbatch, hdynamic, ?_⟩
  simp only [Words.maxSigned, Words.elementSize, Words.limit, batchBytes] at *
  omega

/-- Loading crashes for want of a buffer for a batch that is too large. -/
theorem load_oversized {α : Type} [Scalar α] (hsized : Sized inputs hidden outputs batch)
    {overrides : Bindings} (hmany : batchOf overrides = batch)
    (hlarge : Words.maxBuffer < layoutBytes inputs hidden outputs batch) (encoding : Encoding)
    (bytes : Bytes) (backend : Backend) :
    Session.load (α := α) (graphOf inputs hidden outputs encoding.name) bytes backend overrides =
      .error .crashed := by
  obtain ⟨layout, hbind, hbatched⟩ := exists_batchLayout hsized (get?_bindings hmany)
  refine (Session.load_eq_error_iff _ _ _ _ _).mpr
    (Session.prepare_oversized hbind encoding.ofName_name hbatched.settled ?_)
  rwa [size_layout]

/-- The perceptron graph loads with its own weights in either encoding, whatever its widths, its
backend and the size of its batch are, unless its buffer is too large to be had. In the layout that
it is bound to, the matrices and biases tile the static part and the tensors tile the dynamic part,
every kernel compiles, and the output has its elements for each sample, whatever was called before. -/
theorem encoded_weights_load {α : Type} [Scalar α] (inputs hidden outputs batch : Nat)
    (encoding : Encoding) (backend : Backend) (overrides : Bindings)
    (hpositive : 0 < inputs ∧ 0 < hidden ∧ 0 < outputs ∧ 0 < batch)
    (hfew : weightCount inputs hidden outputs ≤ 2 ^ 31)
    (hdynamic : (batch * ((inputs + 3 * hidden + 3 * outputs) * Words.elementSize) : Nat) ≤
      Words.maxSigned)
    (hmany : batchOf overrides = batch) :
    ∃ graph, Perceptron.graph inputs hidden outputs encoding.name = .ok graph ∧
      let total := weightCount inputs hidden outputs * Words.elementSize +
        batch * ((inputs + 3 * hidden + 3 * outputs) * Words.elementSize)
      let loaded : Except Stop (Session α) :=
        Session.load graph (encoding.encode (weights inputs hidden outputs)) backend overrides
      (Words.maxBuffer < total → loaded = .error .crashed) ∧
      (total ≤ Words.maxBuffer → ∃ session, loaded = .ok session ∧
        graph.layout.bind (graph.bindings.extend overrides) = .ok session.layout ∧
        session.layout.fixed.TiledBy ["w1", "b1", "w2", "b2"] ∧
        session.layout.floating.TiledBy ["x", "h", "h_bias", "h_relu", "o", "o_bias", "y"] ∧
        (∀ kernel ∈ graph.kernels, ∃ step, Step.compile session.layout kernel = .ok step) ∧
        ∀ calls : List (Call α), ∃ values, (session.after calls).tensor "y" = .ok values ∧
          values.length = batch * outputs) := by
  have hsized := sized_of_few hpositive hfew hdynamic
  refine ⟨_, graph_eq_ok hsized encoding.name, ?_⟩
  rw [← sampleLength_tensors]
  refine ⟨fun hlarge => load_oversized hsized hmany hlarge encoding _ backend, fun hsmall => ?_⟩
  obtain ⟨layout, hbind, hbatched⟩ := exists_batchLayout hsized (get?_bindings hmany)
  have hfixed : layout.fixed = staticPart inputs hidden outputs := hbatched.fixed_eq
  obtain ⟨data, hdecode⟩ := encoding.exists_decode_encode (α := α)
    ⟨hbatched.settled, (size_layout ..).symm ▸ hsmall⟩ (weights inputs hidden outputs)
    (by rw [hfixed, size_staticPart, length_weights]) (by rwa [length_weights])
  have hready := (prepare_eq_ok_iff hsized hbind hbatched encoding.name _ _).mpr
    ⟨encoding, data, encoding.ofName_name, hdecode, rfl⟩
  have hload := (Session.load_eq_ok_iff _ _ backend overrides _).mpr ⟨_, hready, rfl⟩
  refine ⟨_, hload, hbind, ?_, ?_, ?_, ?_⟩
  · exact hfixed ▸ tiledBy_staticPart inputs hidden outputs
  · have hdistinct : ((tensors inputs hidden outputs).map (·.1)).Nodup := by simp [tensors]
    exact tiledBy_of_bind hdistinct hbind hbatched
  · intro kernel hdeclared
    have hcompile := (mapM_eq_ok_iff _ _ _).mp (compile_kernels hsized hbatched)
    obtain ⟨step, -, hstep⟩ := exists_item_of_mem_results hcompile.flip hdeclared
    exact ⟨step, hstep⟩
  · intro calls
    obtain ⟨hopened, -⟩ := opened_of_load hsized hmany hload
    have hread := (hopened.after calls).tensor_eq (last_mem_arranged inputs hidden outputs)
    exact ⟨_, hread, length_window _ _ _⟩

/-- Weights in codes for a batch of two samples. -/
theorem encoded_weights_load_pair :
    (0 < 2 ∧ 0 < 1 ∧ 0 < 1 ∧ 0 < 2) ∧ weightCount 2 1 1 ≤ 2 ^ 31 ∧
    (2 * ((2 + 3 * 1 + 3 * 1) * Words.elementSize) : Nat) ≤ Words.maxSigned ∧
    batchOf (NameTable.empty.insert "N" 2) = (2 : Nat) ∧
    ∃ graph, Perceptron.graph 2 1 1 "eightbit" = .ok graph ∧ ∃ session : Session Binary32,
      Session.load graph (Weights.Eightbit.encode (weights 2 1 1)) .native
        (NameTable.empty.insert "N" 2) = .ok session ∧
      session.layout.floating.TiledBy ["x", "h", "h_bias", "h_relu", "o", "o_bias", "y"] ∧
      ∃ values, session.tensor "y" = .ok values ∧ values.length = 2 := by
  have hpositive : 0 < 2 ∧ 0 < 1 ∧ 0 < 1 ∧ 0 < 2 := by decide
  have hfew : weightCount 2 1 1 ≤ 2 ^ 31 := by decide
  have hdynamic : (2 * ((2 + 3 * 1 + 3 * 1) * Words.elementSize) : Nat) ≤ Words.maxSigned := by
    decide
  have hmany : batchOf (NameTable.empty.insert "N" 2) = (2 : Nat) := by cbv
  obtain ⟨graph, hgraph, -, hloads⟩ :=
    encoded_weights_load (α := Binary32) 2 1 1 2 .eightbit .native (NameTable.empty.insert "N" 2)
      hpositive hfew hdynamic hmany
  obtain ⟨session, hload, -, -, htiled, -, houtputs⟩ := hloads (by decide)
  exact ⟨hpositive, hfew, hdynamic, hmany, graph, hgraph, session, hload, htiled, houtputs []⟩

/-- The most samples of seven elements each that can be computed: their bytes and those of four
weights are no more than a word, and yet more than a buffer can have. -/
theorem oversized_batch_crashes :
    (0 < 1 ∧ 0 < 1 ∧ 0 < 1 ∧ 0 < 329406144173384850) ∧ weightCount 1 1 1 ≤ 2 ^ 31 ∧
    (329406144173384850 * ((1 + 3 * 1 + 3 * 1) * Words.elementSize) : Nat) ≤ Words.maxSigned ∧
    weightCount 1 1 1 * Words.elementSize +
      329406144173384850 * ((1 + 3 * 1 + 3 * 1) * Words.elementSize) < Words.limit ∧
    batchOf (NameTable.empty.insert "N" 329406144173384850) = (329406144173384850 : Nat) ∧
    ∃ graph, Perceptron.graph 1 1 1 "raw" = .ok graph ∧
      Session.load (α := Binary32) graph (Weights.Raw.encode (weights 1 1 1)) .native
        (NameTable.empty.insert "N" 329406144173384850) = .error .crashed := by
  have hpositive : 0 < 1 ∧ 0 < 1 ∧ 0 < 1 ∧ 0 < 329406144173384850 := by decide
  have hfew : weightCount 1 1 1 ≤ 2 ^ 31 := by decide
  have hdynamic : (329406144173384850 * ((1 + 3 * 1 + 3 * 1) * Words.elementSize) : Nat) ≤
      Words.maxSigned := by decide
  have hmany : batchOf (NameTable.empty.insert "N" 329406144173384850) =
      (329406144173384850 : Nat) := by cbv
  have hsized := sized_of_few hpositive hfew hdynamic
  exact ⟨hpositive, hfew, hdynamic, by decide, hmany, _, graph_eq_ok hsized "raw",
    load_oversized hsized hmany (by decide) .raw _ .native⟩

end KernelGraph.Perceptron

end TensorBench
