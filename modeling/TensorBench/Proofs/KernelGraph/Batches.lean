import TensorBench.Proofs.KernelGraph.BackendAgreement
import TensorBench.Proofs.KernelGraph.Perceptron
import TensorBench.Proofs.KernelGraph.StaticWeights

/-!
Passes over batches. A pass of the perceptron graph over a batch gives each sample what a pass over
that sample alone would give, because the samples go through one chain of layers side by side.
-/
namespace TensorBench.KernelGraph.Perceptron

open Execution Sequencing

variable {α : Type} [Scalar α] {session : Session α} {inputs hidden outputs batch : Nat}

/-- Write the samples of a batch and run the graph. -/
def pass (values : List α) : List (Call α) := [.write "x" 0 values, .run]

namespace Opened

theorem after (hopened : Opened inputs hidden outputs batch session) (calls : List (Call α)) :
    Opened inputs hidden outputs batch (session.after calls) := by
  obtain ⟨plan, hchanged, hloaded⟩ := Session.after_eq session _ hopened.loaded calls
  refine ⟨?_, ?_, hloaded⟩
  · rw [hchanged]
    exact hopened.layout
  · rw [hchanged]
    exact hopened.inputs_eq

theorem size_eq (hopened : Opened inputs hidden outputs batch session) :
    session.data.size = weightCount inputs hidden outputs +
      batch * sampleLength (tensors inputs hidden outputs) := by
  obtain ⟨total, hsettled, hsize⟩ := hopened.loaded.settled
  have hknown := hopened.layout.settled.total_ok.symm.trans hsettled.total_ok
  cases hknown
  rw [hsize, add_batchBytes_div, size_staticPart, Nat.mul_div_cancel _ (by decide)]

theorem inside (hopened : Opened inputs hidden outputs batch session) {tensor : Tensor}
    (hmem : tensor ∈ arranged 0 (tensors inputs hidden outputs)) :
    tensor.Inside (weightCount inputs hidden outputs) batch session.data.size := by
  have hbound := Nat.mul_le_mul_left batch (place_add_width_le hmem)
  rw [Nat.mul_add, Nat.zero_add] at hbound
  simp only [hopened.size_eq, Tensor.Inside, Tensor.slice]
  omega

theorem placement_tensor (hopened : Opened inputs hidden outputs batch session) {tensor : Tensor}
    (hmem : tensor ∈ arranged 0 (tensors inputs hidden outputs)) :
    ∃ placement, session.layout.placement tensor.name = .ok placement ∧
      tensor.slice (weightCount inputs hidden outputs) batch =
        ⟨placement.start, placement.length⟩ :=
  (Step.sliceOf_eq_ok_iff _ _ _).mp (hopened.layout.sliceOf_tensor hmem)

/-- A tensor is read as the window of its samples. -/
theorem tensor_eq (hopened : Opened inputs hidden outputs batch session) {tensor : Tensor}
    (hmem : tensor ∈ arranged 0 (tensors inputs hidden outputs)) :
    session.tensor tensor.name = .ok (window session.data
      (tensor.slice (weightCount inputs hidden outputs) batch).start (batch * tensor.width)) := by
  exact Session.tensor_eq_window session (hopened.layout.sliceOf_tensor hmem) (hopened.inside hmem)

end Opened

/-- The outputs of the layers have elements. -/
theorem not_degenerate_stepsOf (hsized : Sized inputs hidden outputs batch) :
    ∀ step ∈ stepsOf inputs hidden outputs batch, ¬ Degenerate step := by
  rintro step hmem ⟨-, hempty⟩
  obtain ⟨layer, hdeclared, houtput⟩ := output_of_mem_chain hmem
  have hpositive : 0 < layer.2.width := by
    have hhidden := hsized.hidden_pos
    have houtputs := hsized.outputs_pos
    simp only [layers, List.mem_cons, List.not_mem_nil, or_false] at hdeclared
    rcases hdeclared with rfl | rfl | rfl | rfl | rfl | rfl <;> assumption
  rw [houtput] at hempty
  exact Nat.ne_of_gt (Nat.mul_pos hsized.batch_pos hpositive) hempty

/-- No backend refuses a layer. -/
theorem Opened.completes (hopened : Opened inputs hidden outputs batch session)
    (hsized : Sized inputs hidden outputs batch) (backend : Backend) :
    Session.Completes backend (stepsOf inputs hidden outputs batch) := by
  intro step hmem hrefused
  have hexact := exact_of_mem_chain hsized.batch_pos (chained_layers hsized) hmem
  have hsound := hopened.loaded.sound step hmem
  exact not_degenerate_stepsOf hsized step hmem
    ((Session.refused_iff hsound hexact backend).mp hrefused).2

/-- A pass writes the samples and executes the steps of all layers. -/
theorem Opened.pass_eq (hopened : Opened inputs hidden outputs batch session)
    (hsized : Sized inputs hidden outputs batch) (values : List α)
    (hlength : values.length = batch * inputs) :
    session.answers (pass values) = [.ok (), .ok ()] ∧
      (session.after (pass values)).data = applySteps (Session.sumStart session.backend)
        (Weights.writeFrom session.data
          ((first inputs).slice (weightCount inputs hidden outputs) batch).start values)
        (stepsOf inputs hidden outputs batch) := by
  have hcompletes := hopened.completes hsized session.backend
  obtain ⟨placement, hplace, hslice⟩ :=
    hopened.placement_tensor (first_mem_arranged inputs hidden outputs)
  have hstart : ((first inputs).slice (weightCount inputs hidden outputs) batch).start =
      placement.start := congrArg Slice.start hslice
  have hroom : batch * inputs = placement.length := congrArg Slice.length hslice
  refine ⟨?_, ?_⟩
  · rw [Session.answers_complete session _ hopened.loaded hcompletes, hopened.inputs_eq]
    rfl
  · obtain ⟨plan, hchanged, -⟩ := Session.after_eq session _ hopened.loaded (pass values)
    have hwhole : values.take placement.length = values :=
      List.take_of_length_le (by rw [hlength, hroom])
    have hnamed : (first inputs).name = "x" := rfl
    rw [hchanged, Session.completed_eq_self hcompletes, hstart, hopened.inputs_eq]
    simp only [pass, List.foldl_cons, List.foldl_nil, Call.effect, List.mem_singleton, if_true,
      ← hnamed, hplace, Nat.sub_zero, Nat.add_zero, hwhole]

/-- A pass over one sample of a batch. -/
theorem Opened.pass_sample {one : Session α} {sample : Nat} {values : List α}
    (halone : Opened inputs hidden outputs 1 one) (hsized : Sized inputs hidden outputs batch)
    (hlength : values.length = batch * inputs) (hknown : sample < batch) :
    one.answers (pass (sampleOf inputs sample values)) = [.ok (), .ok ()] ∧
      (one.after (pass (sampleOf inputs sample values))).data =
        applySteps (Session.sumStart one.backend) (Weights.writeFrom one.data
          ((first inputs).slice (weightCount inputs hidden outputs) 1).start
          (sampleOf inputs sample values)) (stepsOf inputs hidden outputs 1) :=
  halone.pass_eq hsized.alone _ ((length_sampleOf hlength hknown).trans (Nat.one_mul inputs).symm)

/-- Calls leave the static elements as they are. -/
theorem Opened.staticAgrees_after (hopened : Opened inputs hidden outputs batch session)
    (calls : List (Call α)) :
    StaticAgrees (weightCount inputs hidden outputs) (session.after calls).data session.data := by
  obtain ⟨plan, hchanged, -⟩ := Session.after_eq session _ hopened.loaded calls
  intro i hstatic
  rw [hchanged]
  refine element_congr (Call.getElem?_effects_outside _ _ _ _ _ calls i ?_ fun step hmem => ?_)
  · intro name hdeclared placement hplace hcovers
    rw [hopened.inputs_eq, List.mem_singleton] at hdeclared
    subst hdeclared
    obtain ⟨known, hplace', hslice⟩ :=
      hopened.placement_tensor (first_mem_arranged inputs hidden outputs)
    cases hplace'.symm.trans hplace
    have hstart := congrArg Slice.start hslice
    simp only [Tensor.slice] at hstart
    have hlow := hcovers.1
    omega
  · obtain ⟨layer, -, houtput⟩ := output_of_mem_chain
      ((Session.completed_sublist session.backend _).subset hmem)
    rw [houtput, Tensor.slice]
    exact .inl (Nat.lt_add_right _ hstatic)

/-- After a pass over a batch, each sample of the outputs is what a pass over that sample alone
leaves. -/
theorem Opened.sampleAgrees_pass {one : Session α} {sample : Nat}
    (hopened : Opened inputs hidden outputs batch session)
    (halone : Opened inputs hidden outputs 1 one) (hsized : Sized inputs hidden outputs batch)
    (hbackends : one.backend = session.backend)
    (hfixed : StaticAgrees (weightCount inputs hidden outputs) session.data one.data)
    (values : List α) (hlength : values.length = batch * inputs) (hknown : sample < batch) :
    SampleAgrees (weightCount inputs hidden outputs) batch sample
      (session.after (pass values)).data
      (one.after (pass (sampleOf inputs sample values))).data (last inputs hidden outputs) := by
  rw [(hopened.pass_eq hsized values hlength).2,
    (halone.pass_sample hsized hlength hknown).2, hbackends]
  have hinput := first_mem_arranged inputs hidden outputs
  refine SampleAgrees.applySteps _ (chained_layers hsized) hknown ?_ ?_ (hfixed.writeFrom _ _)
    (sampleAgrees_writeFrom hlength hknown (hopened.inside hinput) (halone.inside hinput)) <;>
  intro layer hmem
  · rw [Weights.size_writeFrom]
    exact hopened.inside (output_mem_arranged hmem)
  · rw [Weights.size_writeFrom]
    exact halone.inside (output_mem_arranged hmem)

/-- A sample of a tensor, read from the whole tensor. -/
theorem sampleOf_window {base sample : Nat} {many one : Array α} {tensor : Tensor}
    (hagrees : SampleAgrees base batch sample many one tensor) (hknown : sample < batch) :
    sampleOf tensor.width sample
        (window many (tensor.slice base batch).start (batch * tensor.width)) =
      window one (tensor.slice base 1).start (1 * tensor.width) := by
  rw [sampleOf, take_drop_window _ _ _ _ _ (sample_add_le tensor.width hknown), Nat.one_mul]
  refine window_congr fun i hbound => ?_
  rw [Nat.add_assoc]
  exact hagrees i hbound

/-- A pass over a batch leaves, sample by sample, the outputs of passes over single samples. -/
theorem Opened.tensor_pass {one : Session α} (hopened : Opened inputs hidden outputs batch session)
    (halone : Opened inputs hidden outputs 1 one) (hsized : Sized inputs hidden outputs batch)
    (hbackends : one.backend = session.backend)
    (hfixed : StaticAgrees (weightCount inputs hidden outputs) session.data one.data)
    (values : List α) (hlength : values.length = batch * inputs) :
    ∃ result, (session.after (pass values)).tensor "y" = .ok result ∧
      result.length = batch * outputs ∧
      ∀ sample < batch, (one.after (pass (sampleOf inputs sample values))).tensor "y" =
        .ok (sampleOf outputs sample result) := by
  have houtput := last_mem_arranged inputs hidden outputs
  refine ⟨_, (hopened.after (pass values)).tensor_eq houtput, length_window _ _ _,
    fun sample hknown => ?_⟩
  have hagrees := hopened.sampleAgrees_pass halone hsized hbackends hfixed values hlength hknown
  have hread := (halone.after (pass (sampleOf inputs sample values))).tensor_eq houtput
  rwa [← sampleOf_window hagrees hknown] at hread

/-- A batch needs no other weights than one sample, only a larger buffer. -/
theorem exists_load_iff (hsized : Sized inputs hidden outputs batch) {overrides alone : Bindings}
    (hmany : batchOf overrides = batch) (hsingle : batchOf alone = 1) {encoding : String}
    {weights : Bytes} {backend : Backend} :
    (∃ session : Session α, Session.load (graphOf inputs hidden outputs encoding) weights backend
        overrides = .ok session) ↔
      (∃ one : Session α, Session.load (graphOf inputs hidden outputs encoding) weights backend
        alone = .ok one) ∧ layoutBytes inputs hidden outputs batch ≤ Words.maxBuffer := by
  constructor
  · rintro ⟨session, hloaded⟩
    have hallocatable := (opened_of_load hsized hmany hloaded).1.allocatable.total_le
    obtain ⟨one, halone, -⟩ := exists_load_of_load hsized hsized.alone hmany hsingle
      ((layoutBytes_le hsized.batch_pos).trans hallocatable) hloaded
    exact ⟨⟨one, halone⟩, hallocatable⟩
  · rintro ⟨⟨one, halone⟩, hallocatable⟩
    obtain ⟨session, hloaded, -⟩ :=
      exists_load_of_load hsized.alone hsized hsingle hmany hallocatable halone
    exact ⟨session, hloaded⟩

theorem sampleLength_tensors (inputs hidden outputs : Nat) :
    sampleLength (tensors inputs hidden outputs) = inputs + 3 * hidden + 3 * outputs := by
  simp only [sampleLength, tensors, List.map_cons, List.map_nil, List.sum_cons, List.sum_nil]
  omega

/-- The samples of a batch do not influence each other: the graph loads for a batch if and only if it
loads for one sample and the buffer of the batch can be had, and a pass over the batch gives each
sample, whatever was called before, the outputs of a pass over that sample alone. -/
theorem samples_independent (inputs hidden outputs batch : Nat) (encoding : String)
    (overrides alone : Bindings)
    (hpositive : 0 < inputs ∧ 0 < hidden ∧ 0 < outputs ∧ 0 < batch)
    (hstatic : (weightCount inputs hidden outputs * Words.elementSize : Nat) ≤ Words.maxSigned)
    (hdynamic : (batch * ((inputs + 3 * hidden + 3 * outputs) * Words.elementSize) : Nat) ≤
      Words.maxSigned)
    (hmany : batchOf overrides = batch) (hsingle : batchOf alone = 1) :
    ∃ graph, Perceptron.graph inputs hidden outputs encoding = .ok graph ∧ ∀ weights backend,
      ((∃ session : Session α, Session.load graph weights backend overrides = .ok session) ↔
        (∃ one : Session α, Session.load graph weights backend alone = .ok one) ∧
          weightCount inputs hidden outputs * Words.elementSize +
            batch * ((inputs + 3 * hidden + 3 * outputs) * Words.elementSize) ≤
              Words.maxBuffer) ∧
      ∀ session one : Session α, Session.load graph weights backend overrides = .ok session →
        Session.load graph weights backend alone = .ok one →
        ∀ (earlier before : List (Call α)) (values : List α), values.length = batch * inputs →
          (session.after earlier).answers (pass values) = [.ok (), .ok ()] ∧
          ∃ result, (session.after (earlier ++ pass values)).tensor "y" = .ok result ∧
            result.length = batch * outputs ∧
            ∀ sample < batch,
              (one.after before).answers (pass (sampleOf inputs sample values)) =
                [.ok (), .ok ()] ∧
              (one.after (before ++ pass (sampleOf inputs sample values))).tensor "y" =
                .ok (sampleOf outputs sample result) := by
  obtain ⟨hinputs, hhidden, houtputs, hbatch⟩ := hpositive
  have hsized : Sized inputs hidden outputs batch := by
    rw [← sampleLength_tensors] at hdynamic
    refine ⟨hinputs, hhidden, houtputs, hbatch, hdynamic, ?_⟩
    simp only [Words.maxSigned, Words.limit, batchBytes] at *
    omega
  refine ⟨_, graph_eq_ok hsized encoding, fun weights backend => ⟨?_, ?_⟩⟩
  · rw [← sampleLength_tensors]
    exact exists_load_iff hsized hmany hsingle
  · intro session one hopened hopenedOne earlier before values hlength
    obtain ⟨hisOpen, hbackend, -⟩ := opened_of_load hsized hmany hopened
    have hallocatable := hisOpen.allocatable.total_le
    obtain ⟨one', hloaded, hfixed⟩ := exists_load_of_load hsized hsized.alone hmany hsingle
      ((layoutBytes_le hsized.batch_pos).trans hallocatable) hopened
    cases hopenedOne.symm.trans hloaded
    subst hbackend
    obtain ⟨hisOpenOne, hbackends, -⟩ := opened_of_load hsized.alone hsingle hopenedOne
    have hlater := hisOpen.after earlier
    have hlaterOne := hisOpenOne.after before
    have hsame : (one.after before).backend = (session.after earlier).backend := by
      rw [(Session.after_keeps_graph one _ hisOpenOne.loaded before).1,
        (Session.after_keeps_graph session _ hisOpen.loaded earlier).1, hbackends]
    have hfixed : StaticAgrees (weightCount inputs hidden outputs) (session.after earlier).data
        (one.after before).data := fun i hinside => by
      rw [hisOpen.staticAgrees_after earlier i hinside,
        hisOpenOne.staticAgrees_after before i hinside, hfixed i hinside]
    have hsplit (session : Session α) (calls : List (Call α)) (values : List α) :
        session.after (calls ++ pass values) = (session.after calls).after (pass values) :=
      List.foldl_append
    obtain ⟨result, hread, hsize, hsamples⟩ :=
      hlater.tensor_pass hlaterOne hsized hsame hfixed values hlength
    refine ⟨(hlater.pass_eq hsized values hlength).1, result, ?_, hsize,
      fun sample hknown => ⟨?_, ?_⟩⟩
    · rwa [hsplit]
    · exact (hlaterOne.pass_sample hsized hlength hknown).1
    · rw [hsplit]
      exact hsamples sample hknown

/-- Five weights, all of them one. -/
def unitWeights : Bytes := (List.replicate 5 [0, 0, 128, 63]).flatten

/-- Two samples of two inputs each. -/
theorem samples_independent_pair :
    (0 < 2 ∧ 0 < 1 ∧ 0 < 1 ∧ 0 < 2) ∧
    (weightCount 2 1 1 * Words.elementSize : Nat) ≤ Words.maxSigned ∧
    (2 * ((2 + 3 * 1 + 3 * 1) * Words.elementSize) : Nat) ≤ Words.maxSigned ∧
    batchOf (NameTable.empty.insert "N" 2) = (2 : Nat) ∧ batchOf .empty = 1 ∧
    ∃ graph, Perceptron.graph 2 1 1 "raw" = .ok graph ∧ ∃ session one : Session Binary32,
      Session.load graph unitWeights .native (NameTable.empty.insert "N" 2) = .ok session ∧
      Session.load graph unitWeights .native .empty = .ok one ∧
      ∃ result, (session.after (pass [⟨0x3f800000⟩, ⟨0x40000000⟩, ⟨0⟩, ⟨0xbf800000⟩])).tensor "y" =
          .ok result ∧ result.length = 2 ∧
        (one.after (pass [⟨0x3f800000⟩, ⟨0x40000000⟩])).tensor "y" = .ok (result.take 1) ∧
        (one.after (pass [⟨0⟩, ⟨0xbf800000⟩])).tensor "y" = .ok ((result.drop 1).take 1) := by
  have hpositive : 0 < 2 ∧ 0 < 1 ∧ 0 < 1 ∧ 0 < 2 := by decide
  have hstatic : (weightCount 2 1 1 * Words.elementSize : Nat) ≤ Words.maxSigned := by decide
  have hdynamic : (2 * ((2 + 3 * 1 + 3 * 1) * Words.elementSize) : Nat) ≤ Words.maxSigned := by
    decide
  have hmany : batchOf (NameTable.empty.insert "N" 2) = (2 : Nat) := by cbv
  have hsingle : batchOf .empty = 1 := by cbv
  obtain ⟨graph, hbuilt, hruns⟩ := samples_independent (α := Binary32) 2 1 1 2 "raw"
    (NameTable.empty.insert "N" 2) .empty hpositive hstatic hdynamic hmany hsingle
  have hsized : Sized 2 1 1 1 := ⟨by decide, by decide, by decide, by decide, by decide, by decide⟩
  cases (graph_eq_ok hsized "raw").symm.trans hbuilt
  obtain ⟨haccepted, hindependent⟩ := hruns unitWeights .native
  obtain ⟨one, hloadedOne⟩ := exists_load_raw (α := Binary32) hsized hsingle (by decide)
    unitWeights (by decide) .native
  obtain ⟨session, hloaded⟩ := haccepted.mpr ⟨⟨one, hloadedOne⟩, by decide⟩
  obtain ⟨-, result, hread, hlength, hsamples⟩ := hindependent session one hloaded hloadedOne [] []
    [⟨0x3f800000⟩, ⟨0x40000000⟩, ⟨0⟩, ⟨0xbf800000⟩] rfl
  exact ⟨hpositive, hstatic, hdynamic, hmany, hsingle, _, hbuilt, session, one, hloaded, hloadedOne,
    result, hread, hlength, (hsamples 0 (by decide)).2, (hsamples 1 (by decide)).2⟩

end TensorBench.KernelGraph.Perceptron
