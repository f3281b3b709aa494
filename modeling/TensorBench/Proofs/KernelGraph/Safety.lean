import TensorBench.Proofs.KernelGraph.Loading
import TensorBench.Proofs.Weights.StaticPart

/-!
Calls on loaded graphs stay inside the buffer. Loading checks the operands of every kernel, so that
each step finds them whole and each input and output can be read and written, whatever was called
before. It lets two cases pass: a matrix without rows, which only the backend without a plan can run,
and sizes that agree only because what was expected of them wrapped around.
-/
namespace TensorBench.Session

open Execution Sequencing

variable {α : Type} [Scalar α]

theorem Loaded.placement_inside {session : Session α} {steps : List Step}
    (h : Loaded session steps) {name : String} {placement : Placement}
    (hplace : session.layout.placement name = .ok placement) :
    placement.stop ≤ session.data.size := by
  obtain ⟨total, hsettled, hsize⟩ := h.settled
  rw [hsize]
  exact (hsettled.toSettled.placement_within hplace).stop_le

theorem Loaded.tensor_length {session : Session α} {steps : List Step} (h : Loaded session steps)
    {name : String} {placement : Placement}
    (hplace : session.layout.placement name = .ok placement) :
    ∃ values, session.tensor name = .ok values ∧ values.length = placement.length := by
  have hstop := h.placement_inside hplace
  refine ⟨_, tensor_eq session name hplace, ?_⟩
  rw [Array.length_toList, Array.size_extract, Nat.min_eq_left hstop]
  exact Nat.add_sub_cancel_left _ _

theorem Loaded.kernel_sound {session : Session α} {steps : List Step} (h : Loaded session steps)
    (kernel : Kernel) (hmem : kernel ∈ session.kernels) :
    ∃ step, Step.compile session.layout kernel = .ok step ∧ Sound step session.data.size := by
  have hpairs := h.compiled.flip
  obtain ⟨step, hstep, hcompile⟩ := exists_item_of_mem_results hpairs hmem
  exact ⟨step, hcompile, h.sound step hstep⟩

/-- Whatever was called before, a loaded graph keeps every kernel compiling to a step that stays
inside the buffer, and its inputs and outputs can be read and written whole. As long as no expected
size is larger than a word, a run of it completes exactly if the backend compiles on every run or no
kernel multiplies by a matrix without rows; a matrix for which such a size was expected crashes that
backend. -/
theorem loaded_graph_safe (graph : KernelGraph) (weights : Bytes) (backend : Backend)
    (overrides : Bindings) (session : Session α)
    (hload : load graph weights backend overrides = .ok session) (calls : List (Call α)) :
    (∀ kernel ∈ graph.kernels, ∃ step,
      Step.compile (session.after calls).layout kernel = .ok step ∧
        Sound step (session.after calls).data.size) ∧
    (∀ name ∈ graph.inputs ++ graph.outputs, ∃ placement,
      (session.after calls).layout.placement name = .ok placement ∧
        placement.stop ≤ (session.after calls).data.size ∧
        ∃ values, (session.after calls).tensor name = .ok values ∧
          values.length = placement.length) ∧
    (∀ name ∈ graph.inputs, ∀ position values, ∃ next length,
      (session.after calls).writeInput name position values = .ok (next, length)) ∧
    (¬ session.HasWrappedSize →
      ((backend = .fallback ∨ ¬ session.HasEmptyProduct) →
        (session.after calls).run.2 = .ok ()) ∧
      (¬ (backend = .fallback ∨ ¬ session.HasEmptyProduct) →
        (session.after calls).run.2 = .error .crashed)) ∧
    (backend = .fallback →
      (∃ kernel ∈ graph.kernels, kernel.isLinear = true ∧ kernel.Wraps session.layout) →
        (session.after calls).run.2 = .error .crashed) := by
  obtain ⟨prepared, hprepare, rfl⟩ :=
    (load_eq_ok_iff graph weights backend overrides session).mp hload
  have hloaded := assemble_loaded graph weights backend overrides hprepare
  obtain ⟨plan, -, hlater⟩ := after_eq _ _ hloaded calls
  obtain ⟨hbackend, hlayout, hkernels, hinputs, -⟩ := after_keeps_graph _ _ hloaded calls
  have hrun : ((assemble graph backend prepared).after calls).run.2 =
      if Completes backend prepared.steps then .ok () else .error .crashed := by
    obtain ⟨_, hends, -⟩ := run_eq _ _ hlater
    rw [hends, hbackend]
    rfl
  refine ⟨?_, ?_, ?_, fun hwraps => ?_, ?_⟩
  · intro kernel hmem
    exact hlater.kernel_sound kernel (hkernels ▸ hmem)
  · intro name hmem
    obtain ⟨placement, hplace⟩ := hloaded.placed name hmem
    rw [← hlayout] at hplace
    exact ⟨placement, hplace, hlater.placement_inside hplace, hlater.tensor_length hplace⟩
  · intro name hmem position values
    obtain ⟨placement, hplace⟩ := hloaded.placed name (List.mem_append_left _ hmem)
    rw [← hlayout] at hplace
    exact ⟨_, _, writeInput_declared _ name position values (hinputs ▸ hmem) hplace⟩
  · have hcompletes := completes_iff _ _ hloaded hwraps backend
    constructor
    · intro hcondition
      rw [hrun, if_pos (hcompletes.mpr hcondition)]
    · intro hcondition
      rw [hrun, if_neg (mt hcompletes.mp hcondition)]
  · rintro rfl ⟨kernel, hmem, hlinear, hwraps⟩
    obtain ⟨step, hstep, hstands⟩ := exists_item_of_mem_results hloaded.standsFor.flip hmem
    have hrefused : Refused .fallback step :=
      refused_of_wrapped (hstands.linear_eq.trans hlinear) fun hexact => hstands.exact_iff.mp hexact hwraps
    rw [hrun, if_neg fun hcompletes => hcompletes step hstep hrefused]

/-! ### A matrix without rows -/

/-- Four inputs times a matrix of no rows. -/
def rowlessGraph : KernelGraph where
  layout := (((Layout.empty.pushStatic "w" 0).pushDynamic "x" (.value 0) (.value 16)).pushDynamic
    "y" (.value 16) (.value 0)).setDynamicSize (.value 16)
  encoding := "raw"
  inputs := ["x"]
  outputs := ["y"]
  kernels := [.linear "x" "w" "y" (some 4)]
  bindings := .empty

def rowlessSession (backend : Backend) : Session Binary32 :=
  assemble rowlessGraph backend ⟨rowlessGraph.layout, Array.replicate 4 Scalar.zero,
    [⟨.linear 4 ⟨0, 4⟩ ⟨0, 0⟩, ⟨4, 0⟩⟩], 16⟩

theorem load_rowlessGraph (backend : Backend) :
    load rowlessGraph [] backend .empty = .ok (rowlessSession backend) :=
  (load_eq_ok_iff _ _ _ _ _).mpr ⟨_, by cbv, rfl⟩

theorem not_hasWrappedSize_rowlessSession (backend : Backend) :
    ¬ (rowlessSession backend).HasWrappedSize := by
  rintro ⟨kernel, hmem, hwraps⟩
  obtain rfl : kernel = .linear "x" "w" "y" (some 4) := List.mem_singleton.mp hmem
  have hx : Step.sliceOf (rowlessSession backend).layout "x" = .ok ⟨0, 4⟩ := by cbv
  have hy : Step.sliceOf (rowlessSession backend).layout "y" = .ok ⟨4, 0⟩ := by cbv
  exact absurd ((Step.wraps_linear_iff hx hy).mp hwraps) (by decide)

theorem hasEmptyProduct_rowlessSession (backend : Backend) :
    (rowlessSession backend).HasEmptyProduct :=
  ⟨_, List.mem_singleton_self _, rfl, ⟨"y", .floating, 16, 0⟩, by cbv, rfl⟩

theorem loaded_graph_safe_rowless :
    load rowlessGraph [] .fallback .empty = .ok (rowlessSession .fallback) ∧
      ((rowlessSession .fallback).after [.write "x" 0 [Scalar.one], .run]).run.2 = .ok () ∧
      load rowlessGraph [] .native .empty = .ok (rowlessSession .native) ∧
      ((rowlessSession .native).after [.write "x" 0 [Scalar.one], .run]).run.2 = .error .crashed := by
  refine ⟨load_rowlessGraph .fallback, ?_, load_rowlessGraph .native, ?_⟩
  · have hsafe := loaded_graph_safe rowlessGraph [] .fallback .empty _ (load_rowlessGraph .fallback)
      [.write "x" 0 [Scalar.one], .run]
    exact (hsafe.2.2.2.1 (not_hasWrappedSize_rowlessSession .fallback)).1 (Or.inl rfl)
  · have hsafe := loaded_graph_safe rowlessGraph [] .native .empty _ (load_rowlessGraph .native)
      [.write "x" 0 [Scalar.one], .run]
    refine (hsafe.2.2.2.1 (not_hasWrappedSize_rowlessSession .native)).2 ?_
    simp [hasEmptyProduct_rowlessSession]

/-- Loading alone does not make runs complete. -/
theorem rowless_run_crashes :
    ¬ ∀ (graph : KernelGraph) (weights : Bytes) (backend : Backend) (overrides : Bindings)
      (session : Session Binary32), load graph weights backend overrides = .ok session →
        ∀ calls, (session.after calls).run.2 = .ok () := by
  intro hsafe
  have hrun := hsafe rowlessGraph [] .native .empty _ (load_rowlessGraph .native) []
  have hcrash : ((rowlessSession .native).after []).run.2 = .error .crashed := by cbv
  cases hrun.symm.trans hcrash

/-! ### A size that wraps around -/

/-- A matrix of no elements where one with `2 ^ 32` rows and columns is expected. -/
def wrappedGraph : KernelGraph where
  layout := (((Layout.empty.pushStatic "w" 0).pushDynamic "x" (.value 0)
    (.value 17179869184)).pushDynamic "y" (.value 0) (.value 17179869184)).setDynamicSize
      (.value 17179869184)
  encoding := "raw"
  inputs := ["x"]
  outputs := ["y"]
  kernels := [.linear "x" "w" "y" none]
  bindings := .empty

def wrappedStep : Step := ⟨.linear 4294967296 ⟨0, 4294967296⟩ ⟨0, 0⟩, ⟨0, 4294967296⟩⟩

theorem prepare_wrappedGraph :
    prepare wrappedGraph [] .empty = .ok ⟨wrappedGraph.layout,
      Array.replicate 4294967296 (Scalar.zero : Binary32), [wrappedStep], 17179869184⟩ := by
  -- these facts are stated without the buffer, which is too large to be evaluated
  have htotal : wrappedGraph.layout.totalSize = .ok 17179869184 := by cbv
  have hlayout : wrappedGraph.layout.Allocatable 17179869184 :=
    ⟨⟨by cbv, by cbv, htotal⟩, by decide⟩
  have hbind : wrappedGraph.layout.bind (wrappedGraph.bindings.extend .empty) =
      .ok wrappedGraph.layout := by cbv
  have hencoding : Encoding.ofName wrappedGraph.encoding = .ok .raw := by cbv
  have hplaced : ∀ name ∈ wrappedGraph.inputs ++ wrappedGraph.outputs, ∃ placement,
      wrappedGraph.layout.placement name = .ok placement := by
    intro name hmem
    simp only [wrappedGraph, List.cons_append, List.nil_append, List.mem_cons, List.not_mem_nil,
      or_false] at hmem
    rcases hmem with rfl | rfl
    · exact ⟨⟨"x", .floating, 0, 17179869184⟩, by cbv⟩
    · exact ⟨⟨"y", .floating, 0, 17179869184⟩, by cbv⟩
  have hstep : Step.compile wrappedGraph.layout (.linear "x" "w" "y" none) = .ok wrappedStep := by
    cbv
  exact (prepare_eq_ok_iff _ _ _ _).mpr ⟨hbind, ⟨.raw, hencoding,
    (Weights.Raw.decode_eq_ok_iff hlayout [] _).mpr ⟨rfl, rfl⟩⟩, hplaced, .cons hstep .nil, htotal⟩

/-- Every backend loads such a graph, although no run of it completes. -/
theorem wrapped_run_crashes (backend : Backend) :
    ∃ session : Session Binary32, load wrappedGraph [] backend .empty = .ok session ∧
      ∀ calls, (session.after calls).run.2 = .error .crashed := by
  have hloaded := assemble_loaded wrappedGraph [] backend .empty prepare_wrappedGraph
  refine ⟨_, (load_eq_ok_iff _ _ _ _ _).mpr ⟨_, prepare_wrappedGraph, rfl⟩, fun calls => ?_⟩
  obtain ⟨plan, -, hlater⟩ := after_eq _ _ hloaded calls
  obtain ⟨hbackend, -⟩ := after_keeps_graph _ _ hloaded calls
  obtain ⟨_, hrun, -⟩ := run_eq _ _ hlater
  have hrefused : ¬ Completes backend [wrappedStep] := by cases backend <;> decide
  rw [hrun, hbackend]
  exact if_neg hrefused

end TensorBench.Session
