import TensorBench.Proofs.KernelGraph.Loading

/-!
Weights survive. Calls write only to inputs and to outputs of kernels, and a static allocation
shares no element with an allocation of another name; so a static allocation that is neither keeps
what the weight file gave it.
-/
namespace TensorBench

namespace Call

variable {α : Type} [Scalar α]

/-- An element outside of all inputs and of all outputs is left alone. -/
theorem getElem?_effect_outside (layout : Layout) (inputs : List String) (start : α)
    (steps : List Step) (data : Array α) (call : Call α) (i : Nat)
    (hinputs : ∀ name ∈ inputs, ∀ placement, layout.placement name = .ok placement →
      ¬ placement.Covers i)
    (houtputs : ∀ step ∈ steps,
      i < step.output.start ∨ step.output.start + step.output.length ≤ i) :
    (call.effect layout inputs start steps data)[i]? = data[i]? := by
  cases call with
  | write name position values =>
    simp only [effect]
    by_cases hmem : name ∈ inputs
    · rw [if_pos hmem]
      cases hplace : layout.placement name with
      | ok placement =>
        have houtside := hinputs name hmem placement hplace
        have hlength := List.length_take_le (placement.length - position) values
        refine Weights.getElem?_writeFrom_outside data (placement.start + position) _ i ?_
        simp only [Placement.Covers, Placement.stop] at houtside
        omega
      | error failure => rfl
    · rw [if_neg hmem]
  | run => exact Execution.getElem?_applySteps_outside start data steps i houtputs

theorem getElem?_effects_outside (layout : Layout) (inputs : List String) (start : α)
    (steps : List Step) (data : Array α) (calls : List (Call α)) (i : Nat)
    (hinputs : ∀ name ∈ inputs, ∀ placement, layout.placement name = .ok placement →
      ¬ placement.Covers i)
    (houtputs : ∀ step ∈ steps,
      i < step.output.start ∨ step.output.start + step.output.length ≤ i) :
    (calls.foldl (fun data call => call.effect layout inputs start steps data) data)[i]? =
      data[i]? := by
  induction calls generalizing data with
  | nil => rfl
  | cons call rest ih =>
    rw [List.foldl_cons, ih, getElem?_effect_outside layout inputs start steps data call i hinputs
      houtputs]

end Call

namespace Session

open Execution Sequencing

variable {α : Type} [Scalar α]

/-- Elements of a static allocation that is neither an input nor an output stay as they are. -/
theorem getElem?_after_static (session : Session α) (steps : List Step) (h : Loaded session steps)
    (calls : List (Call α)) (name : String)
    (hstatic : name ∈ session.layout.fixed.allocations.names) (hinput : name ∉ session.inputs)
    (houtput : ∀ kernel ∈ session.kernels, kernel.output ≠ name) {placement : Placement}
    (hplace : session.layout.placement name = .ok placement) (i : Nat) (hi : placement.Covers i) :
    (session.after calls).data[i]? = session.data[i]? := by
  obtain ⟨total, hsettled, -⟩ := h.settled
  have hothers : ∀ other, other ≠ name → ∀ otherPlacement,
      session.layout.placement other = .ok otherPlacement → ¬ otherPlacement.Covers i :=
    fun other hne otherPlacement hother hcovers =>
      hsettled.toSettled.static_separated hstatic hne.symm hplace hother i ⟨hi, hcovers⟩
  have hinputs : ∀ other ∈ session.inputs, ∀ otherPlacement,
      session.layout.placement other = .ok otherPlacement → ¬ otherPlacement.Covers i :=
    fun other hmem => hothers other fun heq => hinput (heq ▸ hmem)
  have houtputs : ∀ step ∈ completed session.backend steps,
      i < step.output.start ∨ step.output.start + step.output.length ≤ i := by
    intro step hmem
    obtain ⟨kernel, hkernel, hstands⟩ := exists_item_of_mem_results h.standsFor
      ((completed_sublist session.backend steps).subset hmem)
    obtain ⟨written, hwritten, hslice⟩ := (Step.sliceOf_eq_ok_iff _ _ _).mp hstands.output_ok
    have houtside := hothers kernel.output (houtput kernel hkernel) written hwritten
    rw [hslice]
    simp only [Placement.Covers, Placement.stop] at houtside ⊢
    omega
  obtain ⟨plan, hafter, -⟩ := after_eq session steps h calls
  rw [hafter]
  exact Call.getElem?_effects_outside _ _ _ _ _ calls i hinputs houtputs

omit [Scalar α] in
/-- A tensor depends only on the elements that its allocation covers. -/
theorem extract_congr (a b : Array α) (placement : Placement) (hsize : a.size = b.size)
    (h : ∀ i, placement.Covers i → a[i]? = b[i]?) :
    a.extract placement.start placement.stop = b.extract placement.start placement.stop := by
  apply Array.ext_getElem?
  intro i
  rw [Array.getElem?_extract, Array.getElem?_extract, hsize]
  by_cases hi : i < min placement.stop b.size - placement.start
  · rw [if_pos hi, if_pos hi, h _ ⟨Nat.le_add_right _ _, by omega⟩]
  · rw [if_neg hi, if_neg hi]

/-- Whatever is called on a loaded graph, a static allocation that is neither a declared input nor
the output of a kernel holds the values that the weights were decoded to. -/
theorem static_weights_kept (graph : KernelGraph) (weights : Bytes) (backend : Backend)
    (overrides : Bindings) (session : Session α)
    (hload : load graph weights backend overrides = .ok session) :
    ∃ encoding decoded,
      graph.layout.bind (graph.bindings.extend overrides) = .ok session.layout ∧
      Encoding.ofName graph.encoding = .ok encoding ∧
      encoding.decode weights session.layout = .ok decoded ∧
      ∀ name ∈ graph.layout.fixed.allocations.names, name ∉ graph.inputs →
        (∀ kernel ∈ graph.kernels, kernel.output ≠ name) →
          ∃ placement, session.layout.placement name = .ok placement ∧
            ∀ calls, (session.after calls).tensor name =
              .ok (decoded.extract placement.start placement.stop).toList := by
  obtain ⟨prepared, hprepare, rfl⟩ :=
    (load_eq_ok_iff graph weights backend overrides session).mp hload
  have hloaded := assemble_loaded graph weights backend overrides hprepare
  obtain ⟨hbind, ⟨encoding, hencoding, hdecode⟩, -, -, -⟩ :=
    (prepare_eq_ok_iff graph weights overrides prepared).mp hprepare
  refine ⟨encoding, prepared.data, hbind, hencoding, hdecode, ?_⟩
  intro name hstatic hinput houtput
  rw [← (Layout.bind_eq_ok _ _ hbind).2.2.1] at hstatic
  obtain ⟨total, hsettled, -⟩ := hloaded.settled
  obtain ⟨allocation, hget⟩ := (NameTable.mem_names_iff _ _).mp hstatic
  obtain ⟨hplace, -⟩ := hsettled.toSettled.placement_static hget
  refine ⟨_, hplace, fun calls => ?_⟩
  obtain ⟨-, hlayout, -, -, hsize⟩ := after_keeps_graph _ _ hloaded calls
  have hsame := extract_congr _ _ _ hsize fun i hi =>
    getElem?_after_static _ _ hloaded calls name hstatic hinput houtput hplace i hi
  rw [tensor_eq _ name (hlayout ▸ hplace), hsame]
  rfl

theorem static_weights_kept_product :
    load productGraph productWeights .native .empty =
      .ok (productSession (α := Binary32) .native) ∧
    ∀ calls, ((productSession (α := Binary32) .native).after calls).tensor "w" =
      .ok [⟨0x3f800000⟩, ⟨0x40000000⟩] := by
  refine ⟨load_productGraph .native, ?_⟩
  obtain ⟨encoding, decoded, -, hencoding, hdecode, hkept⟩ :=
    static_weights_kept _ _ _ _ _ (load_productGraph (α := Binary32) .native)
  have hraw : Encoding.ofName productGraph.encoding = .ok .raw := by cbv
  cases hraw.symm.trans hencoding
  have hbuffer : Encoding.raw.decode productWeights
      (productSession (α := Binary32) .native).layout = .ok (productBuffer (α := Binary32)) := by
    cbv
  cases hbuffer.symm.trans hdecode
  obtain ⟨placement, hplace, htensor⟩ := hkept "w" (by decide) (by decide) (by decide)
  have hw : (productSession (α := Binary32) .native).layout.placement "w" =
      .ok ⟨"w", .fixed, 0, 8⟩ := by cbv
  cases hw.symm.trans hplace
  exact htensor

end Session

end TensorBench
