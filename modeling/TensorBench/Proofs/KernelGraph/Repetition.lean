import TensorBench.Proofs.KernelGraph.Loading

/-!
Runs in a row. When no step writes to what it reads itself or what an earlier step reads, a run
depends only on the elements that no step writes. These are the elements that a run keeps, so every
further run computes the same again.
-/
namespace TensorBench

namespace Slice

/-- The positions of a range. -/
def Covers (slice : Slice) (i : Nat) : Prop :=
  slice.start ≤ i ∧ i < slice.start + slice.length

theorem not_covers_iff (slice : Slice) (i : Nat) :
    ¬ slice.Covers i ↔ i < slice.start ∨ slice.start + slice.length ≤ i := by
  simp only [Covers]
  omega

/-- Two ranges with a position in common. -/
def Overlaps (a b : Slice) : Prop := ∃ i, a.Covers i ∧ b.Covers i

theorem overlaps_iff (a b : Slice) :
    a.Overlaps b ↔
      max a.start b.start < min (a.start + a.length) (b.start + b.length) := by
  simp only [Overlaps, Covers]
  constructor
  · intro h
    obtain ⟨i, ha, hb⟩ := h
    omega
  · intro h
    exact ⟨max a.start b.start, by omega, by omega⟩

instance (a b : Slice) : Decidable (a.Overlaps b) :=
  decidable_of_iff _ (a.overlaps_iff b).symm

end Slice

namespace Execution

open Slice

variable {α : Type} [Scalar α] {a b : Array α} {step : Step} {steps rest : List Step}

/-! ### What a step reads -/

theorem exists_covers_sourceOf {row rows column : Nat} {parts : List (Slice × Nat)}
    (hlength : ∀ part ∈ parts, part.1.length = rows * part.2) (hrow : row < rows)
    (hcolumn : column < rowWidth parts) :
    ∃ part ∈ parts, part.1.Covers (sourceOf row parts column) := by
  induction parts generalizing column with
  | nil => exact absurd hcolumn (Nat.not_lt_zero column)
  | cons part rest ih =>
    rw [sourceOf]
    by_cases hpart : column < part.2
    · rw [if_pos hpart]
      have hinside := mul_add_lt hrow hpart
      rw [← hlength part List.mem_cons_self] at hinside
      exact ⟨part, List.mem_cons_self, Nat.le_add_right _ _, Nat.add_lt_add_left hinside _⟩
    · rw [if_neg hpart]
      rw [rowWidth] at hcolumn
      have hrest : column - part.2 < rowWidth rest := by omega
      obtain ⟨source, hmem, hcovers⟩ :=
        ih (fun p hp => hlength p (List.mem_cons_of_mem _ hp)) hrest
      exact ⟨source, List.mem_cons_of_mem _ hmem, hcovers⟩

/-- Two buffers have the same elements where an operation reads. -/
def SameInputs (operation : Operation) (a b : Array α) : Prop :=
  ∀ input ∈ operation.inputs, ∀ i, input.Covers i → element a i = element b i

/-- What a step writes depends on the ranges that it reads and on nothing else. -/
theorem valueAt_congr (start : α) {size : Nat} (hsound : Sound step size)
    (hsame : SameInputs step.operation a b) (i : Nat) (hi : i < reach step) :
    valueAt start a step.operation i = valueAt start b step.operation i := by
  have hlength : i < step.output.length := Nat.lt_of_lt_of_le hi hsound.reach_le
  obtain ⟨operation, output⟩ := step
  cases operation with
  | linear inner x w =>
    obtain ⟨batch, hinner, -, hx, hreach, -, -, -⟩ := hsound.linear_rows
    have hrows : i < batch * (w.length / inner) := hreach ▸ hi
    have hpos : 0 < w.length / inner := Nat.pos_of_mul_pos_left (Nat.zero_lt_of_lt hrows)
    have hrow : i / (w.length / inner) < batch := Nat.div_lt_of_lt_mul (Nat.mul_comm batch _ ▸ hrows)
    have hunit : i % (w.length / inner) < w.length / inner := Nat.mod_lt i hpos
    have hweights : w.length / inner * inner ≤ w.length := Nat.div_mul_le_self _ _
    simp only [valueAt]
    congr 1
    · refine window_congr fun j hj => hsame x (by simp [Operation.inputs]) _ ?_
      have hlast := mul_add_lt hrow hj
      exact ⟨by omega, by omega⟩
    · refine window_congr fun j hj => hsame w (by simp [Operation.inputs]) _ ?_
      have hlast := mul_add_lt hunit hj
      exact ⟨by omega, by omega⟩
  | combine function x b =>
    obtain ⟨hx, hb, -, -⟩ := hsound.combine
    have hpos : 0 < b.length := Nat.pos_of_dvd_of_pos hb (Nat.zero_lt_of_lt hlength)
    have hcycle := Nat.mod_lt i hpos
    simp only [valueAt]
    rw [hsame x (by simp [Operation.inputs]) (x.start + i) ⟨by omega, by simp only at hlength; omega⟩,
      hsame b (by simp [Operation.inputs]) (b.start + i % b.length) ⟨by omega, by omega⟩]
  | concat parts =>
    obtain ⟨rows, hwidth, -, hrows, -, hparts⟩ := hsound.concat_rows
    have hrow : i / rowWidth parts < output.length / rowWidth parts :=
      Nat.div_lt_of_lt_mul (by rw [Nat.mul_comm]; exact hi)
    obtain ⟨part, hmem, hcovers⟩ := exists_covers_sourceOf (fun p hp => (hparts p hp).1)
      (Nat.lt_of_lt_of_le hrow hrows) (Nat.mod_lt i hwidth)
    exact hsame part.1 (List.mem_map_of_mem hmem) _ hcovers
  | transform function x =>
    obtain ⟨hx, -⟩ := hsound.transform
    simp only [valueAt]
    rw [hsame x (by simp [Operation.inputs]) (x.start + i) ⟨by omega, by simp only at hlength; omega⟩]

theorem contents_congr (start : α) {size : Nat} (hsound : Sound step size)
    (hsame : SameInputs step.operation a b) : contents start a step = contents start b step := by
  refine List.map_congr_left fun i _ => ?_
  by_cases hi : i < reach step
  · rw [if_pos hi, if_pos hi, valueAt_congr start hsound hsame i hi]
  · rw [if_neg hi, if_neg hi]

/-! ### Steps that do not disturb what was read -/

/-- No step writes to a range that it reads itself or that a step in front of it reads. -/
def Feedforward : List Step → Prop
  | [] => True
  | step :: rest =>
      (∀ input ∈ step.operation.inputs, ∀ writer ∈ step :: rest, ¬ input.Overlaps writer.output) ∧
        Feedforward rest

instance decidableFeedforward : (steps : List Step) → Decidable (Feedforward steps)
  | [] => inferInstanceAs (Decidable True)
  | _ :: rest =>
      have := decidableFeedforward rest
      inferInstanceAs (Decidable (_ ∧ _))

theorem Feedforward.sublist {some all : List Step} (hsub : some.Sublist all)
    (hforward : Feedforward all) : Feedforward some := by
  induction hsub with
  | slnil => exact hforward
  | cons step _ ih => exact ih hforward.2
  | cons_cons step hsub ih =>
    exact ⟨fun input hinput writer hwriter => hforward.1 input hinput writer
      ((hsub.cons_cons step).subset hwriter), ih hforward.2⟩

/-- Two buffers of one size that differ at most in the outputs of steps. -/
structure AgreeOutside (steps : List Step) (a b : Array α) : Prop where
  size_eq : a.size = b.size
  same : ∀ i, (∀ step ∈ steps, ¬ step.output.Covers i) → a[i]? = b[i]?

/-- A buffer and what steps make of it. -/
theorem agreeOutside_applySteps (start : α) (data : Array α) (steps : List Step) :
    AgreeOutside steps data (applySteps start data steps) := by
  refine ⟨(size_applySteps start data steps).symm, fun i houtside => ?_⟩
  refine (getElem?_applySteps_outside start data steps i fun step hmem => ?_).symm
  exact (step.output.not_covers_iff i).mp (houtside step hmem)

theorem AgreeOutside.sameInputs (hagree : AgreeOutside (step :: rest) a b)
    (hforward : Feedforward (step :: rest)) : SameInputs step.operation a b := by
  intro input hinput i hcovers
  refine element_congr (hagree.same i fun writer hwriter hwrites => ?_)
  exact hforward.1 input hinput writer hwriter ⟨i, hcovers, hwrites⟩

/-- A step writes the same to both buffers, so they no longer differ in its output. -/
theorem AgreeOutside.applyStep (start : α) {size : Nat} (hagree : AgreeOutside (step :: rest) a b)
    (hforward : Feedforward (step :: rest)) (hsound : Sound step size) :
    AgreeOutside rest (applyStep start a step) (applyStep start b step) := by
  have hcontents := contents_congr start hsound (hagree.sameInputs hforward)
  refine ⟨by rw [size_applyStep, size_applyStep, hagree.size_eq], fun i houtside => ?_⟩
  simp only [Execution.applyStep, hcontents, Weights.getElem?_writeFrom, length_contents,
    hagree.size_eq]
  by_cases hwritten : step.output.start ≤ i ∧ i < step.output.start + step.output.length ∧
      i < b.size
  · rw [if_pos hwritten, if_pos hwritten]
  · rw [if_neg hwritten, if_neg hwritten]
    by_cases hinside : i < b.size
    · refine hagree.same i (List.forall_mem_cons.mpr ⟨fun hcovers => ?_, houtside⟩)
      exact hwritten ⟨hcovers.1, hcovers.2, hinside⟩
    · have hbeyond : ¬ i < a.size := hagree.size_eq.symm ▸ hinside
      rw [Array.getElem?_eq_none (Nat.le_of_not_lt hbeyond),
        Array.getElem?_eq_none (Nat.le_of_not_lt hinside)]

/-- The buffer after a run depends only on the elements that no step writes. -/
theorem applySteps_congr (start : α) {size : Nat} (hforward : Feedforward steps)
    (hsound : ∀ step ∈ steps, Sound step size) (hagree : AgreeOutside steps a b) :
    applySteps start a steps = applySteps start b steps := by
  -- the buffers differ only where steps that are still to come write, in the end nowhere
  induction steps generalizing a b with
  | nil =>
    exact Array.ext_getElem? fun i => hagree.same i fun _ hmem => absurd hmem List.not_mem_nil
  | cons step rest ih =>
    have hnext := hagree.applyStep start hforward (hsound step List.mem_cons_self)
    exact ih hforward.2 (fun s hs => hsound s (List.mem_cons_of_mem _ hs)) hnext

/-- A second run leaves the buffer as the first one did. -/
theorem applySteps_applySteps (start : α) (data : Array α) {size : Nat}
    (hforward : Feedforward steps) (hsound : ∀ step ∈ steps, Sound step size) :
    applySteps start (applySteps start data steps) steps = applySteps start data steps :=
  (applySteps_congr start hforward hsound (agreeOutside_applySteps start data steps)).symm

end Execution

namespace Session

open Execution Sequencing

variable {α : Type} [Scalar α]

theorem after_append (session : Session α) (first second : List (Call α)) :
    session.after (first ++ second) = (session.after first).after second :=
  List.foldl_append

theorem after_run_data (session : Session α) (steps : List Step) (h : Loaded session steps) :
    (session.after [.run]).data =
      applySteps (sumStart session.backend) session.data (completed session.backend steps) := by
  obtain ⟨plan, hafter, -⟩ := after_eq session steps h [.run]
  rw [hafter]
  rfl

/-- Runs of a loaded graph whose steps do not disturb what was read. -/
theorem data_after_runs (session : Session α) (steps : List Step) (h : Loaded session steps)
    (hforward : Feedforward steps) (k : Nat) :
    (session.after (List.replicate (k + 1) .run)).data = (session.after [.run]).data := by
  induction k with
  | zero => rfl
  | succ k ih =>
    obtain ⟨hbackend, -, -, -, -⟩ :=
      after_keeps_graph session steps h (List.replicate (k + 1) .run)
    obtain ⟨-, -, hloaded⟩ := after_eq session steps h (List.replicate (k + 1) .run)
    rw [List.replicate_succ', after_append, after_run_data _ steps hloaded, hbackend, ih,
      after_run_data session steps h]
    exact applySteps_applySteps _ _ (hforward.sublist (completed_sublist session.backend steps))
      fun step hmem => h.sound step ((completed_sublist session.backend steps).subset hmem)

/-- Whatever was called before, when no kernel writes to a range that it reads itself or that an
earlier kernel reads, any number of runs in a row answer what the first one answers and leave the
buffer that it leaves. -/
theorem repeated_runs_same (graph : KernelGraph) (weights : Bytes) (backend : Backend)
    (overrides : Bindings) (session : Session α)
    (hload : load graph weights backend overrides = .ok session) {steps : List Step}
    (hsteps : graph.kernels.mapM (Step.compile session.layout) = .ok steps)
    (hforward : Feedforward steps) (calls : List (Call α)) (k : Nat) :
    (session.after (calls ++ List.replicate (k + 1) .run)).data =
        (session.after (calls ++ [.run])).data ∧
      (session.after calls).answers (List.replicate (k + 1) .run) =
        List.replicate (k + 1) session.run.2 := by
  obtain ⟨prepared, hprepare, rfl⟩ :=
    (load_eq_ok_iff graph weights backend overrides session).mp hload
  have hloaded := assemble_loaded graph weights backend overrides hprepare
  have hprepared := (mapM_eq_ok_iff _ _ _).mpr hloaded.compiled
  cases hprepared.symm.trans hsteps
  obtain ⟨hbackend, -, -, -, -⟩ := after_keeps_graph _ _ hloaded calls
  obtain ⟨-, -, hafter⟩ := after_eq _ _ hloaded calls
  constructor
  · rw [after_append, after_append, data_after_runs _ _ hafter hforward]
  · obtain ⟨plan, hrun, -⟩ := run_eq _ _ hloaded
    rw [answers_eq _ _ hafter, hbackend, List.map_replicate, hrun]
    simp [Call.answer]

/-- Two weights times two inputs; the product is then rectified into a tensor of its own. -/
def rectifiedGraph : KernelGraph where
  layout := ((((Layout.empty.pushStatic "w" 8).pushDynamic "x" (.value 0) (.value 8)).pushDynamic
    "y" (.value 8) (.value 4)).pushDynamic "z" (.value 12) (.value 4)).setDynamicSize (.value 16)
  encoding := "raw"
  inputs := ["x"]
  outputs := ["z"]
  kernels := [.linear "x" "w" "y" none, .unary .relu "y" "z"]
  bindings := .empty

def rectifiedSteps : List Step :=
  [⟨.linear 2 ⟨2, 2⟩ ⟨0, 2⟩, ⟨4, 1⟩⟩, ⟨.transform .relu ⟨4, 1⟩, ⟨5, 1⟩⟩]

def rectifiedPreparation : Preparation α :=
  ⟨rectifiedGraph.layout, productBuffer.push Scalar.zero, rectifiedSteps, 24⟩

def rectifiedSession (backend : Backend) : Session α :=
  assemble rectifiedGraph backend rectifiedPreparation

theorem prepare_rectifiedGraph :
    prepare rectifiedGraph productWeights .empty = .ok (rectifiedPreparation (α := α)) := by
  cbv

theorem load_rectifiedGraph (backend : Backend) :
    load rectifiedGraph productWeights backend .empty = .ok (rectifiedSession (α := α) backend) :=
  (load_eq_ok_iff _ _ _ _ _).mpr ⟨_, prepare_rectifiedGraph, rfl⟩

theorem run_rectifiedSession (backend : Backend) :
    (rectifiedSession (α := α) backend).run.2 = .ok () := by
  obtain ⟨plan, hrun, -⟩ := run_eq _ _ (assemble_loaded rectifiedGraph productWeights backend .empty
    (prepare_rectifiedGraph (α := α)))
  have hcompletes : Completes backend rectifiedSteps := by cases backend <;> decide
  rw [rectifiedSession, hrun]
  exact if_pos hcompletes

theorem repeated_runs_same_rectified :
    load rectifiedGraph productWeights .threaded .empty =
      .ok (rectifiedSession (α := Binary32) .threaded) ∧
    rectifiedGraph.kernels.mapM
      (Step.compile (rectifiedSession (α := Binary32) .threaded).layout) = .ok rectifiedSteps ∧
    Feedforward rectifiedSteps ∧
    ∀ calls k,
      ((rectifiedSession (α := Binary32) .threaded).after
          (calls ++ List.replicate (k + 1) .run)).data =
        ((rectifiedSession (α := Binary32) .threaded).after (calls ++ [.run])).data ∧
      ((rectifiedSession (α := Binary32) .threaded).after calls).answers
          (List.replicate (k + 1) .run) = List.replicate (k + 1) (.ok ()) := by
  have hsteps : rectifiedGraph.kernels.mapM
      (Step.compile (rectifiedSession (α := Binary32) .threaded).layout) = .ok rectifiedSteps := by
    cbv
  have hforward : Feedforward rectifiedSteps := by decide
  refine ⟨load_rectifiedGraph .threaded, hsteps, hforward, fun calls k => ?_⟩
  rw [← run_rectifiedSession (α := Binary32) .threaded]
  exact repeated_runs_same _ _ _ _ _ (load_rectifiedGraph .threaded) hsteps hforward calls k

end Session

end TensorBench
