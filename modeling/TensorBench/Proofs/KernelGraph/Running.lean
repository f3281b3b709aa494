import Mathlib.Data.List.TakeWhile
import TensorBench.KernelGraph.Session
import TensorBench.Proofs.KernelGraph.Compilation
import TensorBench.Proofs.KernelGraph.CountedLoops
import TensorBench.Proofs.KernelGraph.ElementByElement
import TensorBench.Proofs.KernelGraph.RowByRow
import TensorBench.Proofs.Weights.Buffer

/-!
Runs of a whole graph. A backend is reduced to two things: the value its sums start from and the
steps it completes. Everything it writes to the buffer follows from these and from the meaning of
the steps.
-/
namespace TensorBench

namespace Execution

variable {α : Type} [Scalar α]

/-- The buffer after a step. -/
def applyStep (start : α) (data : Array α) (step : Step) : Array α :=
  Weights.writeFrom data step.output.start (contents start data step)

/-- The buffer after steps in order. -/
def applySteps (start : α) (data : Array α) (steps : List Step) : Array α :=
  steps.foldl (applyStep start) data

@[simp] theorem size_applyStep (start : α) (data : Array α) (step : Step) :
    (applyStep start data step).size = data.size :=
  Weights.size_writeFrom _ _ _

@[simp] theorem size_applySteps (start : α) (data : Array α) (steps : List Step) :
    (applySteps start data steps).size = data.size := by
  unfold applySteps
  induction steps generalizing data with
  | nil => rfl
  | cons step rest ih => rw [List.foldl_cons, ih, size_applyStep]

/-- Steps change no element outside of their outputs. -/
theorem getElem?_applySteps_outside (start : α) (data : Array α) (steps : List Step) (i : Nat)
    (h : ∀ step ∈ steps, i < step.output.start ∨ step.output.start + step.output.length ≤ i) :
    (applySteps start data steps)[i]? = data[i]? := by
  unfold applySteps
  induction steps generalizing data with
  | nil => rfl
  | cons step rest ih =>
    rw [List.foldl_cons, ih _ fun s hs => h s (List.mem_cons_of_mem _ hs)]
    refine Weights.getElem?_writeFrom_outside data step.output.start _ i ?_
    rw [length_contents]
    exact h step List.mem_cons_self

theorem element_applyStep_output (start : α) (data : Array α) (step : Step) (i : Nat)
    (hbound : i < step.output.length) (hinside : step.output.start + i < data.size) :
    element (applyStep start data step) (step.output.start + i) =
      if i < reach step then valueAt start data step.operation i else Scalar.zero := by
  have hwritten : (applyStep start data step)[step.output.start + i]? =
      some (if i < reach step then valueAt start data step.operation i else Scalar.zero) := by
    rw [applyStep, Weights.getElem?_writeFrom, length_contents,
      if_pos ⟨Nat.le_add_right _ _, by omega, hinside⟩, Nat.add_sub_cancel_left,
      getElem?_contents _ _ _ hbound]
  rw [getElem?_eq_element _ _ (by rwa [size_applyStep])] at hwritten
  exact Option.some.inj hwritten

theorem element_congr {a b : Array α} {i : Nat} (hsame : a[i]? = b[i]?) :
    element a i = element b i := by
  rw [element, element, Array.getD_eq_getD_getElem?, Array.getD_eq_getD_getElem?, hsame]

theorem element_applyStep_outside (start : α) (data : Array α) (step : Step) (i : Nat)
    (houtside : i < step.output.start ∨ step.output.start + step.output.length ≤ i) :
    element (applyStep start data step) i = element data i :=
  element_congr (Weights.getElem?_writeFrom_outside data step.output.start _ i
    (by rwa [length_contents]))

/-- An executor that gives sound steps their contents, except for those that it refuses. -/
structure Faithful (execute : Step → Array α → List α → Option (List α)) (start : α)
    (refused : Step → Prop) : Prop where
  executes : ∀ step data old, Sound step data.size → Blank step old → ¬ refused step →
    execute step data old = some (contents start data step)
  refuses : ∀ step data old, Sound step data.size → data.size < Words.limit → Blank step old →
    refused step → execute step data old = none

theorem executeSequential_faithful :
    Faithful (executeSequential (α := α)) Scalar.negZero RefusedByRows :=
  ⟨executeSequential_eq_contents, fun step data old hsound _ =>
    executeSequential_eq_none step data old hsound⟩

theorem executeParallel_faithful :
    Faithful (executeParallel (α := α)) Scalar.negZero RefusedByElements :=
  ⟨executeParallel_eq_contents, fun step data old hsound _ =>
    executeParallel_eq_none step data old hsound⟩

theorem executeIndexed_faithful :
    Faithful (executeIndexed (α := α)) Scalar.zero RefusedByLoops :=
  ⟨executeIndexed_eq_contents, executeIndexed_eq_none⟩

end Execution

namespace Session

open Execution

variable {α : Type} [Scalar α]

theorem store?_contents (start : α) (data : Array α) (step : Step)
    (hsound : Sound step data.size) :
    store? data step.output (contents start data step) = some (applyStep start data step) :=
  if_pos ⟨length_contents _ _ _, hsound.output_inside⟩

/-- Planned steps with an output that is blank wherever they do not reach. -/
structure Prepared (plan : List (Planned α)) (steps : List Step) : Prop where
  steps_eq : plan.map (·.step) = steps
  blank : ∀ entry ∈ plan, Blank entry.step entry.scratch

/-- The steps in front of the first one that is refused. -/
def runnable (refused : Step → Prop) [DecidablePred refused] (steps : List Step) : List Step :=
  steps.takeWhile fun step => ¬ refused step

section Refusing

variable {refused : Step → Prop} [DecidablePred refused]

/-- A faithful run writes what the steps mean, up to the first one that it refuses. -/
theorem runPlan_eq (execute : Step → Array α → List α → Option (List α)) (start : α)
    (hexecute : Faithful execute start refused) (data : Array α) (plan : List (Planned α))
    (steps : List Step) (hplan : Prepared plan steps) (hsize : data.size < Words.limit)
    (hsound : ∀ step ∈ steps, Sound step data.size) :
    ∃ after, runPlan execute data plan =
        (applySteps start data (runnable refused steps), after,
          steps.all fun step => ¬ refused step) ∧
      Prepared after steps := by
  induction plan generalizing data steps with
  | nil =>
    obtain ⟨rfl, -⟩ := hplan
    exact ⟨[], rfl, rfl, by simp⟩
  | cons entry rest ih =>
    obtain ⟨rfl, hblank⟩ := hplan
    have hentry := hblank entry List.mem_cons_self
    have hstep : Sound entry.step data.size := hsound _ List.mem_cons_self
    by_cases hrefused : refused entry.step
    · have hexec := hexecute.refuses _ _ _ hstep hsize hentry hrefused
      refine ⟨entry :: rest, ?_, rfl, hblank⟩
      simp [runPlan, hexec, hrefused, runnable, applySteps]
    · have hexec := hexecute.executes _ _ _ hstep hentry hrefused
      obtain ⟨after, hrun, hsteps, hlater⟩ := ih (applyStep start data entry.step) _
        ⟨rfl, fun e he => hblank e (List.mem_cons_of_mem _ he)⟩ (by rwa [size_applyStep])
        fun step hmem => by rw [size_applyStep]; exact hsound _ (List.mem_cons_of_mem _ hmem)
      refine ⟨⟨entry.step, contents start data entry.step⟩ :: after, ?_, ?_, ?_⟩
      · simp [runPlan, hexec, hrefused, store?_contents start data _ hstep, hrun, runnable,
          applySteps]
      · rw [List.map_cons, List.map_cons, hsteps]
      · exact List.forall_mem_cons.mpr ⟨.contents start data entry.step, hlater⟩

end Refusing

/-- A run that compiles on the way writes what the steps mean, up to the first one that is
refused. -/
theorem runKernels_eq (layout : Layout) (data : Array α) (kernels : List Kernel)
    (steps : List Step)
    (hcompile : List.Forall₂ (fun kernel step => Step.compile layout kernel = .ok step)
      kernels steps)
    (hsize : data.size < Words.limit) (hsound : ∀ step ∈ steps, Sound step data.size) :
    runKernels layout data kernels = (applySteps Scalar.zero data (runnable RefusedByLoops steps),
      if ∀ step ∈ steps, ¬ RefusedByLoops step then .ok () else .error .crashed) := by
  induction hcompile generalizing data with
  | nil => rfl
  | @cons kernel step kernels steps hkernel _ ih =>
    have hstep := hsound step List.mem_cons_self
    by_cases hrefused : RefusedByLoops step
    · have hexec := executeIndexed_faithful.refuses _ _ _ hstep hsize (.replicate step) hrefused
      simp [runKernels, hkernel, hexec, hrefused, runnable, applySteps]
    · have hexec := executeIndexed_faithful.executes _ _ _ hstep (.replicate step) hrefused
      have hrest := ih (applyStep Scalar.zero data step) (by rwa [size_applyStep])
        fun s hs => by rw [size_applyStep]; exact hsound s (List.mem_cons_of_mem _ hs)
      simp only [runKernels, hkernel, hexec, Option.bind_some, store?_contents _ data step hstep,
        hrest]
      simp [runnable, applySteps, hrefused]

/-! ### Backends -/

/-- The value from which the sums of a backend start. -/
def sumStart : Backend → α
  | .fallback => Scalar.zero
  | _ => Scalar.negZero

/-- The steps that a backend cannot execute. -/
def Refused : Backend → Step → Prop
  | .threaded => RefusedByElements
  | .native => RefusedByRows
  | .fallback => RefusedByLoops

instance : (backend : Backend) → DecidablePred (Refused backend)
  | .threaded => inferInstanceAs (DecidablePred RefusedByElements)
  | .native => inferInstanceAs (DecidablePred RefusedByRows)
  | .fallback => inferInstanceAs (DecidablePred RefusedByLoops)

/-- The steps a run of a backend completes. -/
def completed (backend : Backend) (steps : List Step) : List Step :=
  runnable (Refused backend) steps

theorem completed_sublist (backend : Backend) (steps : List Step) :
    (completed backend steps).Sublist steps :=
  List.takeWhile_sublist _

/-- The backend refuses none of the steps. -/
def Completes (backend : Backend) (steps : List Step) : Prop :=
  ∀ step ∈ steps, ¬ Refused backend step

instance (backend : Backend) (steps : List Step) : Decidable (Completes backend steps) :=
  inferInstanceAs (Decidable (∀ step ∈ steps, ¬ Refused backend step))

theorem completed_eq_self {backend : Backend} {steps : List Step} (h : Completes backend steps) :
    completed backend steps = steps := by
  rw [completed, runnable, List.takeWhile_eq_self_iff]
  exact fun step hmem => decide_eq_true (h step hmem)

/-- Where no expected size wrapped around, rows of a concatenation fit into a word and divide the
output. -/
theorem concat_of_exact {parts : List (Slice × Nat)} {output : Slice} {size : Nat}
    (hsound : Sound ⟨.concat parts, output⟩ size) (hexact : Exact ⟨.concat parts, output⟩) :
    0 < rowWidth parts ∧ Words.wrap (rowWidth parts) = rowWidth parts ∧
      rowWidth parts ∣ output.length := by
  obtain ⟨rows, hwidth, hrows, hparts, houtput⟩ := hsound.concat
  have hlength : output.length = rows * rowWidth parts :=
    Eq.trans hexact (sum_lengths parts rows fun part hmem => (hparts part hmem).1)
  have hlimit : output.length < Words.limit := houtput ▸ Words.wrap_lt _
  refine ⟨hwidth, Words.wrap_of_lt (Nat.lt_of_le_of_lt ?_ hlimit), hlength ▸ Nat.dvd_mul_left _ _⟩
  rw [hlength]
  exact Nat.le_mul_of_pos_left _ hrows

/-- There a matrix has no rows exactly if the output has no elements. -/
theorem linear_of_exact {inner : Nat} {x w output : Slice} {size : Nat}
    (hsound : Sound ⟨.linear inner x w, output⟩ size) (hexact : Exact ⟨.linear inner x w, output⟩) :
    w.length / inner = 0 ↔ output.length = 0 := by
  obtain ⟨batch, outer, hinner, hbatch, hx, -, houtput, -, -⟩ := hsound.linear
  have hw : w.length = inner * outer := by
    have hlength := hexact
    simp only [Exact, hx, houtput, Nat.mul_div_cancel _ hinner,
      Nat.mul_div_cancel_left _ hbatch] at hlength
    exact hlength
  rw [hw, Nat.mul_div_cancel_left _ hinner, houtput, Nat.mul_eq_zero]
  exact ⟨Or.inr, fun h => h.resolve_left (Nat.ne_of_gt hbatch)⟩

/-- There a backend refuses nothing but matrices without rows, and the one without a plan not even
those. -/
theorem refused_iff {step : Step} {size : Nat} (hsound : Sound step size) (hexact : Exact step)
    (backend : Backend) : Refused backend step ↔ backend ≠ .fallback ∧ Degenerate step := by
  obtain ⟨operation, output⟩ := step
  cases operation with
  | linear inner x w =>
    have hempty := linear_of_exact hsound hexact
    cases backend <;> simp [Refused, RefusedByElements, RefusedByRows, RefusedByLoops, Degenerate,
      isLinear, hempty, hexact]
  | concat parts =>
    obtain ⟨hwidth, hword, hdvd⟩ := concat_of_exact hsound hexact
    cases backend <;> simp [Refused, RefusedByElements, RefusedByRows, RefusedByLoops, Degenerate,
      isLinear, hword, hdvd, Nat.ne_of_gt hwidth]
  | combine function x b =>
    cases backend <;> simp [Refused, RefusedByElements, RefusedByRows, RefusedByLoops, Degenerate,
      isLinear]
  | transform function x =>
    cases backend <;> simp [Refused, RefusedByElements, RefusedByRows, RefusedByLoops, Degenerate,
      isLinear]

/-- Without a plan, a matrix of another size than expected is refused. -/
theorem refused_of_wrapped {step : Step} (hlinear : isLinear step.operation = true)
    (hwrapped : ¬ Exact step) : Refused .fallback step := by
  obtain ⟨operation, output⟩ := step
  cases operation with
  | linear inner x w => exact hwrapped
  | combine function x b => cases hlinear
  | concat parts => cases hlinear
  | transform function x => cases hlinear

/-- What holds once a graph is loaded and whatever happens to it afterwards: the buffer has the
size of the layout, and the kernels of the graph stand for steps. -/
structure Loaded (session : Session α) (steps : List Step) : Prop where
  settled : ∃ total, session.layout.Allocatable total ∧
    session.data.size = total / Words.elementSize
  compiled : List.Forall₂ (fun kernel step => Step.compile session.layout kernel = .ok step)
    session.kernels steps
  prepared : session.backend ≠ .fallback → Prepared session.plan steps
  placed : ∀ name ∈ session.inputs ++ session.outputs, ∃ placement,
    session.layout.placement name = .ok placement

namespace Loaded

variable {session : Session α} {steps : List Step}

theorem size_lt (h : Loaded session steps) : session.data.size < Words.limit := by
  obtain ⟨total, hlayout, hsize⟩ := h.settled
  have hle := hlayout.total_le
  simp only [Words.maxBuffer, Words.elementSize, Words.limit] at *
  omega

theorem standsFor (h : Loaded session steps) :
    List.Forall₂ (Step.StandsFor session.layout) session.kernels steps :=
  h.compiled.imp fun kernel _ hcompile => Step.compile_standsFor session.layout kernel hcompile

theorem sound (h : Loaded session steps) : ∀ step ∈ steps, Sound step session.data.size := by
  obtain ⟨total, hlayout, hsize⟩ := h.settled
  intro step hmem
  obtain ⟨kernel, -, hstands⟩ := Sequencing.exists_item_of_mem_results h.standsFor hmem
  rw [hsize]
  exact hstands.sound hlayout.toSettled

end Loaded

theorem runWith_eq (execute : Step → Array α → List α → Option (List α)) {refused : Step → Prop}
    [DecidablePred refused] (hexecute : Faithful execute Scalar.negZero refused)
    (session : Session α) (steps : List Step) (h : Loaded session steps)
    (hbackend : session.backend ≠ .fallback) :
    ∃ after, runWith execute session =
        ({ session with
            data := applySteps Scalar.negZero session.data (runnable refused steps), plan := after },
          if ∀ step ∈ steps, ¬ refused step then .ok () else .error .crashed) ∧
      Prepared after steps := by
  obtain ⟨after, hrun, hafter⟩ := runPlan_eq execute _ hexecute session.data session.plan steps
    (h.prepared hbackend) h.size_lt h.sound
  refine ⟨after, ?_, hafter⟩
  rw [runWith, hrun]
  simp

/-- A run writes what the steps mean that its backend completes. It succeeds unless the backend
refuses one of them. -/
theorem run_eq (session : Session α) (steps : List Step) (h : Loaded session steps) :
    ∃ after, session.run =
        ({ session with
            data := applySteps (sumStart session.backend) session.data
              (completed session.backend steps)
            plan := after },
          if Completes session.backend steps then .ok () else .error .crashed) ∧
      (session.backend ≠ .fallback → Prepared after steps) := by
  cases hbackend : session.backend with
  | threaded =>
    obtain ⟨after, hrun, hafter⟩ :=
      runWith_eq executeParallel executeParallel_faithful session steps h (by simp [hbackend])
    refine ⟨after, ?_, fun _ => hafter⟩
    simp only [run, hbackend, hrun, sumStart]
    rfl
  | native =>
    obtain ⟨after, hrun, hafter⟩ :=
      runWith_eq executeSequential executeSequential_faithful session steps h (by simp [hbackend])
    refine ⟨after, ?_, fun _ => hafter⟩
    simp only [run, hbackend, hrun, sumStart]
    rfl
  | fallback =>
    refine ⟨session.plan, ?_, fun hne => absurd rfl hne⟩
    have hrun := runKernels_eq session.layout session.data session.kernels steps h.compiled
      h.size_lt h.sound
    simp only [run, hbackend, hrun, sumStart]
    rfl

end Session

end TensorBench
