import Mathlib.Data.List.TakeWhile
import TensorBench.Proofs.KernelGraph.Loading
import TensorBench.Proofs.Number.Alike

/-!
Agreement of the backends. Sums start from minus zero on two of them and from zero on the third, so
their buffers are compared up to an identification of elements that the operations respect. Steps
and writes preserve agreement, hence any sequence of calls does.
-/
namespace TensorBench.Execution

open Scalar

variable {α : Type} [Scalar α]

/-- Buffers of one size whose elements are identified one by one. -/
structure Agree (same : α → α → Prop) (a b : Array α) : Prop where
  size_eq : a.size = b.size
  elements : ∀ i, same (element a i) (element b i)

theorem element_setIfInBounds (a : Array α) (position i : Nat) (value : α) :
    element (a.setIfInBounds position value) i =
      if position = i ∧ i < a.size then value else element a i := by
  unfold element
  rw [Array.getD_eq_getD_getElem?, Array.getD_eq_getD_getElem?, Array.getElem?_setIfInBounds]
  by_cases hi : position = i
  · subst hi
    by_cases hlt : position < a.size
    · simp [hlt]
    · simp [hlt]
  · simp [hi]

section Agreement

variable {same : α → α → Prop}

theorem window_same {a b : Array α} (h : Agree same a b) (start length : Nat) :
    List.Forall₂ same (window a start length) (window b start length) := by
  unfold window
  rw [List.forall₂_map_left_iff, List.forall₂_map_right_iff, List.forall₂_same]
  exact fun i _ => h.elements (start + i)

theorem setIfInBounds_agree {a b : Array α} (h : Agree same a b) (position : Nat) {x y : α}
    (hvalue : same x y) : Agree same (a.setIfInBounds position x) (b.setIfInBounds position y) := by
  refine ⟨by simpa using h.size_eq, fun i => ?_⟩
  rw [element_setIfInBounds, element_setIfInBounds, h.size_eq]
  by_cases hi : position = i ∧ i < b.size
  · rw [if_pos hi, if_pos hi]
    exact hvalue
  · rw [if_neg hi, if_neg hi]
    exact h.elements i

theorem writeFrom_agree {a b : Array α} (h : Agree same a b) (start : Nat) {xs ys : List α}
    (hvalues : List.Forall₂ same xs ys) :
    Agree same (Weights.writeFrom a start xs) (Weights.writeFrom b start ys) := by
  induction hvalues generalizing a b start with
  | nil => exact h
  | cons hvalue _ ih => exact ih (setIfInBounds_agree h start hvalue) (start + 1)

variable (hsame : Respects same)

include hsame

theorem agree_refl (a : Array α) : Agree same a a :=
  ⟨rfl, fun _ => hsame.equivalence.refl _⟩

theorem sumOfProducts_same {start start' : α} (hstart : same start start') {xs xs' ys ys' : List α}
    (hx : List.Forall₂ same xs xs') (hy : List.Forall₂ same ys ys') :
    same (sumOfProducts start xs ys) (sumOfProducts start' xs' ys') := by
  unfold sumOfProducts
  induction hx generalizing start start' ys ys' with
  | nil => simpa using hstart
  | cons hfirst _ ih =>
    cases hy with
    | nil => simpa using hstart
    | cons hsecond hrest => exact ih (hsame.add hstart (hsame.mul hfirst hsecond)) hrest

theorem binary_same (function : BinaryFunction) {x x' y y' : α} (hx : same x x') (hy : same y y') :
    same (function.apply x y) (function.apply x' y') := by
  cases function with
  | add => exact hsame.add hx hy
  | mul => exact hsame.mul hx hy

theorem unary_same (function : UnaryFunction) {x x' : α} (hx : same x x') :
    same (function.apply x) (function.apply x') := by
  cases function with
  | relu => exact hsame.relu hx
  | sigmoid => exact hsame.sigmoid hx
  | tanh => exact hsame.tanh hx
  | copy => exact hx

/-- What an operation puts into its output depends on the buffer up to the identification. -/
theorem valueAt_same {start start' : α} (hstart : same start start') {a b : Array α}
    (h : Agree same a b) (operation : Operation) (i : Nat) :
    same (valueAt start a operation i) (valueAt start' b operation i) := by
  cases operation with
  | linear inner x w =>
    exact sumOfProducts_same hsame hstart (window_same h _ _) (window_same h _ _)
  | combine function x b => exact binary_same hsame function (h.elements _) (h.elements _)
  | concat parts => exact h.elements _
  | transform function x => exact unary_same hsame function (h.elements _)

theorem contents_same {start start' : α} (hstart : same start start') {a b : Array α}
    (h : Agree same a b) (step : Step) :
    List.Forall₂ same (contents start a step) (contents start' b step) := by
  unfold contents
  rw [List.forall₂_map_left_iff, List.forall₂_map_right_iff, List.forall₂_same]
  intro i _
  by_cases hi : i < reach step
  · rw [if_pos hi, if_pos hi]
    exact valueAt_same hsame hstart h step.operation i
  · rw [if_neg hi, if_neg hi]
    exact hsame.equivalence.refl _

/-- A step preserves agreement. -/
theorem applyStep_agree {start start' : α} (hstart : same start start') {a b : Array α}
    (h : Agree same a b) (step : Step) :
    Agree same (applyStep start a step) (applyStep start' b step) :=
  writeFrom_agree h step.output.start (contents_same hsame hstart h step)

theorem applySteps_agree {start start' : α} (hstart : same start start') {a b : Array α}
    (h : Agree same a b) (steps : List Step) :
    Agree same (applySteps start a steps) (applySteps start' b steps) := by
  unfold applySteps
  induction steps generalizing a b with
  | nil => exact h
  | cons step rest ih => exact ih (applyStep_agree hsame hstart h step)

/-- A call preserves agreement. -/
theorem effect_agree (layout : Layout) (inputs : List String) (steps : List Step)
    {start start' : α} (hstart : same start start') {a b : Array α} (h : Agree same a b)
    (call : Call α) :
    Agree same (call.effect layout inputs start steps a)
      (call.effect layout inputs start' steps b) := by
  cases call with
  | write name position values =>
    simp only [Call.effect]
    by_cases hmem : name ∈ inputs
    · rw [if_pos hmem, if_pos hmem]
      cases layout.placement name with
      | ok placement =>
        refine writeFrom_agree h (placement.start + position) ?_
        exact List.forall₂_same.mpr fun value _ => hsame.equivalence.refl value
      | error failure => exact h
    · rw [if_neg hmem, if_neg hmem]
      exact h
  | run => exact applySteps_agree hsame hstart h steps

theorem effects_agree (layout : Layout) (inputs : List String) (steps : List Step)
    {start start' : α} (hstart : same start start') {a b : Array α} (h : Agree same a b)
    (calls : List (Call α)) :
    Agree same (calls.foldl (fun data call => call.effect layout inputs start steps data) a)
      (calls.foldl (fun data call => call.effect layout inputs start' steps data) b) := by
  induction calls generalizing a b with
  | nil => exact h
  | cons call rest ih => exact ih (effect_agree hsame layout inputs steps hstart h call)

theorem sumStart_same (backend other : Backend) :
    same (Session.sumStart backend) (Session.sumStart other) := by
  have hzero : ∀ backend, same (Session.sumStart backend) Scalar.zero := by
    intro backend
    cases backend with
    | threaded => exact hsame.zeros
    | native => exact hsame.zeros
    | fallback => exact hsame.equivalence.refl _
  exact hsame.equivalence.trans (hzero backend) (hsame.equivalence.symm (hzero other))

end Agreement

end TensorBench.Execution

namespace TensorBench.Session

open Execution

variable {α : Type} [Scalar α]

/-- The calls on two loaded graphs that differ only in the backend have the same answers and keep
their buffers in agreement. -/
theorem loaded_agree {same : α → α → Prop} (hsame : Scalar.Respects same)
    (session other : Session α) (steps : List Step) (h : Loaded session steps) (h' : Loaded other steps)
    (hlayout : other.layout = session.layout) (hinputs : other.inputs = session.inputs)
    (hdata : other.data = session.data) (hcompletes : ∀ backend, Completes backend steps)
    (calls : List (Call α)) :
    Agree same (session.after calls).data (other.after calls).data := by
  obtain ⟨plan, hafter, -⟩ := after_eq session steps h calls
  obtain ⟨plan', hafter', -⟩ := after_eq other steps h' calls
  rw [hafter, hafter', completed_eq_self (hcompletes _), completed_eq_self (hcompletes _), hlayout,
    hinputs, hdata]
  exact effects_agree hsame _ _ steps (sumStart_same hsame session.backend other.backend)
    (agree_refl hsame session.data) calls

theorem answers_complete (session : Session α) (steps : List Step) (h : Loaded session steps)
    (hcompletes : Completes session.backend steps) (calls : List (Call α)) :
    session.answers calls = calls.map (Call.answer session.inputs true) := by
  rw [answers_eq session steps h calls, decide_eq_true hcompletes]

/-- The backends refuse the same graphs for the same reason, and loading crashes on one of them if it
does on the others, which takes a layout that is too large for a buffer. Where they accept a graph
without a matrix of no rows and without an expected size that is no word, every call completes on all
of them with the same answer, and their buffers agree element by element after any calls. -/
theorem backends_agree (same : α → α → Prop) (hsame : Scalar.Respects same) (graph : KernelGraph)
    (weights : Bytes) (overrides : Bindings) (backend other : Backend) :
    (∀ stop, load (α := α) graph weights backend overrides = .error stop ↔
      load (α := α) graph weights other overrides = .error stop) ∧
    (load (α := α) graph weights backend overrides = .error .crashed → ∃ layout total,
      graph.layout.bind (graph.bindings.extend overrides) = .ok layout ∧ layout.Settled total ∧
        Words.maxBuffer < total) ∧
    ∀ session : Session α, load graph weights backend overrides = .ok session →
      ∃ otherSession : Session α, load graph weights other overrides = .ok otherSession ∧
        (¬ session.HasEmptyProduct → ¬ session.HasWrappedSize → ∀ calls,
          session.answers calls = calls.map (Call.answer graph.inputs true) ∧
          otherSession.answers calls = calls.map (Call.answer graph.inputs true) ∧
          Agree same (session.after calls).data (otherSession.after calls).data) := by
  refine ⟨fun stop => ?_, fun hcrash => ?_, fun session hload => ?_⟩
  · rw [load_eq_error_iff, load_eq_error_iff]
  · rw [load_eq_error_iff] at hcrash
    exact prepare_crashed hcrash
  · obtain ⟨prepared, hprepare, rfl⟩ :=
      (load_eq_ok_iff graph weights backend overrides session).mp hload
    have hloaded := assemble_loaded graph weights backend overrides hprepare
    have hother := assemble_loaded graph weights other overrides hprepare
    refine ⟨assemble graph other prepared,
      (load_eq_ok_iff _ _ _ _ _).mpr ⟨prepared, hprepare, rfl⟩, fun hempty hwraps calls => ?_⟩
    have hcompletes (backend : Backend) : Completes backend prepared.steps :=
      (completes_iff _ _ hloaded hwraps backend).mpr (.inr hempty)
    exact ⟨answers_complete _ _ hloaded (hcompletes _) calls,
      answers_complete _ _ hother (hcompletes _) calls,
      loaded_agree hsame _ _ _ hloaded hother rfl rfl rfl hcompletes calls⟩

/-- Single precision numbers with a constant exponential and the identity for the hyperbolic
tangent. -/
def Plain32 : Type := Binary32

instance : Scalar Plain32 := Binary32.scalarWith (fun _ => ⟨0x3f800000⟩) id

theorem respects_plain : Scalar.Respects (α := Plain32) Binary32.Alike :=
  Binary32.respects_alike _ _ (fun _ => Or.inl rfl) (fun h => h)

theorem not_hasEmptyProduct_productSession (backend : Backend) :
    ¬ (productSession (α := α) backend).HasEmptyProduct := by
  rintro ⟨kernel, hmem, hlinear, placement, hplace, hempty⟩
  have hkernels : kernel = .linear "x" "w" "y" none ∨ kernel = .unary .relu "y" "y" := by
    simpa [productSession, assemble, productGraph] using hmem
  rcases hkernels with rfl | rfl
  · have hy : (productSession (α := α) backend).layout.placement "y" =
        .ok ⟨"y", .floating, 16, 4⟩ := by cbv
    cases hy.symm.trans hplace
    cases hempty
  · cases hlinear

theorem not_hasWrappedSize_productSession (backend : Backend) :
    ¬ (productSession (α := α) backend).HasWrappedSize := by
  rintro ⟨kernel, hmem, hwraps⟩
  have hkernels : kernel = .linear "x" "w" "y" none ∨ kernel = .unary .relu "y" "y" := by
    simpa [productSession, assemble, productGraph] using hmem
  rcases hkernels with rfl | rfl
  · have hx : Step.sliceOf (productSession (α := α) backend).layout "x" = .ok ⟨2, 2⟩ := by cbv
    have hy : Step.sliceOf (productSession (α := α) backend).layout "y" = .ok ⟨4, 1⟩ := by cbv
    exact absurd ((Step.wraps_linear_iff hx hy).mp hwraps) (by decide)
  · exact hwraps

theorem backends_agree_product :
    ∃ other : Session Plain32,
      load productGraph productWeights .fallback .empty = .ok other ∧
      ∀ values, other.answers [.write "x" 0 values, .run, .run] = [.ok (), .ok (), .ok ()] ∧
        Agree (α := Plain32) Binary32.Alike
          ((productSession .threaded).after [.write "x" 0 values, .run, .run]).data
          (other.after [.write "x" 0 values, .run, .run]).data := by
  obtain ⟨-, -, haccept⟩ := backends_agree (α := Plain32) Binary32.Alike respects_plain productGraph
    productWeights .empty .threaded .fallback
  obtain ⟨other, hother, hagree⟩ := haccept _ (load_productGraph .threaded)
  refine ⟨other, hother, fun values => ?_⟩
  obtain ⟨-, hanswers, hdata⟩ := hagree (not_hasEmptyProduct_productSession .threaded)
    (not_hasWrappedSize_productSession .threaded) [.write "x" 0 values, .run, .run]
  exact ⟨hanswers, hdata⟩

/-- A graph without kernels and weights whose dynamic part takes half of all sizes. -/
def oversizedGraph : KernelGraph where
  layout := Layout.empty.setDynamicSize (.value 9223372036854775808)
  encoding := "raw"
  inputs := []
  outputs := []
  kernels := []
  bindings := .empty

/-- Loading does not always end in a session or in a failure. -/
theorem load_oversizedGraph_crashes :
    (∀ backend, load (α := Binary32) oversizedGraph [] backend .empty = .error .crashed) ∧
      ¬ ∀ (graph : KernelGraph) (weights : Bytes) (backend : Backend) (overrides : Bindings),
        (∃ session : Session Binary32, load graph weights backend overrides = .ok session) ∨
          ∃ failure, load (α := Binary32) graph weights backend overrides =
            .error (.failed failure) := by
  have hcrash : ∀ backend, load (α := Binary32) oversizedGraph [] backend .empty =
      .error .crashed := by
    intro backend
    have hbind : oversizedGraph.layout.bind (oversizedGraph.bindings.extend .empty) =
        .ok oversizedGraph.layout := by cbv
    have hsettled : oversizedGraph.layout.Settled 9223372036854775808 := ⟨by cbv, by cbv, by cbv⟩
    have hraw : Encoding.ofName oversizedGraph.encoding = .ok .raw := by cbv
    rw [load_eq_error_iff]
    exact prepare_oversized hbind hraw hsettled (by decide)
  refine ⟨hcrash, fun hloads => ?_⟩
  rcases hloads oversizedGraph [] .native .empty with ⟨session, hload⟩ | ⟨failure, hload⟩
  · cases (hcrash .native).symm.trans hload
  · cases (hcrash .native).symm.trans hload

end TensorBench.Session
