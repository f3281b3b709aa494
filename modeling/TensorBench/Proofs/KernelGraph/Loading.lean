import TensorBench.Proofs.KernelGraph.Calls

/-!
Loading a graph. All checks are made before the backend matters: the backends accept the same
graphs, refuse the others with the same failures, and differ only in what they keep.
-/
namespace TensorBench.Session

open Execution Sequencing

variable {α : Type} [Scalar α]

/-- What loading computes without regard to the backend. -/
structure Preparation (α : Type) where
  layout : Layout
  data : Array α
  steps : List Step
  bytes : Nat

def prepare (graph : KernelGraph) (weights : Bytes) (overrides : Bindings) :
    Except Stop (Preparation α) := do
  let layout ← graph.layout.bind (graph.bindings.extend overrides)
  let encoding ← Encoding.ofName graph.encoding
  let data ← encoding.decode weights layout
  let names := graph.inputs ++ graph.outputs
  liftM (names.forM fun name => discard (layout.placement name))
  let steps ← liftM (graph.kernels.mapM (Step.compile layout))
  let bytes ← layout.totalSize
  return ⟨layout, data, steps, bytes⟩

/-- The steps a backend keeps. -/
def planOf (backend : Backend) (steps : List Step) : List (Planned α) :=
  match backend with
  | .fallback => []
  | _ => steps.map planned

/-- The session of a backend. -/
def assemble (graph : KernelGraph) (backend : Backend) (prepared : Preparation α) : Session α :=
  ⟨backend, prepared.layout, graph.kernels, planOf backend prepared.steps, prepared.data,
    graph.inputs, graph.outputs, heapFor prepared.bytes⟩

omit [Scalar α] in
theorem map_bind {ε β γ : Type} (x : Except ε β) (f : β → Except ε γ) (g : γ → α) :
    (x >>= f).map g = x >>= fun b => (f b).map g := by
  cases x <;> rfl

/-- Only the last act of loading looks at the backend. -/
theorem load_eq_map (graph : KernelGraph) (weights : Bytes) (backend : Backend)
    (overrides : Bindings) :
    load (α := α) graph weights backend overrides =
      (prepare graph weights overrides).map (assemble graph backend) := by
  simp only [load, prepare, planFor, map_bind, Stop.lift_bind, bind_assoc]
  rfl

omit [Scalar α] in
theorem discard_eq_ok_iff {ε β : Type} {x : Except ε β} :
    (discard x : Except ε PUnit) = .ok () ↔ ∃ b, x = .ok b := by
  cases x <;> simp [discard, Functor.discard, Functor.mapConst, Except.map]

theorem prepare_eq_ok_iff (graph : KernelGraph) (weights : Bytes) (overrides : Bindings)
    (prepared : Preparation α) :
    prepare graph weights overrides = .ok prepared ↔
      graph.layout.bind (graph.bindings.extend overrides) = .ok prepared.layout ∧
        (∃ encoding, Encoding.ofName graph.encoding = .ok encoding ∧
          encoding.decode weights prepared.layout = .ok prepared.data) ∧
        (∀ name ∈ graph.inputs ++ graph.outputs, ∃ placement,
          prepared.layout.placement name = .ok placement) ∧
        List.Forall₂ (fun kernel step => Step.compile prepared.layout kernel = .ok step)
          graph.kernels prepared.steps ∧
        prepared.layout.totalSize = .ok prepared.bytes := by
  simp only [prepare, bind_eq_ok_iff (ε := Stop), Stop.lift_eq_ok_iff, mapM_eq_ok_iff]
  constructor
  · rintro ⟨layout, hlayout, encoding, hencoding, data, hdata, _, hplaced, steps, hsteps, bytes,
      hbytes, heq⟩
    cases heq
    refine ⟨hlayout, ⟨encoding, hencoding, hdata⟩, fun name hmem => ?_, hsteps, hbytes⟩
    exact discard_eq_ok_iff.mp ((forM_eq_ok_iff _ _).mp hplaced name hmem)
  · rintro ⟨hlayout, ⟨encoding, hencoding, hdata⟩, hplaced, hsteps, hbytes⟩
    refine ⟨_, hlayout, encoding, hencoding, _, hdata, (), ?_, _, hsteps, _, hbytes, rfl⟩
    exact (forM_eq_ok_iff _ _).mpr fun name hmem => discard_eq_ok_iff.mpr (hplaced name hmem)

/-- A settled layout that is too large for a buffer makes loading crash. -/
theorem prepare_oversized {graph : KernelGraph} {weights : Bytes} {overrides : Bindings}
    {layout : Layout} {encoding : Encoding} {total : Nat}
    (hbind : graph.layout.bind (graph.bindings.extend overrides) = .ok layout)
    (hencoding : Encoding.ofName graph.encoding = .ok encoding) (hsettled : layout.Settled total)
    (hlarge : Words.maxBuffer < total) :
    prepare (α := α) graph weights overrides = .error .crashed := by
  have hdecode := Weights.decode_of_allocate_error (α := α)
    (Weights.allocate_crashes hsettled hlarge) encoding weights
  rw [prepare, hbind, hencoding]
  simp only [Stop.lift_ok]
  show (encoding.decode weights layout >>= _) = _
  rw [hdecode]
  rfl

/-- Nothing else does. -/
theorem prepare_crashed {graph : KernelGraph} {weights : Bytes} {overrides : Bindings}
    (h : prepare (α := α) graph weights overrides = .error .crashed) : ∃ layout total,
      graph.layout.bind (graph.bindings.extend overrides) = .ok layout ∧ layout.Settled total ∧
        Words.maxBuffer < total := by
  unfold prepare at h
  obtain ⟨layout, hlayout, h⟩ := (bind_eq_error_iff.mp h).resolve_left Stop.lift_ne_crashed
  obtain ⟨encoding, -, h⟩ := (bind_eq_error_iff.mp h).resolve_left Stop.lift_ne_crashed
  rcases bind_eq_error_iff.mp h with hcrash | ⟨data, -, h⟩
  · obtain ⟨total, hlarge⟩ := Weights.large_of_decode_crashed hcrash
    exact ⟨layout, total, Stop.lift_eq_ok_iff.mp hlayout, hlarge⟩
  · obtain ⟨-, -, h⟩ := (bind_eq_error_iff.mp h).resolve_left Stop.lift_ne_crashed
    obtain ⟨steps, -, h⟩ := (bind_eq_error_iff.mp h).resolve_left Stop.lift_ne_crashed
    obtain ⟨bytes, -, h⟩ := (bind_eq_error_iff.mp h).resolve_left Stop.lift_ne_crashed
    cases h

theorem prepared_planOf (backend : Backend) (steps : List Step) (h : backend ≠ .fallback) :
    Prepared (planOf (α := α) backend steps) steps := by
  have hplan : planOf (α := α) backend steps = steps.map planned := by
    cases backend with
    | threaded => rfl
    | native => rfl
    | fallback => exact absurd rfl h
  rw [hplan]
  refine ⟨by rw [List.map_map]; exact List.map_id _, fun entry hmem => ?_⟩
  obtain ⟨step, -, rfl⟩ := List.mem_map.mp hmem
  exact .replicate step

theorem assemble_loaded (graph : KernelGraph) (weights : Bytes) (backend : Backend)
    (overrides : Bindings) {prepared : Preparation α}
    (h : prepare graph weights overrides = .ok prepared) :
    Loaded (assemble graph backend prepared) prepared.steps := by
  obtain ⟨-, ⟨encoding, -, hdecode⟩, hplaced, hcompiled, -⟩ :=
    (prepare_eq_ok_iff graph weights overrides prepared).mp h
  exact ⟨Weights.decode_size encoding weights prepared.layout hdecode, hcompiled,
    prepared_planOf backend prepared.steps, hplaced⟩

theorem load_eq_ok_iff (graph : KernelGraph) (weights : Bytes) (backend : Backend)
    (overrides : Bindings) (session : Session α) :
    load graph weights backend overrides = .ok session ↔
      ∃ prepared, prepare graph weights overrides = .ok prepared ∧
        session = assemble graph backend prepared := by
  rw [load_eq_map]
  cases prepare (α := α) graph weights overrides with
  | error failure => simp [Except.map]
  | ok prepared => simp [Except.map, eq_comm]

theorem load_eq_error_iff (graph : KernelGraph) (weights : Bytes) (backend : Backend)
    (overrides : Bindings) (stop : Stop) :
    load (α := α) graph weights backend overrides = .error stop ↔
      prepare (α := α) graph weights overrides = .error stop := by
  rw [load_eq_map]
  cases prepare (α := α) graph weights overrides <;> simp [Except.map]

/-! ### What a backend may refuse -/

/-- A kernel that multiplies by a matrix without rows, so that its output has no elements. -/
def HasEmptyProduct (session : Session α) : Prop :=
  ∃ kernel ∈ session.kernels, kernel.isLinear = true ∧ ∃ placement,
    session.layout.placement kernel.output = .ok placement ∧ placement.length = 0

/-- A kernel for which a size was expected that is no word. -/
def HasWrappedSize (session : Session α) : Prop :=
  ∃ kernel ∈ session.kernels, kernel.Wraps session.layout

theorem hasEmptyProduct_iff (session : Session α) (steps : List Step) (h : Loaded session steps) :
    session.HasEmptyProduct ↔ ∃ step ∈ steps, Degenerate step := by
  constructor
  · rintro ⟨kernel, hmem, hempty⟩
    obtain ⟨step, hstep, hstands⟩ := exists_item_of_mem_results h.standsFor.flip hmem
    exact ⟨step, hstep, hstands.degenerate_iff.mpr hempty⟩
  · rintro ⟨step, hmem, hdegenerate⟩
    obtain ⟨kernel, hkernel, hstands⟩ := exists_item_of_mem_results h.standsFor hmem
    exact ⟨kernel, hkernel, hstands.degenerate_iff.mp hdegenerate⟩

theorem exact_of_loaded {session : Session α} {steps : List Step} (h : Loaded session steps)
    (hwraps : ¬ session.HasWrappedSize) : ∀ step ∈ steps, Exact step := by
  intro step hmem
  obtain ⟨kernel, hkernel, hstands⟩ := exists_item_of_mem_results h.standsFor hmem
  exact hstands.exact_iff.mpr fun hwrapped => hwraps ⟨kernel, hkernel, hwrapped⟩

theorem completes_iff (session : Session α) (steps : List Step) (h : Loaded session steps)
    (hwraps : ¬ session.HasWrappedSize) (backend : Backend) :
    Completes backend steps ↔ backend = .fallback ∨ ¬ session.HasEmptyProduct := by
  have hexact := exact_of_loaded h hwraps
  rw [hasEmptyProduct_iff session steps h]
  constructor
  · intro hcompletes
    by_contra hempty
    push Not at hempty
    obtain ⟨hbackend, step, hmem, hdegenerate⟩ := hempty
    exact hcompletes step hmem
      ((refused_iff (h.sound step hmem) (hexact step hmem) backend).mpr ⟨hbackend, hdegenerate⟩)
  · intro hcondition step hmem hrefused
    obtain ⟨hbackend, hdegenerate⟩ :=
      (refused_iff (h.sound step hmem) (hexact step hmem) backend).mp hrefused
    exact hcondition.elim hbackend fun hempty => hempty ⟨step, hmem, hdegenerate⟩

/-! ### A small graph -/

/-- Two weights times two inputs; the product is then rectified in place. -/
def productGraph : KernelGraph where
  layout := (((Layout.empty.pushStatic "w" 8).pushDynamic "x" (.value 0) (.value 8)).pushDynamic
    "y" (.value 8) (.value 4)).setDynamicSize (.value 12)
  encoding := "raw"
  inputs := ["x"]
  outputs := ["y"]
  kernels := [.linear "x" "w" "y" none, .unary .relu "y" "y"]
  bindings := .empty

/-- The weights one and two. -/
def productWeights : Bytes := [0, 0, 128, 63, 0, 0, 0, 64]

def productBuffer : Array α :=
  #[Scalar.ofBits 0x3f800000, Scalar.ofBits 0x40000000, Scalar.zero, Scalar.zero, Scalar.zero]

def productSession (backend : Backend) : Session α :=
  assemble productGraph backend ⟨productGraph.layout, productBuffer,
    [⟨.linear 2 ⟨2, 2⟩ ⟨0, 2⟩, ⟨4, 1⟩⟩, ⟨.transform .relu ⟨4, 1⟩, ⟨4, 1⟩⟩], 20⟩

theorem load_productGraph (backend : Backend) :
    load productGraph productWeights backend .empty = .ok (productSession (α := α) backend) :=
  (load_eq_ok_iff _ _ _ _ _).mpr ⟨_, by cbv, rfl⟩

end TensorBench.Session
