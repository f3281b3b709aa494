import Mathlib.Data.List.Induction
import TensorBench.Bench.Factory
import TensorBench.Proofs.Failure
import TensorBench.Proofs.TensorGraph.ScopeBalance

/-!
The life of an engine under its hooks, called in any order. A setup loads a model or changes nothing;
an execution keeps the engine as loaded as it was, and a release unloads it. So an engine is loaded
from its last successful setup up to the next release.
-/
namespace TensorBench

open Sequencing

variable {α : Type}

/-! ### Failures of a setup -/

/-- The failure is one of a setup. -/
abbrev Failure.OfSetup (failure : Failure) : Prop := failure.isSetup = true

/-- The computation crashed, or it failed with a failure of a setup. -/
def Stop.OfSetup (stop : Stop) : Prop := ∀ failure, stop = .failed failure → failure.OfSetup

theorem Failure.duringSetup_ofSetup (engine message : String) (failure : Failure) :
    (failure.duringSetup engine message).OfSetup := by
  unfold duringSetup
  split
  · assumption
  · rfl

theorem Stop.ofSetup_failed {failure : Failure} (hsetup : failure.OfSetup) :
    (Stop.failed failure).OfSetup := by
  rintro _ ⟨⟩
  exact hsetup

theorem Stop.ofSetup_crashed : Stop.crashed.OfSetup := nofun

/-- Among computations that may crash, failures stay those of a setup. -/
theorem Stop.lift_failsAs {β : Type} {x : Except Failure β}
    (hfails : FailsAs Failure.OfSetup x) :
    FailsAs Stop.OfSetup (liftM x : Except Stop β) := by
  intro stop hstop
  obtain ⟨failure, hfailure, rfl⟩ := Stop.lift_eq_error_iff.mp hstop
  exact ofSetup_failed (hfails failure hfailure)

theorem reserve_failsAs (bytes : Nat) : FailsAs Stop.OfSetup (reserve bytes) := by
  unfold reserve
  split
  · exact .ok _
  · exact .error Stop.ofSetup_crashed

theorem reserveArray_failsAs (shape : List Nat) :
    FailsAs Stop.OfSetup (reserveArray shape) := by
  unfold reserveArray
  split
  · exact .error Stop.ofSetup_crashed
  · exact reserve_failsAs _

theorem Contents.needed_failsAs (engine path : String) (contents : Contents) :
    FailsAs Failure.OfSetup (contents.needed engine path) := by
  cases contents with
  | ok bytes => exact .ok bytes
  | error reason => exact .error rfl

theorem Contents.neededJson_failsAs {β : Type} (engine path what : String) (decode : Decoder β)
    (contents : Contents) :
    FailsAs Failure.OfSetup (contents.neededJson engine path what decode) := by
  refine .bind (needed_failsAs engine path contents) fun bytes => ?_
  dsimp only
  split
  · exact .error rfl
  · split
    · exact .ok _
    · exact .error rfl

theorem KernelGraph.Engine.load_failsAs [Scalar α] (options : KernelGraph.Options)
    (found : String → Contents) : FailsAs Stop.OfSetup (load (α := α) options found) := by
  refine .bind (Stop.lift_failsAs (Contents.neededJson_failsAs _ _ _ _ _)) fun graph => ?_
  refine .bind (Stop.lift_failsAs (Contents.needed_failsAs _ _ _)) fun weights => ?_
  split
  · exact .ok _
  · exact .error (Stop.ofSetup_failed (Failure.duringSetup_ofSetup _ _ _))
  · exact .error Stop.ofSetup_crashed

theorem WeightTable.get_failsAs (table : WeightTable α) (layer weight : String)
    (shape : List Nat) : FailsAs Failure.OfSetup (table.get layer weight shape) := by
  unfold get
  split
  · exact .error rfl
  · split
    · exact .error rfl
    · split
      · exact .error rfl
      · split
        · exact .error rfl
        · exact .ok _

namespace Model

theorem buildDense_failsAs (table : WeightTable α) (shape : List Nat) (name : String)
    (units : Nat) (function : Activation) :
    FailsAs Failure.OfSetup (buildDense table shape name units function) := by
  unfold buildDense
  split
  · refine .bind (table.get_failsAs _ _ _) fun kernel => ?_
    refine .bind (table.get_failsAs _ _ _) fun bias => ?_
    dsimp only
    split
    · exact .error rfl
    · exact .ok _
  · exact .error rfl

theorem buildNormalization_failsAs [Scalar α] (table : WeightTable α) (shape : List Nat)
    (name : String) (epsilon : Binary32) :
    FailsAs Failure.OfSetup (buildNormalization table shape name epsilon) := by
  unfold buildNormalization
  split
  · exact .error rfl
  · refine .bind (table.get_failsAs _ _ _) fun gamma => ?_
    refine .bind (table.get_failsAs _ _ _) fun beta => ?_
    refine .bind (table.get_failsAs _ _ _) fun mean => ?_
    refine .bind (table.get_failsAs _ _ _) fun variance => ?_
    exact .ok _

theorem buildLayer_failsAs [Scalar α] (table : WeightTable α) (shape : List Nat)
    (spec : LayerSpec) : FailsAs Failure.OfSetup (buildLayer table shape spec) := by
  cases spec with
  | flatten name => exact .ok _
  | globalAveragePooling name =>
    change FailsAs Failure.OfSetup (buildPooling shape name)
    unfold buildPooling
    split
    · exact .ok _
    · exact .error rfl
  | dense name units function => exact buildDense_failsAs table shape name units function
  | batchNormalization name epsilon => exact buildNormalization_failsAs table shape name epsilon
  | activation name function => exact .ok _
  | dropout name rate => exact .ok _

theorem buildLayers_failsAs [Scalar α] (table : WeightTable α) (specs : List LayerSpec)
    (shape : List Nat) : FailsAs Failure.OfSetup (buildLayers table shape specs) := by
  induction specs generalizing shape with
  | nil => exact .ok _
  | cons spec rest ih =>
    refine .bind (buildLayer_failsAs table shape spec) fun built => ?_
    exact .bind (ih built.2) fun _ => .ok _

end Model

namespace LayerStack

theorem Options.imageSize_failsAs (options : Options) :
    FailsAs Failure.OfSetup options.imageSize := by
  unfold imageSize
  split
  · exact .error rfl
  · exact .ok _
  · split
    · exact .ok _
    · exact .error rfl

theorem decodeWeights_failsAs [Scalar α] (bytes : Bytes) :
    FailsAs Stop.OfSetup (decodeWeights (α := α) bytes) := by
  unfold decodeWeights
  split
  · exact .ok _
  · exact .error (Stop.ofSetup_failed rfl)
  · exact .error Stop.ofSetup_crashed

theorem Engine.load_failsAs [Scalar α] (options : Options) (found : String → Contents) :
    FailsAs Stop.OfSetup (load (α := α) options found) := by
  refine .bind (Stop.lift_failsAs options.imageSize_failsAs) fun size => ?_
  refine .bind (Stop.lift_failsAs (Contents.neededJson_failsAs _ _ _ _ _)) fun topology => ?_
  refine .bind (Stop.lift_failsAs (Contents.neededJson_failsAs _ _ _ _ _)) fun entries => ?_
  refine .bind (Stop.lift_failsAs (Contents.needed_failsAs _ _ _)) fun bytes => ?_
  refine .bind (decodeWeights_failsAs bytes) fun weights => ?_
  refine .bind (.bind (reserveArray_failsAs _) fun _ => .ok _) fun input => ?_
  have hbuilt : FailsAs Failure.OfSetup (Model.build topology ⟨weights, entries⟩ input.shape) :=
    .bind (Model.buildLayers_failsAs _ _ _) fun _ => .ok _
  exact .bind (Stop.lift_failsAs hbuilt) fun _ => .ok _

end LayerStack

theorem Residual.Engine.construct_failsAs [Scalar α] (options : Residual.Options)
    (breakdown : Option String) :
    FailsAs Stop.OfSetup (construct (α := α) options breakdown) := by
  unfold construct
  split
  · exact .error (Stop.ofSetup_failed rfl)
  · exact .error (Stop.ofSetup_failed rfl)
  · exact .error (Stop.ofSetup_failed (Failure.duringSetup_ofSetup _ _ _))
  · exact .ok _

theorem Residual.Engine.load_failsAs [Scalar α] (options : Residual.Options)
    (breakdown : Option String) :
    FailsAs Stop.OfSetup (load (α := α) options breakdown) := by
  refine .bind (construct_failsAs options breakdown) fun graph => ?_
  exact .bind (reserveArray_failsAs _) fun _ => .ok _

/-! ### Hooks -/

/-- A call of a hook. A setup meets findings of its own. -/
inductive HookCall where
  | setup (findings : Findings)
  | execute
  | release

namespace Engine

variable [Scalar α]

/-- Call a hook. -/
def call (engine : Engine α) : HookCall → Except Stop Unit × Engine α
  | .setup findings => engine.setup findings
  | .execute => engine.execute
  | .release => (.ok (), engine.release)

/-- The engine after calls in order, whatever they answer. -/
def after (engine : Engine α) (calls : List HookCall) : Engine α :=
  calls.foldl (fun engine call => (engine.call call).2) engine

/-- Calls in order with their answers. -/
def transcript (engine : Engine α) : List HookCall → List (HookCall × Except Stop Unit)
  | [] => []
  | call :: rest => (call, (engine.call call).1) :: transcript (engine.call call).2 rest

theorem after_snoc (engine : Engine α) (calls : List HookCall) (call : HookCall) :
    engine.after (calls ++ [call]) = ((engine.after calls).call call).2 :=
  List.foldl_concat _ _ _ _

theorem transcript_snoc (engine : Engine α) (calls : List HookCall) (call : HookCall) :
    engine.transcript (calls ++ [call]) =
      engine.transcript calls ++ [(call, ((engine.after calls).call call).1)] := by
  induction calls generalizing engine with
  | nil => rfl
  | cons first rest ih => exact congrArg (List.cons _) (ih (engine.call first).2)

/-- A setup loads a model, or it changes nothing and crashes or fails with a failure of a setup. -/
theorem call_setup_cases (engine : Engine α) (findings : Findings) :
    (∃ next, next.isLoaded = true ∧ engine.call (.setup findings) = (.ok (), next)) ∨
      ∃ stop : Stop, stop.OfSetup ∧ engine.call (.setup findings) = (.error stop, engine) := by
  cases engine with
  | kernelGraph engine =>
    have hfails := KernelGraph.Engine.load_failsAs (α := α) engine.options findings.contents
    cases hload : KernelGraph.Engine.load (α := α) engine.options findings.contents with
    | ok session =>
      refine Or.inl ⟨.kernelGraph { engine with session := some session }, rfl, ?_⟩
      simp [call, setup, KernelGraph.Engine.setup, hload]
    | error stop =>
      refine Or.inr ⟨stop, hfails stop hload, ?_⟩
      simp [call, setup, KernelGraph.Engine.setup, hload]
  | layerStack engine =>
    have hfails := LayerStack.Engine.load_failsAs (α := α) engine.options findings.contents
    cases hload : LayerStack.Engine.load (α := α) engine.options findings.contents with
    | ok model =>
      refine Or.inl ⟨.layerStack { engine with loaded := some model }, rfl, ?_⟩
      simp [call, setup, LayerStack.Engine.setup, hload]
    | error stop =>
      refine Or.inr ⟨stop, hfails stop hload, ?_⟩
      simp [call, setup, LayerStack.Engine.setup, hload]
  | residual engine =>
    have hfails := Residual.Engine.load_failsAs (α := α) engine.options findings.breakdown
    cases hload : Residual.Engine.load (α := α) engine.options findings.breakdown with
    | ok network =>
      refine Or.inl ⟨.residual { engine with loaded := some network }, rfl, ?_⟩
      simp [call, setup, Residual.Engine.setup, hload]
    | error stop =>
      refine Or.inr ⟨stop, hfails stop hload, ?_⟩
      simp [call, setup, Residual.Engine.setup, hload]

theorem isLoaded_execute (engine : Engine α) : engine.execute.2.isLoaded = engine.isLoaded := by
  cases engine with
  | kernelGraph engine =>
    cases hloaded : engine.session <;>
      simp [execute, KernelGraph.Engine.execute, isLoaded, KernelGraph.Engine.isLoaded, hloaded]
  | layerStack engine =>
    cases hloaded : engine.loaded with
    | none =>
      simp [execute, LayerStack.Engine.execute, isLoaded, LayerStack.Engine.isLoaded, hloaded]
    | some model =>
      cases hpredicted : model.model.predict engine.options.gpu model.input <;>
        simp [execute, LayerStack.Engine.execute, isLoaded, LayerStack.Engine.isLoaded, hloaded,
          hpredicted]
  | residual engine =>
    simp only [execute, Prod.map, isLoaded, Residual.Engine.isLoaded, Residual.Engine.execute]
    cases hloaded : engine.loaded with
    | none => simp [hloaded]
    | some network =>
      dsimp only
      split <;> rfl

/-- An engine without a model refuses an execution and stays as it is. -/
theorem execute_unloaded (engine : Engine α) (hunloaded : engine.isLoaded = false) :
    engine.execute =
      (.error (.failed (.execution engine.kind "engine is not loaded")), engine) := by
  cases engine with
  | kernelGraph engine =>
    have habsent : engine.session = none := by
      simpa [isLoaded, KernelGraph.Engine.isLoaded] using hunloaded
    simp [execute, KernelGraph.Engine.execute, habsent, kind]
  | layerStack engine =>
    have habsent : engine.loaded = none := by
      simpa [isLoaded, LayerStack.Engine.isLoaded] using hunloaded
    simp [execute, LayerStack.Engine.execute, habsent, kind]
  | residual engine =>
    have habsent : engine.loaded = none := by
      simpa [isLoaded, Residual.Engine.isLoaded] using hunloaded
    simp [execute, Residual.Engine.execute, habsent, kind]

omit [Scalar α] in
theorem isLoaded_release (engine : Engine α) : engine.release.isLoaded = false := by
  cases engine <;> rfl

omit [Scalar α] in
theorem release_release (engine : Engine α) : engine.release.release = engine.release := by
  cases engine <;> rfl

/-! ### Which calls leave an engine loaded -/

/-- There is a last successful setup among the calls, and no release comes after it. -/
def LastSetupStands (calls : List (HookCall × Except Stop Unit)) : Prop :=
  ∃ earlier findings later, calls = earlier ++ (.setup findings, .ok ()) :: later ∧
    ∀ entry ∈ later, entry.1 ≠ .release ∧ ∀ others, entry ≠ (.setup others, .ok ())

theorem not_lastSetupStands_nil : ¬ LastSetupStands [] := by
  rintro ⟨earlier, findings, later, hsame, -⟩
  exact List.append_ne_nil_of_right_ne_nil _ (List.cons_ne_nil _ _) hsame.symm

theorem lastSetupStands_snoc_setup (calls : List (HookCall × Except Stop Unit))
    (findings : Findings) : LastSetupStands (calls ++ [(.setup findings, .ok ())]) :=
  ⟨calls, findings, [], rfl, by simp⟩

/-- The end of the calls is either their last successful setup itself or one that it outlasts. -/
theorem lastSetupStands_snoc (calls : List (HookCall × Except Stop Unit))
    (entry : HookCall × Except Stop Unit) (hother : ∀ findings, entry ≠ (.setup findings, .ok ())) :
    LastSetupStands (calls ++ [entry]) ↔ LastSetupStands calls ∧ entry.1 ≠ .release := by
  constructor
  · rintro ⟨earlier, findings, later, hsame, hstands⟩
    rcases List.eq_nil_or_concat later with rfl | ⟨front, last, rfl⟩
    · have hends := List.append_inj_right' hsame rfl
      exact absurd (List.singleton_inj.mp hends) (hother findings)
    · rw [List.concat_eq_append, ← List.cons_append, ← List.append_assoc] at hsame
      obtain ⟨rfl, hends⟩ := List.append_inj' hsame rfl
      obtain rfl := List.singleton_inj.mp hends
      refine ⟨⟨earlier, findings, front, rfl, fun item hmem => hstands item ?_⟩, ?_⟩
      · simp [hmem]
      · exact (hstands entry (by simp)).1
  · rintro ⟨⟨earlier, findings, later, rfl, hstands⟩, hkept⟩
    refine ⟨earlier, findings, later ++ [entry], by simp, fun item hmem => ?_⟩
    rcases List.mem_append.mp hmem with hmem | hmem
    · exact hstands item hmem
    · obtain rfl := List.mem_singleton.mp hmem
      exact ⟨hkept, hother⟩

theorem isLoaded_after (engine : Engine α) (hunloaded : engine.isLoaded = false)
    (calls : List HookCall) :
    (engine.after calls).isLoaded = true ↔ LastSetupStands (engine.transcript calls) := by
  induction calls using List.reverseRecOn with
  | nil => exact iff_of_false (by simp [after, hunloaded]) not_lastSetupStands_nil
  | append_singleton calls last ih =>
    rw [after_snoc, transcript_snoc]
    generalize engine.after calls = current at ih ⊢
    cases last with
    | setup findings =>
      rcases current.call_setup_cases findings with ⟨next, hloaded, haccepted⟩ | ⟨stop, -, hrefused⟩
      · rw [haccepted]
        exact iff_of_true hloaded (lastSetupStands_snoc_setup _ findings)
      · rw [hrefused, ih, lastSetupStands_snoc _ _ (by simp)]
        simp
    | execute =>
      have hkept : (current.call .execute).2.isLoaded = current.isLoaded := isLoaded_execute current
      rw [hkept, ih, lastSetupStands_snoc _ _ (by simp)]
      simp
    | release =>
      rw [lastSetupStands_snoc _ _ (by simp)]
      exact iff_of_false (by simp [call, isLoaded_release]) (by simp)

/-! ### Memory between calls -/

/-- Nothing is live in the memory that the engine accounts for. -/
def Quiet : Engine α → Prop
  | residual engine => engine.tracker.live = 0
  | _ => True

theorem Quiet.call {engine : Engine α} (hquiet : engine.Quiet) (call : HookCall) :
    (engine.call call).2.Quiet := by
  cases engine with
  | kernelGraph engine => cases call <;> trivial
  | layerStack engine => cases call <;> trivial
  | residual engine =>
    cases call with
    | setup findings =>
      change (engine.setup findings.breakdown).2.tracker.live = 0
      unfold Residual.Engine.setup
      split <;> exact hquiet
    | execute => exact engine.execute_live.trans hquiet
    | release => exact hquiet

theorem Quiet.after {engine : Engine α} (hquiet : engine.Quiet) (calls : List HookCall) :
    (engine.after calls).Quiet := by
  induction calls generalizing engine with
  | nil => exact hquiet
  | cons call rest ih => exact ih (hquiet.call call)

end Engine

/-- Engines of every kind, whatever options they are created with and whatever is called on them,
be it refused or broken off. An engine is loaded exactly if the last setup that succeeded is not
followed by a release. A setup that does not succeed changes nothing, and if it fails, it does so with a
failure of a setup; an execution without a model is refused and changes nothing either; a release
succeeds, also when it is repeated; and no execution leaves bytes live. -/
theorem EngineOptions.hooks_lifecycle [Scalar α] (options : EngineOptions)
    (calls : List HookCall) :
    let fresh : Engine α := options.create
    let engine := fresh.after calls
    (engine.isLoaded = true ↔ Engine.LastSetupStands (fresh.transcript calls)) ∧
      (∀ findings stop next, engine.call (.setup findings) = (.error stop, next) →
        (∀ failure, stop = .failed failure → failure.isSetup = true) ∧ next = engine) ∧
      (engine.isLoaded = false → engine.call .execute =
        (.error (.failed (.execution engine.kind "engine is not loaded")), engine)) ∧
      (engine.call .release = (.ok (), engine.release) ∧
        engine.release.call .release = (.ok (), engine.release)) ∧
      ∀ residual, (engine.call .execute).2 = .residual residual → residual.tracker.live = 0 := by
  intro fresh engine
  have hunloaded : fresh.isLoaded = false := by cases options <;> rfl
  have hquiet : fresh.Quiet := by cases options <;> trivial
  refine ⟨fresh.isLoaded_after hunloaded calls, fun findings stop next hcalled => ?_,
    engine.execute_unloaded, ⟨rfl, ?_⟩, fun residual hexecuted => ?_⟩
  · rcases engine.call_setup_cases findings with ⟨_, -, haccepted⟩ | ⟨_, hofSetup, hrefused⟩
    · cases haccepted.symm.trans hcalled
    · cases hrefused.symm.trans hcalled
      exact ⟨hofSetup, rfl⟩
  · exact congrArg (Prod.mk _) engine.release_release
  · have hsettled := (hquiet.after calls).call .execute
    rw [hexecuted] at hsettled
    exact hsettled

end TensorBench
