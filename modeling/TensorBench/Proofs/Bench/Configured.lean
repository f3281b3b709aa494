import Mathlib.Data.List.Induction
import TensorBench.Bench.Factory
import TensorBench.Proofs.Sequencing

/-!
Registries built from configurations. The enabled variants are taken in their order; each one becomes
an entry unless its settings cannot be read or its name is taken, and the first such variant is the
one that the failure is about.
-/
namespace TensorBench

open Sequencing

/-! ### The options of one variant -/

namespace EngineOptions

/-- The settings of a variant, with the default directory, read as options of the engine it names. -/
inductive StandsFor (directory : String) (variant : VariantConfig) : EngineOptions → Prop where
  | kernelGraph {options : KernelGraph.Options} (hnamed : variant.engine = Step.engineKind)
      (hdecoded :
        KernelGraph.Options.ofJson (.ofNames (settingsOf variant directory)) = .ok options) :
      StandsFor directory variant (.kernelGraph options)
  | layerStack {options : LayerStack.Options} (hnamed : variant.engine = LayerStack.engineKind)
      (hdecoded :
        LayerStack.Options.ofJson (.ofNames (settingsOf variant directory)) = .ok options) :
      StandsFor directory variant (.layerStack options)
  | residual {options : Residual.Options} (hnamed : variant.engine = GraphBuilder.engineKind)
      (hdecoded : Residual.Options.ofJson (.ofNames (settingsOf variant directory)) = .ok options) :
      StandsFor directory variant (.residual options)

def invalidSettings (variant : VariantConfig) (fault : DecodeFault) : Failure :=
  .context s!"Invalid settings for variant '{variant.name}'" (.foreign fault.message)

/-- Why a variant stands for no options: nobody knows its engine, or its settings cannot be read as
options of that engine. -/
inductive Unreadable (directory : String) (variant : VariantConfig) : Failure → Prop where
  | unknown (hunlisted : variant.engine ∉ Engine.kinds) :
      Unreadable directory variant (unknownEngine variant)
  | kernelGraph {fault : DecodeFault} (hnamed : variant.engine = Step.engineKind)
      (hdecoded :
        KernelGraph.Options.ofJson (.ofNames (settingsOf variant directory)) = .error fault) :
      Unreadable directory variant (invalidSettings variant fault)
  | layerStack {fault : DecodeFault} (hnamed : variant.engine = LayerStack.engineKind)
      (hdecoded :
        LayerStack.Options.ofJson (.ofNames (settingsOf variant directory)) = .error fault) :
      Unreadable directory variant (invalidSettings variant fault)
  | residual {fault : DecodeFault} (hnamed : variant.engine = GraphBuilder.engineKind)
      (hdecoded :
        Residual.Options.ofJson (.ofNames (settingsOf variant directory)) = .error fault) :
      Unreadable directory variant (invalidSettings variant fault)

/-- The settings of a variant stand for options of its engine. -/
def Resolves (directory : String) (variant : VariantConfig) : Prop :=
  ∃ options, StandsFor directory variant options

section Reading

variable {β : Type} {variant : VariantConfig} {settings : NameTable Json} {decode : Decoder β}
  {wrap : β → EngineOptions}

theorem read_map_ok {options : β} (hdecoded : decode (.ofNames settings) = .ok options) :
    (read variant settings decode).map wrap = .ok (wrap options) := by
  simp only [read, hdecoded, Except.map]

theorem read_map_error {fault : DecodeFault}
    (hdecoded : decode (.ofNames settings) = .error fault) :
    (read variant settings decode).map wrap = .error (invalidSettings variant fault) := by
  simp only [read, hdecoded, Except.map, invalidSettings]

end Reading

variable {directory : String} {variant : VariantConfig}

theorem StandsFor.ofVariant_eq {options : EngineOptions}
    (hstands : StandsFor directory variant options) :
    ofVariant variant directory = .ok options := by
  cases hstands with
  | kernelGraph hnamed hdecoded => simp [ofVariant, hnamed, read_map_ok hdecoded]
  | layerStack hnamed hdecoded =>
    simp [ofVariant, hnamed, read_map_ok hdecoded, LayerStack.engineKind, Step.engineKind]
  | residual hnamed hdecoded =>
    simp [ofVariant, hnamed, read_map_ok hdecoded, GraphBuilder.engineKind, LayerStack.engineKind,
      Step.engineKind]

theorem Unreadable.ofVariant_eq {failure : Failure}
    (hrefused : Unreadable directory variant failure) :
    ofVariant variant directory = .error failure := by
  cases hrefused with
  | unknown hunlisted =>
    simp only [Engine.kinds, List.mem_cons, List.not_mem_nil, or_false, not_or] at hunlisted
    simp [ofVariant, hunlisted]
  | kernelGraph hnamed hdecoded => simp [ofVariant, hnamed, read_map_error hdecoded]
  | layerStack hnamed hdecoded =>
    simp [ofVariant, hnamed, read_map_error hdecoded, LayerStack.engineKind, Step.engineKind]
  | residual hnamed hdecoded =>
    simp [ofVariant, hnamed, read_map_error hdecoded, GraphBuilder.engineKind,
      LayerStack.engineKind, Step.engineKind]

/-- A variant stands for options or there is a reason why not. -/
theorem resolves_or_unreadable (directory : String) (variant : VariantConfig) :
    Resolves directory variant ∨ ∃ failure, Unreadable directory variant failure := by
  by_cases hkernelGraph : variant.engine = Step.engineKind
  · cases hdecoded : KernelGraph.Options.ofJson (.ofNames (settingsOf variant directory)) with
    | ok options => exact .inl ⟨_, .kernelGraph hkernelGraph hdecoded⟩
    | error fault => exact .inr ⟨_, .kernelGraph hkernelGraph hdecoded⟩
  · by_cases hlayerStack : variant.engine = LayerStack.engineKind
    · cases hdecoded : LayerStack.Options.ofJson (.ofNames (settingsOf variant directory)) with
      | ok options => exact .inl ⟨_, .layerStack hlayerStack hdecoded⟩
      | error fault => exact .inr ⟨_, .layerStack hlayerStack hdecoded⟩
    · by_cases hresidual : variant.engine = GraphBuilder.engineKind
      · cases hdecoded : Residual.Options.ofJson (.ofNames (settingsOf variant directory)) with
        | ok options => exact .inl ⟨_, .residual hresidual hdecoded⟩
        | error fault => exact .inr ⟨_, .residual hresidual hdecoded⟩
      · exact .inr ⟨_, .unknown (by simp [Engine.kinds, hkernelGraph, hlayerStack, hresidual])⟩

theorem StandsFor.kind_eq {options : EngineOptions}
    (hstands : StandsFor directory variant options) : options.kind = variant.engine := by
  cases hstands with
  | kernelGraph hnamed | layerStack hnamed | residual hnamed => exact hnamed.symm

@[simp]
theorem kind_create {α : Type} (options : EngineOptions) :
    (options.create : Engine α).kind = options.kind := by
  cases options <;> rfl

@[simp]
theorem isLoaded_create {α : Type} (options : EngineOptions) :
    (options.create : Engine α).isLoaded = false := by
  cases options <;> rfl

end EngineOptions

/-! ### One variant after another -/

namespace Registry

open EngineOptions

variable {α : Type}

/-- The entry that a variant becomes: its name, its description, no run so far, and an engine that
was made with its options and waits to be set up. -/
structure BuiltFrom (directory : String) (variant : VariantConfig) (entry : Variant (Engine α)) :
    Prop where
  name_eq : entry.name = variant.name
  description_eq : entry.description = variant.description
  state_eq : entry.state = .initial
  configured : ∃ options, StandsFor directory variant options ∧ entry.engine = options.create
  kind_eq : entry.engine.kind = variant.engine
  unloaded : entry.engine.isLoaded = false

/-- All variants can become entries of one registry. -/
structure Registrable (directory : String) (configs : List VariantConfig) : Prop where
  resolve : ∀ variant ∈ configs, Resolves directory variant
  distinct : (configs.map (·.name)).Nodup

def nameTaken (variant : VariantConfig) : Failure :=
  .context s!"Cannot register variant '{variant.name}'" (.duplicateVariant variant.name)

/-- What is wrong with a variant, after the variants in front of it. -/
inductive Blame (directory : String) (front : List VariantConfig) (variant : VariantConfig) :
    Failure → Prop where
  | unreadable {failure : Failure} (hreason : Unreadable directory variant failure) :
      Blame directory front variant failure
  | repeated (hresolves : Resolves directory variant)
      (htaken : variant.name ∈ front.map (·.name)) :
      Blame directory front variant (nameTaken variant)

theorem registrable_concat {directory : String} {front : List VariantConfig}
    {variant : VariantConfig} :
    Registrable directory (front ++ [variant]) ↔
      Registrable directory front ∧ Resolves directory variant ∧
        variant.name ∉ front.map (·.name) := by
  constructor
  · rintro ⟨hresolve, hdistinct⟩
    obtain ⟨hfresh, hdistinct⟩ := (Sequencing.nodup_map_concat_iff _ _ _).mp hdistinct
    exact ⟨⟨fun other hmem => hresolve other (List.mem_append_left _ hmem), hdistinct⟩,
      hresolve variant (by simp), hfresh⟩
  · rintro ⟨⟨hresolve, hdistinct⟩, hresolves, hfresh⟩
    refine ⟨fun other hmem => ?_, ?_⟩
    · rcases List.mem_append.mp hmem with hearlier | hlast
      · exact hresolve other hearlier
      · rwa [List.mem_singleton.mp hlast]
    · exact (Sequencing.nodup_map_concat_iff _ _ _).mpr ⟨hfresh, hdistinct⟩

theorem contains_eq_decide (registry : Registry (Engine α)) (name : String) :
    registry.contains name = decide (name ∈ registry.names) := by
  rw [Bool.eq_iff_iff]
  simp [contains, names]

theorem names_eq_of_built {directory : String} {configs : List VariantConfig}
    {registry : Registry (Engine α)}
    (hbuilt : List.Forall₂ (BuiltFrom directory) configs registry.variants) :
    registry.names = configs.map (·.name) := by
  have hsame : List.Forall₂ (· = ·) (configs.map (·.name)) registry.names := by
    rw [names, List.forall₂_map_left_iff, List.forall₂_map_right_iff]
    exact hbuilt.imp fun _ _ hentry => hentry.name_eq.symm
  exact (List.forall₂_eq_eq_eq ▸ hsame).symm

section Step

variable {directory : String} {front : List VariantConfig} {variant : VariantConfig}
  {registry : Registry (Engine α)}

theorem add_of_fresh (hbuilt : List.Forall₂ (BuiltFrom directory) front registry.variants)
    (hresolves : Resolves directory variant) (hfresh : variant.name ∉ front.map (·.name)) :
    ∃ next, add directory registry variant = .ok next ∧
      List.Forall₂ (BuiltFrom directory) (front ++ [variant]) next.variants := by
  obtain ⟨options, hstands⟩ := hresolves
  refine ⟨⟨registry.variants ++ [.create variant.name variant.description options.create]⟩, ?_,
    List.rel_append hbuilt (.cons ?_ .nil)⟩
  · simp [add, hstands.ofVariant_eq, register, contains_eq_decide, names_eq_of_built hbuilt,
      Variant.create, hfresh]
  · exact ⟨rfl, rfl, rfl, ⟨options, hstands, rfl⟩, (kind_create options).trans hstands.kind_eq,
      isLoaded_create options⟩

theorem add_of_blame {failure : Failure}
    (hbuilt : List.Forall₂ (BuiltFrom directory) front registry.variants)
    (hfault : Blame directory front variant failure) :
    add directory registry variant = .error failure := by
  cases hfault with
  | unreadable hreason => simp only [add, hreason.ofVariant_eq]
  | repeated hresolves htaken =>
    obtain ⟨options, hstands⟩ := hresolves
    simp [add, hstands.ofVariant_eq, register, contains_eq_decide, names_eq_of_built hbuilt,
      Variant.create, htaken, nameTaken]

end Step

variable (directory : String)

/-- Variants that can all be registered make a registry with one entry for each. -/
theorem foldlM_add_of_registrable (configs : List VariantConfig)
    (hsound : Registrable directory configs) :
    ∃ registry : Registry (Engine α), configs.foldlM (add directory) empty = .ok registry ∧
      List.Forall₂ (BuiltFrom directory) configs registry.variants := by
  induction configs using List.reverseRecOn with
  | nil => exact ⟨empty, rfl, .nil⟩
  | append_singleton front variant ih =>
    obtain ⟨hsound, hresolves, hfresh⟩ := registrable_concat.mp hsound
    obtain ⟨registry, hfolded, hbuilt⟩ := ih hsound
    obtain ⟨next, hadded, hbuilt⟩ := add_of_fresh hbuilt hresolves hfresh
    refine ⟨next, ?_, hbuilt⟩
    rw [List.foldlM_append, hfolded]
    show [variant].foldlM (add directory) registry = .ok next
    rw [List.foldlM_cons, hadded]
    rfl

/-- Variants that cannot all be registered have a first one among them that is to blame. -/
theorem registrable_or_blame (configs : List VariantConfig) :
    Registrable directory configs ∨ ∃ front variant back failure,
      configs = front ++ variant :: back ∧ Registrable directory front ∧
        Blame directory front variant failure := by
  induction configs using List.reverseRecOn with
  | nil => exact .inl ⟨nofun, .nil⟩
  | append_singleton front variant ih =>
    rcases ih with hsound | ⟨first, faulty, back, failure, rfl, hsound, hfault⟩
    · rcases resolves_or_unreadable directory variant with hresolves | ⟨failure, hreason⟩
      · by_cases htaken : variant.name ∈ front.map (·.name)
        · exact .inr ⟨front, variant, [], _, rfl, hsound, .repeated hresolves htaken⟩
        · exact .inl (registrable_concat.mpr ⟨hsound, hresolves, htaken⟩)
      · exact .inr ⟨front, variant, [], failure, rfl, hsound, .unreadable hreason⟩
    · exact .inr ⟨first, faulty, back ++ [variant], failure, by simp, hsound, hfault⟩

theorem foldlM_add_of_blame {front back : List VariantConfig} {variant : VariantConfig}
    {failure : Failure} (hsound : Registrable directory front)
    (hfault : Blame directory front variant failure) :
    (front ++ variant :: back).foldlM (add directory) (empty : Registry (Engine α)) =
      .error failure := by
  obtain ⟨registry, hfolded, hbuilt⟩ := foldlM_add_of_registrable (α := α) directory front hsound
  rw [List.foldlM_append, hfolded]
  show (variant :: back).foldlM (add directory) registry = .error failure
  rw [List.foldlM_cons, add_of_blame hbuilt hfault]
  rfl

/-- The registry of a configuration holds its enabled variants, and their names differ. -/
theorem names_of_ofConfig {config : Config} {registry : Registry (Engine α)}
    (hbuilt : ofConfig config = .ok registry) :
    registry.names = config.enabledVariants.map (·.name) ∧ registry.names.Nodup := by
  rcases registrable_or_blame config.artifactsDir config.enabledVariants with
    hsound | ⟨front, variant, back, failure, hsplit, hsound, hblame⟩
  · obtain ⟨same, hfolded, hentries⟩ :=
      foldlM_add_of_registrable (α := α) config.artifactsDir _ hsound
    cases hbuilt.symm.trans hfolded
    have hnames := names_eq_of_built hentries
    exact ⟨hnames, hnames ▸ hsound.distinct⟩
  · rw [ofConfig, hsplit, foldlM_add_of_blame _ hsound hblame] at hbuilt
    cases hbuilt

/-- A registry is built exactly if the settings of all enabled variants can be read and their names
differ, and then it has one entry for each of them, in their order. Otherwise the failure is that of
the first enabled variant whose settings cannot be read or whose name is taken. Variants that are not
enabled have no part in either. -/
theorem ofConfig_outcome (config : Config) :
    ((∃ registry : Registry (Engine α), ofConfig config = .ok registry) ↔
      Registrable config.artifactsDir config.enabledVariants) ∧
    (∀ registry : Registry (Engine α), ofConfig config = .ok registry →
      List.Forall₂ (BuiltFrom config.artifactsDir) config.enabledVariants registry.variants) ∧
    (∀ failure, (ofConfig config : Except Failure (Registry (Engine α))) = .error failure ↔
      ∃ front variant back, config.enabledVariants = front ++ variant :: back ∧
        Registrable config.artifactsDir front ∧
        Blame config.artifactsDir front variant failure) ∧
    ∀ others : List VariantConfig,
      others.filter (·.enabled) = config.variants.filter (·.enabled) →
        (ofConfig { config with variants := others } : Except Failure (Registry (Engine α))) =
          ofConfig config := by
  have henabled (others : List VariantConfig)
      (hsame : others.filter (·.enabled) = config.variants.filter (·.enabled)) :
      (ofConfig { config with variants := others } : Except Failure (Registry (Engine α))) =
        ofConfig config := by
    rw [ofConfig, ofConfig, Config.enabledVariants, Config.enabledVariants, hsame]
  have hblamed {front variant back failure}
      (hsplit : config.enabledVariants = front ++ variant :: back)
      (hsound : Registrable config.artifactsDir front)
      (hblame : Blame config.artifactsDir front variant failure) :
      (ofConfig config : Except Failure (Registry (Engine α))) = .error failure := by
    rw [ofConfig, hsplit, foldlM_add_of_blame _ hsound hblame]
  rcases registrable_or_blame config.artifactsDir config.enabledVariants with
    hsound | ⟨front, variant, back, failure, hsplit, hsound, hblame⟩
  · obtain ⟨registry, hfolded, hentries⟩ :=
      foldlM_add_of_registrable (α := α) config.artifactsDir _ hsound
    have hbuilt : ofConfig config = .ok registry := hfolded
    refine ⟨iff_of_true ⟨registry, hbuilt⟩ hsound, fun other hsame => ?_,
      fun failure => iff_of_false ?_ ?_, henabled⟩
    · cases hbuilt.symm.trans hsame
      exact hentries
    · rw [hbuilt]
      nofun
    · rintro ⟨front, variant, back, hsplit, hsound, hblame⟩
      cases hbuilt.symm.trans (hblamed hsplit hsound hblame)
  · have hfailed := hblamed hsplit hsound hblame
    refine ⟨iff_of_false ?_ fun hsound => ?_, fun registry hbuilt => ?_,
      fun reason => ⟨fun hsame => ?_, ?_⟩, henabled⟩
    · rintro ⟨registry, hbuilt⟩
      cases hfailed.symm.trans hbuilt
    · obtain ⟨registry, hfolded, -⟩ :=
        foldlM_add_of_registrable (α := α) config.artifactsDir _ hsound
      cases hfailed.symm.trans hfolded
    · cases hfailed.symm.trans hbuilt
    · cases hfailed.symm.trans hsame
      exact ⟨front, variant, back, hsplit, hsound, hblame⟩
    · rintro ⟨front, variant, back, hsplit, hsound, hblame⟩
      exact hblamed hsplit hsound hblame

end Registry

end TensorBench
