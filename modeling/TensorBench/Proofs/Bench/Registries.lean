import TensorBench.Config.Basic
import TensorBench.Proofs.Bench.Lifecycle
import TensorBench.Proofs.Sequencing
import Mathlib.Data.List.Induction
import Mathlib.Data.List.Nodup

/-!
Registries under requests to benchmark their variants. A request replaces the state of the variant
that it names by that of a run that is over, or it changes nothing. So after any requests that
complete, the state of a variant is that of the last run it had, whatever its engine replied then or
earlier. A request completes unless it asks for more iterations than a buffer holds timings for.
-/
namespace TensorBench

/-- The state of a run that was asked for so many iterations and is over. -/
inductive RunState.Over (requested : Nat) (state : RunState) : Prop where
  | completed (summary : Summary) (hstatus : state.status = .completed)
      (hsummarised : state.summary = some summary) (hclean : state.error = none)
      (hiterations : state.iterations = requested) (htimed : state.timings.length = requested)
      (hsampled : summary.samples.length + 1 = requested)
  | failed (text : String) (hstatus : state.status = .failed) (hunsummarised : state.summary = none)
      (haborted : state.error = some text) (hiterations : state.iterations = requested)
      (htimed : state.timings.length ≤ requested)

theorem RunState.Over.not_running {requested : Nat} {state : RunState}
    (hended : state.Over requested) : state.status ≠ .running := by
  cases hended with
  | completed _ hstatus => rw [hstatus]; decide
  | failed _ hstatus => rw [hstatus]; decide

theorem Run.over_stateAfter {plan : Plan} {course : List Action} {times : List Binary64}
    {outcome released : Except Failure Unit} {result : Except Failure Summary}
    (henough : minIterations ≤ plan.iterations) (hphases : Course plan course times.length outcome)
    (hdue : Due plan times outcome released result) :
    (stateAfter plan times result).Over plan.iterations := by
  match result with
  | .error failure => exact .failed failure.message rfl rfl rfl rfl hphases.count_le
  | .ok summary =>
    match outcome, released, hdue with
    | .ok (), .ok (), ⟨_, rfl, _, _, hcount⟩ =>
      have henough : 2 ≤ plan.iterations := henough
      exact .completed summary rfl rfl rfl rfl (hphases.count_eq rfl) (by omega)

namespace Variant

variable {World ε : Type}

/-- What a run of so many iterations makes of a variant, apart from its engine. -/
structure Ran (requested : Nat) (before after : Variant ε) : Prop where
  name_eq : after.name = before.name
  description_eq : after.description = before.description
  ended : after.state.Over requested

variable (ops : EngineOps (StateM World) ε) (stage : Stage (StateM World)) (variant : Variant ε)
  (iterations cooldown : Nat) (world : World)

/-- A run of enough iterations that has a result is over. -/
theorem runIn_ran (henough : Run.minIterations ≤ iterations) {result : Except Failure Summary}
    {after : Variant ε}
    (hrun : (variant.runIn ops stage iterations cooldown world).1 = some (result, after)) :
    Ran iterations variant after := by
  obtain ⟨_, htakes, hkept, -⟩ := follow_takes ops stage (fun _ => [])
    (Run.script ⟨variant.name, ops.kind variant.engine, iterations, cooldown⟩) variant world
  have hrun : (variant.followIn ops stage (Run.script
      ⟨variant.name, ops.kind variant.engine, iterations, cooldown⟩) world).1 =
        some (result, after) := hrun
  rw [hrun] at htakes hkept
  by_cases hsize : iterations * RunState.timingSize ≤ Words.maxBuffer
  · obtain ⟨_, _, _, _, _, hcourse, hdue, -, hending⟩ := Run.takes_script henough hsize htakes
    obtain ⟨hstate, rfl⟩ := Prod.mk.inj (Option.some.inj hending)
    obtain ⟨hname, hdescription⟩ := hkept _ rfl
    refine ⟨hname, hdescription, ?_⟩
    rw [hstate]
    exact Run.over_stateAfter henough hcourse hdue
  · cases (Run.takes_script_oversized (Nat.not_le.mp hsize) htakes).2

/-- A run has a result if a buffer holds its timings. -/
theorem exists_runIn (hsize : iterations * RunState.timingSize ≤ Words.maxBuffer) :
    ∃ ended, (variant.runIn ops stage iterations cooldown world).1 = some ended := by
  by_cases hfew : iterations < Run.minIterations
  · exact ⟨_, congrArg Prod.fst (variant.runIn_refused ops stage iterations cooldown world hfew)⟩
  · obtain ⟨_, htakes, -⟩ := follow_takes ops stage (fun _ => [])
      (Run.script ⟨variant.name, ops.kind variant.engine, iterations, cooldown⟩) variant world
    obtain ⟨_, _, _, _, _, -, -, -, hending⟩ :=
      Run.takes_script (Nat.not_lt.mp hfew) hsize htakes
    obtain ⟨ended, hrun, -⟩ := Option.map_eq_some_iff.mp hending
    exact ⟨ended, hrun⟩

end Variant

/-! ### One request -/

/-- A request to benchmark a variant, for the configured number of iterations or another one. -/
structure Request where
  name : String
  iterations : Option Nat

namespace Request

def count (config : RunnerConfig) (request : Request) : Nat :=
  request.iterations.getD config.iterations

/-- The request names the variant and asks for enough iterations. -/
def Runs (config : RunnerConfig) (name : String) (request : Request) : Prop :=
  request.name = name ∧ 2 ≤ request.count config

instance (config : RunnerConfig) (name : String) : DecidablePred (Runs config name) :=
  fun _ => inferInstanceAs (Decidable (_ ∧ _))

variable {ε : Type}

/-- What becomes of a variant by a request. -/
inductive Changes (config : RunnerConfig) (request : Request) (before : Variant ε) :
    Variant ε → Prop where
  | ran {after : Variant ε} (hruns : request.Runs config before.name)
      (hran : before.Ran (request.count config) after) : Changes config request before after
  | spared (hidle : ¬ request.Runs config before.name) : Changes config request before before

variable {config : RunnerConfig} {request : Request} {before after : Variant ε}

theorem Changes.name_eq (hchanges : request.Changes config before after) :
    after.name = before.name := by
  cases hchanges with
  | ran _ hran => exact hran.name_eq
  | spared _ => rfl

end Request

namespace Registry

variable {World ε : Type}

/-- Replacing the only variant of a name leaves the others. -/
theorem replaceIn_others {variants : List (Variant ε)} {old : Variant ε} (new : Variant ε)
    (hunique : (variants.map (·.name)).Nodup)
    (hfound : variants.find? (·.name == new.name) = some old) :
    List.Forall₂ (fun before after =>
      if before.name = new.name then before = old ∧ after = new else after = before)
      variants (replaceIn new variants) := by
  induction variants with
  | nil => exact .nil
  | cons head rest ih =>
    obtain ⟨hfresh, hunique⟩ := List.nodup_cons.mp hunique
    by_cases hnamed : head.name = new.name
    · rw [List.find?_cons_of_pos (by simpa using hnamed)] at hfound
      rw [replaceIn, if_pos hnamed]
      refine .cons ?_ (List.forall₂_same.mpr fun other hmem => ?_)
      · rw [if_pos hnamed]
        exact ⟨Option.some.inj hfound, rfl⟩
      · rw [if_neg]
        intro hsame
        exact hfresh (List.mem_map.mpr ⟨other, hmem, hsame.trans hnamed.symm⟩)
    · rw [List.find?_cons_of_neg (by simpa using hnamed)] at hfound
      rw [replaceIn, if_neg hnamed]
      exact .cons (by rw [if_neg hnamed]) (ih hunique hfound)

/-- Other variants are found as before. -/
theorem get_replace_of_ne {registry : Registry ε} {new : Variant ε} {name : String}
    (hdifferent : name ≠ new.name) : (registry.replace new).get name = registry.get name := by
  have hfound : (replaceIn new registry.variants).find? (·.name == name) =
      registry.variants.find? (·.name == name) := by
    induction registry.variants with
    | nil => rfl
    | cons head rest ih =>
      rw [replaceIn]
      by_cases hsame : head.name = new.name
      · rw [if_pos hsame, List.find?_cons_of_neg (by simpa using hdifferent.symm),
          List.find?_cons_of_neg (by simpa [hsame] using hdifferent.symm)]
      · rw [if_neg hsame, List.find?_cons, List.find?_cons, ih]
  simp only [get, replace, hfound]

theorem get_of_mem {registry : Registry ε} (hdistinct : registry.names.Nodup) {variant : Variant ε}
    (hmem : variant ∈ registry.variants) : registry.get variant.name = .ok variant := by
  obtain ⟨variants⟩ := registry
  have hfound : variants.find? (·.name == variant.name) = some variant := by
    simp only [names] at hdistinct hmem
    induction variants with
    | nil => cases hmem
    | cons head rest ih =>
      obtain ⟨hfresh, hdistinct⟩ := List.nodup_cons.mp hdistinct
      rcases List.mem_cons.mp hmem with hsame | hlater
      · rw [hsame]
        exact List.find?_cons_of_pos (beq_self_eq_true _)
      · have hdifferent : head.name ≠ variant.name := by
          intro hsame
          exact hfresh (List.mem_map.mpr ⟨variant, hlater, hsame.symm⟩)
        rw [List.find?_cons_of_neg (by simpa using hdifferent)]
        exact ih hdistinct hlater
  simp only [get, hfound]

theorem find?_of_get {registry : Registry ε} {name : String} {variant : Variant ε}
    (hget : registry.get name = .ok variant) :
    registry.variants.find? (·.name == name) = some variant := by
  unfold get at hget
  split at hget
  · rename_i hfound
    cases hget
    exact hfound
  · cases hget

theorem name_of_get {registry : Registry ε} {name : String} {variant : Variant ε}
    (hget : registry.get name = .ok variant) : variant.name = name := by
  simpa using List.find?_some (find?_of_get hget)

theorem replaceIn_of_find? {variants : List (Variant ε)} {variant : Variant ε}
    (hfound : variants.find? (·.name == variant.name) = some variant) :
    replaceIn variant variants = variants := by
  induction variants with
  | nil => rfl
  | cons head rest ih =>
    by_cases hname : head.name = variant.name
    · rw [List.find?_cons_of_pos (by simpa using hname)] at hfound
      rw [replaceIn, if_pos hname, Option.some.inj hfound]
    · rw [List.find?_cons_of_neg (by simpa using hname)] at hfound
      rw [replaceIn, if_neg hname, ih hfound]

/-- A variant that is borrowed from the registry is in its place there. -/
theorem replace_of_get {registry : Registry ε} {name : String} {variant : Variant ε}
    (hget : registry.get name = .ok variant) : registry.replace variant = registry := by
  have hfound := find?_of_get hget
  rw [← name_of_get hget] at hfound
  exact congrArg mk (replaceIn_of_find? hfound)

variable (ops : EngineOps (StateM World) ε) (stage : Stage (StateM World)) (config : RunnerConfig)

/-- The registry after a request. -/
def serve (registry : Registry ε) (request : Request) : OptionT (StateM World) (Registry ε) := do
  let (_, registry) ←
    registry.run ops.lift stage.lift config.cooldown request.name (request.count config)
  return registry

theorem serve_of_unknown {registry : Registry ε} {request : Request} {failure : Failure}
    (hunknown : registry.get request.name = .error failure) (world : World) :
    (registry.serve ops stage config request).run world = (some registry, world) := by
  simp only [serve, run, hunknown]
  rfl

theorem serve_of_known {registry : Registry ε} {request : Request} {variant : Variant ε}
    (hknown : registry.get request.name = .ok variant) (world : World) :
    (registry.serve ops stage config request).run world =
      let run := variant.runIn ops stage (request.count config) config.cooldown world
      (run.1.map fun ended => registry.replace ended.2, run.2) := by
  have hserve : registry.serve ops stage config request =
      (fun ended => registry.replace ended.2) <$>
        variant.run ops.lift stage.lift (request.count config) config.cooldown := by
    simp only [serve, run, hknown, bind_assoc, pure_bind, map_eq_pure_bind]
  rw [hserve, OptionT.run_map]
  rfl

theorem serve_changes {registry next : Registry ε} {request : Request} {world : World}
    (hunique : registry.names.Nodup)
    (hserved : ((registry.serve ops stage config request).run world).1 = some next) :
    List.Forall₂ (request.Changes config) registry.variants next.variants := by
  cases hget : registry.get request.name with
  | error failure =>
    rw [serve_of_unknown ops stage config hget] at hserved
    cases hserved
    refine List.forall₂_same.mpr fun variant hmem => .spared fun hruns => ?_
    rw [hruns.1, get_of_mem hunique hmem] at hget
    cases hget
  | ok variant =>
    have hname : variant.name = request.name := name_of_get hget
    rw [serve_of_known ops stage config hget] at hserved
    obtain ⟨⟨result, after⟩, hrun, rfl⟩ := Option.map_eq_some_iff.mp hserved
    have hchanges : request.Changes config variant after := by
      by_cases henough : 2 ≤ request.count config
      · exact .ran ⟨hname.symm, henough⟩
          (variant.runIn_ran ops stage (request.count config) config.cooldown world henough hrun)
      · rw [variant.runIn_refused ops stage _ config.cooldown world (Nat.not_le.mp henough)] at hrun
        cases hrun
        exact .spared fun hruns => henough hruns.2
    have hkept : after.name = request.name := hchanges.name_eq.trans hname
    refine (replaceIn_others after hunique (hkept ▸ find?_of_get hget)).imp
      fun before next hothers => ?_
    split at hothers
    · obtain ⟨rfl, rfl⟩ := hothers
      exact hchanges
    · rename_i hother
      subst hothers
      exact .spared fun hruns => hother (hruns.1.symm.trans hkept.symm)

/-- A request completes if a buffer holds the timings of its iterations. -/
theorem exists_serve (registry : Registry ε) {request : Request}
    (hsize : request.count config * RunState.timingSize ≤ Words.maxBuffer) (world : World) :
    ∃ next, ((registry.serve ops stage config request).run world).1 = some next := by
  cases hget : registry.get request.name with
  | error failure => exact ⟨registry, by rw [serve_of_unknown ops stage config hget]⟩
  | ok variant =>
    obtain ⟨ended, hrun⟩ :=
      variant.exists_runIn ops stage (request.count config) config.cooldown world hsize
    rw [serve_of_known ops stage config hget]
    exact ⟨_, congrArg (Option.map _) hrun⟩

/-- The registry after several requests, one after the other. -/
def serveAll (registry : Registry ε) (requests : List Request) :
    OptionT (StateM World) (Registry ε) :=
  requests.foldlM (serve ops stage config) registry

/-- The last of the requests that run the variant of a name. -/
def lastRun (name : String) (requests : List Request) : Option Request :=
  requests.reverse.find? fun request => request.Runs config name

/-- What has become of a variant by requests: the last one that ran it counts. -/
def Standing (requests : List Request) (before after : Variant ε) : Prop :=
  match lastRun config before.name requests with
  | none => after = before
  | some request => before.Ran (request.count config) after

variable {config}

theorem lastRun_snoc (name : String) (requests : List Request) (request : Request) :
    lastRun config name (requests ++ [request]) =
      if request.Runs config name then some request else lastRun config name requests := by
  rw [lastRun, List.reverse_append, List.reverse_singleton, List.singleton_append]
  split
  · rename_i hruns
    exact List.find?_cons_of_pos (decide_eq_true hruns)
  · rename_i hidle
    exact List.find?_cons_of_neg (by simpa using hidle)

theorem Standing.kept {requests : List Request} {before after : Variant ε}
    (hstanding : Standing config requests before after) :
    after.name = before.name ∧ after.description = before.description := by
  unfold Standing at hstanding
  split at hstanding
  · exact ⟨congrArg _ hstanding, congrArg _ hstanding⟩
  · exact ⟨hstanding.name_eq, hstanding.description_eq⟩

theorem Standing.snoc {requests : List Request} {request : Request}
    {before between after : Variant ε} (hstanding : Standing config requests before between)
    (hchanges : request.Changes config between after) :
    Standing config (requests ++ [request]) before after := by
  obtain ⟨hnamed, hdescribed⟩ := hstanding.kept
  unfold Standing
  rw [lastRun_snoc, ← hnamed]
  cases hchanges with
  | ran hruns hran =>
    rw [if_pos hruns]
    exact ⟨hran.name_eq.trans hnamed, hran.description_eq.trans hdescribed, hran.ended⟩
  | spared hidle =>
    rw [if_neg hidle, hnamed]
    exact hstanding

theorem Standing.not_running {requests : List Request} {before after : Variant ε}
    (hstanding : Standing config requests before after) (hrested : before.state.status ≠ .running) :
    after.state.status ≠ .running := by
  unfold Standing at hstanding
  split at hstanding
  · rwa [hstanding]
  · exact hstanding.ended.not_running

/-- Variants that keep their names in their places have them in the same order. -/
theorem names_eq {registry next : Registry ε}
    (hkept : List.Forall₂ (fun before after => after.name = before.name) registry.variants
      next.variants) : next.names = registry.names := by
  have hsame : List.Forall₂ (· = ·) next.names registry.names :=
    List.forall₂_map_left_iff.mpr (List.forall₂_map_right_iff.mpr hkept.flip)
  rwa [List.forall₂_eq_eq_eq] at hsame

variable (config)

/-- One more request is served last. -/
theorem serveAll_snoc (registry : Registry ε) (requests : List Request) (request : Request)
    (world : World) :
    (registry.serveAll ops stage config (requests ++ [request])).run world =
      match (registry.serveAll ops stage config requests).run world with
      | (none, world) => (none, world)
      | (some between, world) => (between.serve ops stage config request).run world := by
  have happend : registry.serveAll ops stage config (requests ++ [request]) =
      registry.serveAll ops stage config requests >>= fun between =>
        between.serve ops stage config request := by
    simp only [serveAll, List.foldlM_append, List.foldlM_cons, List.foldlM_nil, bind_pure]
  rw [happend]
  rcases hserved : (registry.serveAll ops stage config requests).run world
    with ⟨_ | between, later⟩
  · exact Sequencing.run_bind_none hserved
  · exact Sequencing.run_bind_some hserved

theorem serveAll_standing {registry after : Registry ε} {requests : List Request} {world : World}
    (hunique : registry.names.Nodup)
    (hserved : ((registry.serveAll ops stage config requests).run world).1 = some after) :
    List.Forall₂ (Standing config requests) registry.variants after.variants := by
  -- from the last request backwards, since the last run of a variant decides how it stands
  induction requests using List.reverseRecOn generalizing after with
  | nil =>
    cases hserved
    exact List.forall₂_same.mpr fun _ _ => rfl
  | append_singleton requests request ih =>
    rw [serveAll_snoc] at hserved
    rcases hbetween : (registry.serveAll ops stage config requests).run world
      with ⟨_ | between, later⟩
    · rw [hbetween] at hserved
      cases hserved
    · rw [hbetween] at hserved
      have hstanding := ih (congrArg Prod.fst hbetween)
      have hstill : between.names.Nodup := by
        rw [names_eq (hstanding.imp fun _ _ hstands => hstands.kept.1)]
        exact hunique
      exact Sequencing.forall₂_trans (fun _ _ _ hstands hchange => hstands.snoc hchange) hstanding
        (serve_changes ops stage config hstill hserved)

/-- Requests complete if buffers hold the timings of all their iterations. -/
theorem exists_serveAll (registry : Registry ε) (requests : List Request) (world : World)
    (hsizes : ∀ request ∈ requests,
      request.count config * RunState.timingSize ≤ Words.maxBuffer) :
    ∃ after, ((registry.serveAll ops stage config requests).run world).1 = some after := by
  induction requests using List.reverseRecOn with
  | nil => exact ⟨registry, rfl⟩
  | append_singleton requests request ih =>
    obtain ⟨hearlier, hlast⟩ := List.forall_mem_append.mp hsizes
    obtain ⟨between, hbetween⟩ := ih hearlier
    obtain ⟨next, hnext⟩ := exists_serve ops stage config between
      (hlast request List.mem_cons_self)
      ((registry.serveAll ops stage config requests).run world).2
    refine ⟨next, ?_⟩
    rcases hserved : (registry.serveAll ops stage config requests).run world with ⟨result, later⟩
    rw [hserved] at hbetween hnext
    cases hbetween
    rw [serveAll_snoc, hserved]
    exact hnext

/-- A request for no variant, or for too few iterations, leaves everything as it is. -/
theorem serve_eq_of_idle {registry : Registry ε} {request : Request}
    (hidle : request.name ∉ registry.names ∨ request.count config < 2) (world : World) :
    ((registry.serve ops stage config request).run world).1 = some registry := by
  cases hget : registry.get request.name with
  | error failure => rw [serve_of_unknown ops stage config hget]
  | ok variant =>
    have hmem : request.name ∈ registry.names := List.mem_map.mpr
      ⟨variant, List.mem_of_find?_eq_some (find?_of_get hget), name_of_get hget⟩
    have hfew : request.count config < 2 := hidle.resolve_left (· hmem)
    rw [serve_of_known ops stage config hget, variant.runIn_refused ops stage _ _ _ hfew]
    exact congrArg some (replace_of_get hget)

/-- What any requests, one after the other, make of a registry with names that differ and variants
that were never run, and what every further request does to it. The requests complete unless one of
them asks for more iterations than a buffer holds timings for. -/
theorem serveAll_settles (registry : Registry ε) (requests : List Request) (world : World)
    (hunique : registry.names.Nodup)
    (hidle : ∀ variant ∈ registry.variants, variant.state.status = .idle) :
    let served := (registry.serveAll ops stage config requests).run world
    ((∀ request ∈ requests, request.count config * RunState.timingSize ≤ Words.maxBuffer) →
      ∃ after, served.1 = some after) ∧
    ∀ after, served.1 = some after →
      after.names = registry.names ∧
      List.Forall₂ (Standing config requests) registry.variants after.variants ∧
      (∀ variant ∈ after.variants, variant.state.status ≠ .running) ∧
      ∀ request world, let outcome := (after.serve ops stage config request).run world
        (request.count config * RunState.timingSize ≤ Words.maxBuffer →
          ∃ next, outcome.1 = some next) ∧
        (∀ next, outcome.1 = some next →
          List.Forall₂ (request.Changes config) after.variants next.variants ∧
          next.names = registry.names) ∧
        (request.name ∉ registry.names ∨ request.count config < 2 → outcome.1 = some after) := by
  intro served
  refine ⟨exists_serveAll ops stage config registry requests world, fun after hserved => ?_⟩
  have hstanding := serveAll_standing ops stage config hunique hserved
  have hnames : after.names = registry.names :=
    names_eq (hstanding.imp fun _ _ hstands => hstands.kept.1)
  have hstill : after.names.Nodup := hnames ▸ hunique
  refine ⟨hnames, hstanding, fun variant hmem => ?_, fun request world => ⟨fun hsize => ?_,
    fun next hnext => ?_, fun hspared => ?_⟩⟩
  · obtain ⟨before, hpresent, hstands⟩ := Sequencing.exists_item_of_mem_results hstanding hmem
    exact hstands.not_running (by rw [hidle before hpresent]; decide)
  · exact exists_serve ops stage config after hsize world
  · have hchanges := serve_changes ops stage config hstill hnext
    exact ⟨hchanges, (names_eq (hchanges.imp fun _ _ hchange => hchange.name_eq)).trans hnames⟩
  · exact serve_eq_of_idle ops stage config (hnames ▸ hspared) world

/-- Two puppets, the second of which does not survive its second execution. -/
def troupe : Registry Rehearsal.Puppet :=
  ⟨[.create "sturdy" none ⟨none, none, none, false, 0⟩,
    .create "frail" none
      ⟨none, none, some (1, .execution Rehearsal.Puppet.kind "strings torn"), false, 0⟩]⟩

theorem serveAll_settles_troupe :
    let requests : List Request :=
      [⟨"sturdy", none⟩, ⟨"frail", some 2⟩, ⟨"frail", some 1⟩, ⟨"absent", none⟩]
    troupe.names.Nodup ∧ (∀ variant ∈ troupe.variants, variant.state.status = .idle) ∧
      ∃ after, ((troupe.serveAll Rehearsal.Puppet.ops Rehearsal.stage ⟨3, 0⟩ requests).run []).1 =
          some after ∧
        after.names = ["sturdy", "frail"] ∧
        (∀ variant ∈ after.variants, variant.state.status ≠ .running) ∧
        after.variants.map (·.state.status) = [.completed, .failed] := by
  intro requests
  have hunique : troupe.names.Nodup := by decide
  have hidle : ∀ variant ∈ troupe.variants, variant.state.status = .idle := by
    simp [troupe, Variant.create, RunState.initial]
  obtain ⟨hcomplete, hsettled⟩ := serveAll_settles Rehearsal.Puppet.ops Rehearsal.stage
    ⟨3, 0⟩ troupe requests [] hunique hidle
  obtain ⟨after, hserved⟩ := hcomplete (by decide)
  obtain ⟨hnames, -, hstill, -⟩ := hsettled after hserved
  have hstatus : (((troupe.serveAll Rehearsal.Puppet.ops Rehearsal.stage ⟨3, 0⟩ requests).run
      []).1.map fun after => after.variants.map (·.state.status)) = some [.completed, .failed] := by
    decide +kernel
  rw [hserved] at hstatus
  exact ⟨hunique, hidle, after, hserved, hnames, hstill, Option.some.inj hstatus⟩

end Registry

end TensorBench
