import TensorBench.CommandLine.Machine
import TensorBench.Proofs.Bench.Configured
import TensorBench.Proofs.Bench.Suspensions

/-!
Benchmarks of several variants. Each variant that is asked for has one turn, in the order of the
registry, and a failure keeps none of the others from theirs. The command fails if any of them does,
and tells which. A turn that crashes is the last one, and nobody is told of the turns before it.
-/
namespace TensorBench

/-! ### Outcomes -/

/-- The summaries are those of the outcomes that have one and the names those of the others, both in
the order of the outcomes. -/
inductive Sweep.Outcomes.Reports : Sweep.Outcomes → List Summary → List String → Prop
  | nil : Reports [] [] []
  | ok (name : String) (summary : Summary) {rest : Sweep.Outcomes} {summaries : List Summary}
      {failed : List String} (hothers : Reports rest summaries failed) :
      Reports ((name, .ok summary) :: rest) (summary :: summaries) failed
  | error (name : String) (failure : Failure) {rest : Sweep.Outcomes} {summaries : List Summary}
      {failed : List String} (hothers : Reports rest summaries failed) :
      Reports ((name, .error failure) :: rest) summaries (name :: failed)

namespace Sweep.Outcomes

theorem reports (outcomes : Outcomes) : outcomes.Reports outcomes.summaries outcomes.failed := by
  induction outcomes with
  | nil => exact .nil
  | cons outcome rest ih =>
    obtain ⟨name, result⟩ := outcome
    cases result with
    | ok summary => exact .ok name summary ih
    | error failure => exact .error name failure ih

theorem Reports.failed_eq_nil_iff {outcomes : Outcomes} {summaries : List Summary}
    {failed : List String} (hreports : outcomes.Reports summaries failed) :
    failed = [] ↔ ∀ outcome ∈ outcomes, ∃ summary, outcome.2 = .ok summary := by
  induction hreports with
  | nil => simp
  | ok name summary hothers ih => simp [ih]
  | error name failure hothers ih => simp

/-- What several variants fail with. -/
def failureOf (count : Nat) (failed : List String) : Failure :=
  .foreign (s!"{failed.length} of {count} variants failed: " ++ ", ".intercalate failed)

theorem soleFailure?_of_several {outcomes : Outcomes} (hseveral : 2 ≤ outcomes.length) :
    outcomes.soleFailure? = none := by
  unfold soleFailure?
  split
  · simp at hseveral
  · rfl

theorem verdict_of_several {outcomes : Outcomes} (hseveral : 2 ≤ outcomes.length) :
    outcomes.verdict = if outcomes.failed = [] then .ok ()
      else .error (failureOf outcomes.length outcomes.failed) := by
  rw [verdict, soleFailure?_of_several hseveral]
  cases outcomes.failed <;> rfl

end Sweep.Outcomes

namespace CommandLine

/-! ### Turns -/

section Sweeping

variable {m : Type → Type} [Monad m] {ε : Type} (host : Host m)

/-- Announcements leave a registry alone. -/
theorem start_beside [LawfulMonad m] (quiet single : Bool) (name : String)
    (registry : Registry ε) :
    ((audience (n := StateT (Registry ε) (Shown m)) host quiet single).start name).run registry =
      (·, registry) <$> (audience (n := Shown m) host quiet single).start name := by
  cases quiet with
  | false => rfl
  | true => simp [audience]

theorem done_beside [LawfulMonad m] (quiet single : Bool) (name : String)
    (result : Except Failure Summary) (registry : Registry ε) :
    ((audience (n := StateT (Registry ε) (Shown m)) host quiet single).done name result).run
        registry =
      (·, registry) <$> (audience (n := Shown m) host quiet single).done name result := by
  cases result <;> cases quiet <;> cases single <;> first | rfl | simp [audience]

variable [Crashing m] (ops : EngineOps m ε) (config : RunnerConfig) (request : RunRequest)

/-- The turn of a variant: it is announced, it is benchmarked as it is, and what came of it is
shown. -/
def turn (single : Bool) (variant : Variant ε) : Shown m (Except Failure Summary × Variant ε) := do
  (audience host request.json single).start variant.name
  let (result, after) ← variant.run ops.lift (Console.stage host request.json)
    (request.iterations.getD config.iterations) config.cooldown
  (audience host request.json single).done variant.name result
  return (result, after)

/-- The benchmark of a name in a registry, which keeps what became of the variant. -/
def benchmarkOf (name : String) :
    StateT (Registry ε) (Shown m) (Except Failure Summary) :=
  fun registry => registry.run ops.lift (Console.stage host request.json) config.cooldown name
    (request.iterations.getD config.iterations)

/-- A sweep begins with the turn of its first variant. -/
theorem run_cons_turn [LawfulMonad m] (single : Bool) {registry : Registry ε}
    {variant : Variant ε} (hget : registry.get variant.name = .ok variant) (names : List String) :
    (Sweep.run (audience host request.json single) (benchmarkOf host ops config request)
        (variant.name :: names)).run registry = (do
      let (result, after) ← turn host ops config request single variant
      let (outcomes, last) ←
        (Sweep.run (audience host request.json single) (benchmarkOf host ops config request)
          names).run (registry.replace after)
      return ((variant.name, result) :: outcomes, last)) := by
  have hbenchmark : (benchmarkOf host ops config request variant.name).run registry =
      (fun (result, after) => (result, registry.replace after)) <$>
        variant.run ops.lift (Console.stage host request.json)
          (request.iterations.getD config.iterations) config.cooldown := by
    simp only [benchmarkOf, StateT.run, Registry.run, hget, map_eq_pure_bind]
  simp only [Sweep.run, StateT.run_bind, start_beside, hbenchmark, done_beside, turn, bind_assoc,
    map_eq_pure_bind, pure_bind, StateT.run_pure]

end Sweeping

/-! ### Turns one after the other -/

/-- Computations on a console, in a world, that may crash. -/
abbrev OnConsole (World : Type) := Shown (OptionT (StateM World))

namespace OnConsole

variable {World β γ : Type} {first : OnConsole World β} {rest : β → OnConsole World γ}
  {standing later : Bool} {world after : World}

theorem run_bind_some {b : β}
    (hfirst : (first.run standing).run.run world = (some (b, later), after)) :
    ((first >>= rest).run standing).run.run world = ((rest b).run later).run.run after := by
  rw [StateT.run_bind]
  exact Sequencing.run_bind_some hfirst

theorem run_bind_none (hfirst : (first.run standing).run.run world = (none, after)) :
    ((first >>= rest).run standing).run.run world = (none, after) := by
  rw [StateT.run_bind]
  exact Sequencing.run_bind_none hfirst

theorem exists_of_run_bind {c : γ × Bool}
    (hrun : ((first >>= rest).run standing).run.run world = (some c, after)) :
    ∃ b middle between, (first.run standing).run.run world = (some (b, middle), between) ∧
      ((rest b).run middle).run.run between = (some c, after) := by
  rcases hfirst : (first.run standing).run.run world with ⟨_ | ⟨b, middle⟩, between⟩
  · rw [run_bind_none hfirst] at hrun
    cases hrun
  · rw [run_bind_some hfirst] at hrun
    exact ⟨b, middle, between, rfl, hrun⟩

end OnConsole

section Turns

variable {World ε : Type}

/-- Variants have their turns, each of them once and in order, whatever comes of them, until a turn
crashes. A turn begins on the console and in the world that the turn before it left; nothing is left
of the console after a crash. -/
inductive Turns (take : Variant ε → OnConsole World (Except Failure Summary × Variant ε)) :
    List (Variant ε) → Bool × World → Sweep.Outcomes → Option Bool × World → Prop
  | nil (standing : Bool) (world : World) : Turns take [] (standing, world) [] (some standing, world)
  | cons {variant after : Variant ε} {rest : List (Variant ε)} {standing later : Bool}
      {world next : World} {result : Except Failure Summary} {outcomes : Sweep.Outcomes}
      {final : Option Bool × World}
      (htook : ((take variant).run standing).run.run world = (some ((result, after), later), next))
      (hothers : Turns take rest (later, next) outcomes final) :
      Turns take (variant :: rest) (standing, world) ((variant.name, result) :: outcomes) final
  | crashed {variant : Variant ε} {rest : List (Variant ε)} {standing : Bool} {world next : World}
      (htook : ((take variant).run standing).run.run world = (none, next)) :
      Turns take (variant :: rest) (standing, world) [] (none, next)

variable {take : Variant ε → OnConsole World (Except Failure Summary × Variant ε)}
  {variants : List (Variant ε)} {state : Bool × World} {final : Option Bool × World}
  {outcomes : Sweep.Outcomes}

/-- Without a crash, every variant has its turn. -/
theorem Turns.names_eq (hturns : Turns take variants state outcomes final)
    (hfinal : final.1 ≠ none) : outcomes.map (·.1) = variants.map (·.name) := by
  induction hturns with
  | nil standing world => rfl
  | cons htook hothers ih => rw [List.map_cons, List.map_cons, ih hfinal]
  | crashed htook => exact absurd rfl hfinal

/-- Whatever a run comes to, the variant keeps its name. -/
theorem name_of_follow {β : Type} {ops : EngineOps (OnConsole World) ε}
    {stage : Stage (OnConsole World)} {script : Script β} (variant : Variant ε) {last : Variant ε}
    {value : β} {standing later : Bool} {world after : World}
    (hrun : ((variant.follow ops stage script).run standing).run.run world =
      (some ((value, last), later), after)) : last.name = variant.name := by
  induction script generalizing variant standing world with
  | done value =>
    cases hrun
    rfl
  | crash => cases hrun
  | setup resume ih | release resume ih =>
    obtain ⟨⟨reply, engine⟩, middle, between, -, hrun⟩ := OnConsole.exists_of_run_bind hrun
    exact ih reply { variant with engine := engine } hrun
  | execute resume ih =>
    obtain ⟨watch, _, _, -, hrun⟩ := OnConsole.exists_of_run_bind hrun
    obtain ⟨⟨reply, engine⟩, _, _, -, hrun⟩ := OnConsole.exists_of_run_bind hrun
    obtain ⟨elapsed, _, _, -, hrun⟩ := OnConsole.exists_of_run_bind hrun
    exact ih _ { variant with engine := engine } hrun
  | report event next ih | pause milliseconds next ih =>
    obtain ⟨_, _, _, -, hrun⟩ := OnConsole.exists_of_run_bind hrun
    exact ih variant hrun
  | store state next ih => exact ih { variant with state := state } hrun

variable (host : Host (OptionT (StateM World))) (ops : EngineOps (OptionT (StateM World)) ε)
  (config : RunnerConfig) (request : RunRequest)

theorem name_of_turn {single : Bool} {variant last : Variant ε} {result : Except Failure Summary}
    {standing later : Bool} {world after : World}
    (hturn : ((turn host ops config request single variant).run standing).run.run world =
      (some ((result, last), later), after)) : last.name = variant.name := by
  obtain ⟨_, _, _, -, hturn⟩ := OnConsole.exists_of_run_bind hturn
  obtain ⟨⟨_, _⟩, _, _, hrun, hturn⟩ := OnConsole.exists_of_run_bind hturn
  obtain ⟨_, _, _, -, hturn⟩ := OnConsole.exists_of_run_bind hturn
  cases hturn
  exact name_of_follow variant hrun

/-- A sweep over variants of a registry lets them have their turns. What a turn makes of the
registry does not show, because every variant is found as it was registered. -/
theorem run_turns (single : Bool) {registry : Registry ε} {variants : List (Variant ε)}
    (hunique : (variants.map (·.name)).Nodup)
    (hget : ∀ variant ∈ variants, registry.get variant.name = .ok variant)
    (standing : Bool) (world : World) :
    ∃ outcomes last final, (((Sweep.run (audience host request.json single)
        (benchmarkOf host ops config request) (variants.map (·.name))).run registry).run
          standing).run.run world = (final.1.map ((outcomes, last), ·), final.2) ∧
      Turns (turn host ops config request single) variants (standing, world) outcomes final := by
  -- by induction on the variants whose turns are still to come; the registry holds each of them as it
  -- was registered, since a run replaces no variant but its own
  induction variants generalizing registry standing world with
  | nil => exact ⟨[], registry, (some standing, world), rfl, .nil standing world⟩
  | cons variant rest ih =>
    obtain ⟨hfresh, hunique⟩ := List.nodup_cons.mp hunique
    obtain ⟨hhere, hlater⟩ := List.forall_mem_cons.mp hget
    rw [List.map_cons, run_cons_turn host ops config request single hhere]
    rcases hturn : ((turn host ops config request single variant).run standing).run.run world
      with ⟨_ | ⟨⟨result, after⟩, later⟩, next⟩
    · exact ⟨[], registry, (none, next), OnConsole.run_bind_none hturn, .crashed hturn⟩
    · have hothers : ∀ other ∈ rest, (registry.replace after).get other.name = .ok other := by
        intro other hmem
        rw [Registry.get_replace_of_ne]
        · exact hlater other hmem
        · intro hsame
          exact hfresh (List.mem_map.mpr
            ⟨other, hmem, hsame.trans (name_of_turn host ops config request hturn)⟩)
      obtain ⟨outcomes, last, final, hrun, hturns⟩ := ih hunique hothers later next
      refine ⟨(variant.name, result) :: outcomes, last, final, ?_, .cons hturn hturns⟩
      rw [OnConsole.run_bind_some hturn]
      rcases final with ⟨_ | _, _⟩
      · exact OnConsole.run_bind_none hrun
      · exact OnConsole.run_bind_some hrun

/-- A sweep over several variants, or over one. -/
theorem sweep_turns {registry : Registry ε} {variants : List (Variant ε)}
    (hnames : request.names registry = variants.map (·.name))
    (hunique : (variants.map (·.name)).Nodup)
    (hget : ∀ variant ∈ variants, registry.get variant.name = .ok variant) (world : World) :
    ∃ outcomes final, (sweep host ops config request registry).run.run world =
        (final.1.map fun _ => outcomes, final.2) ∧
      Turns (turn host ops config request (variants.length == 1)) variants (false, world) outcomes
        final := by
  obtain ⟨outcomes, last, final, hrun, hturns⟩ :=
    run_turns host ops config request (variants.length == 1) hunique hget false world
  have hsweep : sweep host ops config request registry = (·.1.1) <$>
      ((Sweep.run (audience host request.json (variants.length == 1))
        (benchmarkOf host ops config request) (variants.map (·.name))).run registry).run false := by
    simp only [sweep, hnames, List.length_map, StateT.run'_eq, StateT.run_map, Functor.map_map]
    rfl
  refine ⟨outcomes, final, ?_, hturns⟩
  rw [hsweep, OptionT.run_map, StateT.run_map, hrun]
  rcases final with ⟨_ | _, _⟩ <;> rfl

end Turns

/-- A name that nobody has is announced, and no variant runs. -/
theorem sweep_unknown {m : Type → Type} [Monad m] [LawfulMonad m] [Crashing m] {ε : Type}
    (host : Host m) (ops : EngineOps m ε) (config : RunnerConfig) (request : RunRequest)
    {registry : Registry ε} {name : String} {failure : Failure}
    (hnames : request.names registry = [name]) (hunknown : registry.get name = .error failure) :
    sweep host ops config request registry =
      (fun _ => [(name, .error failure)]) <$>
        (if request.json then pure () else host.say s!"• Benchmarking {name}") := by
  have hbenchmark : (benchmarkOf host ops config request name).run registry =
      pure (.error failure, registry) := by
    simp only [benchmarkOf, StateT.run, Registry.run, hunknown]
  have hrun : (Sweep.run (audience host request.json true) (benchmarkOf host ops config request)
      [name]).run registry = (fun _ => ([(name, .error failure)], registry)) <$>
        (audience (n := Shown m) host request.json true).start name := by
    have hdone : (audience (n := Shown m) host request.json true).done name (.error failure) =
        pure () := rfl
    simp only [Sweep.run, StateT.run_bind, start_beside, hbenchmark, done_beside, hdone, bind_assoc,
      map_eq_pure_bind, pure_bind, StateT.run_pure]
  have hsweep : sweep host ops config request registry = (·.1.1) <$>
      ((Sweep.run (audience host request.json true) (benchmarkOf host ops config request)
        [name]).run registry).run false := by
    simp only [sweep, hnames, List.length_singleton, StateT.run'_eq, StateT.run_map,
      Functor.map_map]
    rfl
  rw [hsweep, hrun]
  cases request.json <;> simp [audience]

/-! ### The command -/

section Command

variable {World : Type} (host : Host (StateM World)) {config : Config} {request : RunRequest}
  {registry : Registry (Engine Binary32)} (world : World)

/-- The sweep of the command. -/
def sweepOf (config : Config) (request : RunRequest) (registry : Registry (Engine Binary32)) :
    OptionT (StateM World) Sweep.Outcomes :=
  sweep host.guarded (Engine.ops host.guarded.files) (request.adjust config).runner request registry

/-- The turn of a variant as the command takes it. -/
def turnOf (config : Config) (request : RunRequest) (single : Bool)
    (variant : Variant (Engine Binary32)) :
    OnConsole World (Except Failure Summary × Variant (Engine Binary32)) :=
  turn host.guarded (Engine.ops host.guarded.files) (request.adjust config).runner request single
    variant

/-- With variants to benchmark, the command is a sweep, the summaries as JSON and the verdict. -/
theorem run_benchmark (hbuilt : Registry.ofConfig (request.adjust config) = .ok registry)
    (hnonempty : request.names registry ≠ []) :
    (benchmark host config request).run world =
      match (sweepOf host config request registry).run.run world with
      | (none, after) => (.error .crashed, after)
      | (some outcomes, after) => (outcomes.verdict.mapError .failed,
          if request.json && outcomes.soleFailure?.isNone then
            ((host.say (Json.arr (outcomes.summaries.map Summary.toJson)).pretty).run after).2
          else after) := by
  have hnames : (request.names registry).isEmpty = false := by
    rwa [List.isEmpty_eq_false_iff]
  simp only [benchmark, hbuilt, hnames]
  rw [if_neg Bool.false_ne_true, StateT.run_bind]
  rcases hsweep : (sweepOf host config request registry).run.run world with ⟨_ | outcomes, after⟩
  all_goals
    rw [sweepOf] at hsweep
    rw [hsweep]
  · rfl
  · change StateT.run (if (request.json && outcomes.soleFailure?.isNone) = true then _ else _)
      after = _
    by_cases hprinted : (request.json && outcomes.soleFailure?.isNone) = true
    · rw [if_pos hprinted]
      simp only [hprinted, if_true]
      rfl
    · rw [if_neg hprinted]
      simp only [hprinted]
      rfl

/-- What several variants come to, if none of them crashes. -/
theorem benchmark_several (hbuilt : Registry.ofConfig (request.adjust config) = .ok registry)
    (hall : request.variant = none) (hseveral : 2 ≤ registry.variants.length) :
    ∃ outcomes final,
      Turns (turnOf host config request false) registry.variants (false, world) outcomes final ∧
      (final.1 = none → (benchmark host config request).run world = (.error .crashed, final.2)) ∧
      (final.1 ≠ none → (benchmark host config request).run world =
        ((if outcomes.failed = [] then .ok ()
          else .error (Sweep.Outcomes.failureOf registry.variants.length outcomes.failed) :
            Except Failure Unit).mapError .failed,
        if request.json then
          ((host.say (Json.arr (outcomes.summaries.map Summary.toJson)).pretty).run final.2).2
        else final.2)) := by
  have hnames : request.names registry = registry.variants.map (·.name) := by
    rw [RunRequest.names, hall]
    rfl
  obtain ⟨-, hunique⟩ := Registry.names_of_ofConfig hbuilt
  obtain ⟨outcomes, ⟨ending, after⟩, hsweep, hturns⟩ := sweep_turns host.guarded
    (Engine.ops host.guarded.files) (request.adjust config).runner request hnames hunique
    (fun _ => Registry.get_of_mem hunique) world
  have hsingle : (registry.variants.length == 1) = false := by
    rw [beq_eq_false_iff_ne]
    omega
  rw [hsingle] at hturns
  have hnonempty : request.names registry ≠ [] := by
    rw [hnames, ne_eq, List.map_eq_nil_iff, ← List.length_eq_zero_iff]
    omega
  refine ⟨outcomes, (ending, after), hturns, fun hcrashed => ?_, fun hended => ?_⟩
  all_goals rw [run_benchmark host world hbuilt hnonempty, sweepOf, hsweep]
  · obtain rfl : ending = none := hcrashed
    rfl
  · obtain ⟨standing, rfl⟩ := Option.ne_none_iff_exists'.mp hended
    have hcount : outcomes.length = registry.variants.length := by
      simpa using congrArg List.length (hturns.names_eq hended)
    dsimp only [Option.map_some]
    rw [Sweep.Outcomes.verdict_of_several (by omega),
      Sweep.Outcomes.soleFailure?_of_several (by omega), hcount, Option.isNone_none, Bool.and_true]

/-- What a single variant comes to. -/
theorem benchmark_single (hbuilt : Registry.ofConfig (request.adjust config) = .ok registry)
    {name : String} (hnames : request.names registry = [name])
    {variant : Variant (Engine Binary32)} (hget : registry.get name = .ok variant) :
    let final := ((turnOf host config request true variant).run false).run.run world
    (final.1 = none → (benchmark host config request).run world = (.error .crashed, final.2)) ∧
    (∀ summary last standing, final.1 = some ((.ok summary, last), standing) →
      (benchmark host config request).run world = (.ok (),
        if request.json then
          ((host.say (Json.arr [summary.toJson]).pretty).run final.2).2 else final.2)) ∧
    ∀ failure last standing, final.1 = some ((.error failure, last), standing) →
      (benchmark host config request).run world =
        (.error (.failed (.context s!"Benchmark of '{name}' failed" failure)), final.2) := by
  intro final
  obtain rfl : variant.name = name := Registry.name_of_get hget
  have halone : ∀ other ∈ [variant], registry.get other.name = .ok other := by
    intro other hmem
    rw [List.mem_singleton.mp hmem, hget]
  have hone : request.names registry = [variant].map (·.name) := hnames
  obtain ⟨outcomes, ended, hsweep, hturns⟩ := sweep_turns host.guarded
    (Engine.ops host.guarded.files) (request.adjust config).runner request hone
    (List.nodup_singleton _) halone world
  rw [run_benchmark host world hbuilt (by rw [hnames]; exact List.cons_ne_nil _ _), sweepOf, hsweep]
  cases hturns with
  | crashed htook =>
    have hfinal : final = (none, _) := htook
    clear_value final
    subst hfinal
    exact ⟨fun _ => rfl, fun _ _ _ hended => (Option.some_ne_none _ hended.symm).elim,
      fun _ _ _ hended => (Option.some_ne_none _ hended.symm).elim⟩
  | @cons _ last _ _ later _ next result _ _ htook hothers =>
    cases hothers
    have hfinal : final = (some ((result, last), later), next) := htook
    clear_value final
    subst hfinal
    refine ⟨fun hended => (Option.some_ne_none _ hended).elim, ?_, ?_⟩
    · intro summary _ _ hresult
      obtain rfl : result = .ok summary := congrArg (·.1.1) (Option.some.inj hresult)
      simp only [Option.map_some, Sweep.Outcomes.soleFailure?, Option.isNone_none, Bool.and_true]
      rfl
    · intro failure _ _ hresult
      obtain rfl : result = .error failure := congrArg (·.1.1) (Option.some.inj hresult)
      simp only [Option.map_some, Sweep.Outcomes.soleFailure?, Option.isNone_some, Bool.and_false]
      rfl

/-- A benchmark of all variants lets each of them have one turn, in the order of the registry and
however many fail, unless a turn crashes: then it crashes as well, and nobody else has a turn. It
succeeds exactly if all variants do, fails by the names of those that did not, and the summaries that
it shows as JSON are those of the others. One name alone succeeds, fails or crashes as its variant
does; where there is none, nothing is done at all. -/
theorem benchmark_turns {World : Type} (host : Host (StateM World)) (config : Config)
    (request : RunRequest) (world : World) {registry : Registry (Engine Binary32)}
    (hbuilt : Registry.ofConfig (request.adjust config) = .ok registry) :
    (registry.names = (request.adjust config).enabledVariants.map (·.name) ∧
      registry.names.Nodup) ∧
    (request.variant = none → registry.variants = [] →
      (benchmark host config request).run world =
        (.error (.failed (.foreign "No enabled variants in the configuration")), world)) ∧
    (request.variant = none → 2 ≤ registry.variants.length →
      ∃ outcomes final,
        Turns (turnOf host config request false) registry.variants (false, world) outcomes final ∧
        (final.1 = none →
          (benchmark host config request).run world = (.error .crashed, final.2)) ∧
        (final.1 ≠ none → outcomes.map (·.1) = registry.names ∧
          ∃ summaries failed, ∃ result : Except Failure Unit, outcomes.Reports summaries failed ∧
            (benchmark host config request).run world = (result.mapError .failed,
              if request.json then
                ((host.say (Json.arr (summaries.map Summary.toJson)).pretty).run final.2).2
              else final.2) ∧
            (result = .ok () ↔ ∀ outcome ∈ outcomes, ∃ summary, outcome.2 = .ok summary) ∧
            (failed ≠ [] → result = .error (.foreign
              (s!"{failed.length} of {registry.variants.length} variants failed: " ++
                ", ".intercalate failed))))) ∧
    ∀ name, request.names registry = [name] →
      (∀ failure, registry.get name = .error failure →
        (benchmark host config request).run world =
          (.error (.failed (.context s!"Benchmark of '{name}' failed" failure)),
            if request.json then world else ((host.say s!"• Benchmarking {name}").run world).2)) ∧
      ∀ variant, registry.get name = .ok variant →
        let final := ((turnOf host config request true variant).run false).run.run world
        (final.1 = none →
          (benchmark host config request).run world = (.error .crashed, final.2)) ∧
        (∀ summary last standing, final.1 = some ((.ok summary, last), standing) →
          (benchmark host config request).run world = (.ok (),
            if request.json then
              ((host.say (Json.arr [summary.toJson]).pretty).run final.2).2 else final.2)) ∧
        ∀ failure last standing, final.1 = some ((.error failure, last), standing) →
          (benchmark host config request).run world =
            (.error (.failed (.context s!"Benchmark of '{name}' failed" failure)), final.2) := by
  refine ⟨Registry.names_of_ofConfig hbuilt, ?_, ?_, ?_⟩
  · intro hall hnone
    have hnames : (request.names registry).isEmpty = true := by
      rw [RunRequest.names, hall, Registry.names, hnone]
      rfl
    simp only [benchmark, hbuilt, hnames]
    rfl
  · intro hall hseveral
    obtain ⟨outcomes, final, hturns, hcrashed, hended⟩ :=
      benchmark_several host world hbuilt hall hseveral
    refine ⟨outcomes, final, hturns, hcrashed, fun hfinal => ⟨hturns.names_eq hfinal, ?_⟩⟩
    have hreports := outcomes.reports
    refine ⟨_, _, _, hreports, hended hfinal, ?_, fun hfailed => if_neg hfailed⟩
    rw [← hreports.failed_eq_nil_iff]
    by_cases hclean : outcomes.failed = []
    · rw [if_pos hclean]
      exact iff_of_true rfl hclean
    · rw [if_neg hclean]
      exact iff_of_false (fun hok => by cases hok) hclean
  · intro name hnames
    refine ⟨?_, fun variant hget => benchmark_single host world hbuilt hnames hget⟩
    intro failure hunknown
    rw [run_benchmark host world hbuilt (by rw [hnames]; exact List.cons_ne_nil _ _), sweepOf,
      sweep_unknown _ _ _ request hnames hunknown, OptionT.run_map, StateT.run_map]
    cases request.json <;> rfl

/-- Two variants of one engine. -/
def pairConfig : Config :=
  { (default : Config) with
    variants := [⟨"a", "resnet", none, true, .empty⟩, ⟨"b", "resnet", none, true, .empty⟩] }

/-- Too few iterations of all variants. -/
def onceRequest : RunRequest := ⟨none, some 1, none, false⟩

def pairRegistry : Registry (Engine Binary32) :=
  ⟨[.create "a" none (.residual (.create .default)),
    .create "b" none (.residual (.create .default))]⟩

theorem benchmark_turns_refused :
    Registry.ofConfig (onceRequest.adjust pairConfig) = .ok pairRegistry ∧
      ∃ after, (benchmark Machine.host pairConfig onceRequest).run default =
        (.error (.failed (.foreign "2 of 2 variants failed: a, b")), after) := by
  have hbuilt : Registry.ofConfig (onceRequest.adjust pairConfig) = .ok pairRegistry := by rfl
  obtain ⟨-, -, hseveral, -⟩ := benchmark_turns Machine.host pairConfig onceRequest default hbuilt
  obtain ⟨outcomes, final, hturns, -, hended⟩ := hseveral rfl (by decide)
  cases hturns with
  | crashed htook => exact (Bool.noConfusion (congrArg (·.1.isSome) htook) : False).elim
  | @cons _ _ _ _ _ _ _ one _ _ hone hothers =>
    cases hone
    cases hothers with
    | crashed htook => exact (Bool.noConfusion (congrArg (·.1.isSome) htook) : False).elim
    | @cons _ _ _ _ _ _ _ two _ _ htwo hothers =>
      cases htwo
      cases hothers
      obtain ⟨-, _, _, _, hreports, hrun, -, hfails⟩ := hended (Option.some_ne_none _)
      cases hreports with
      | error _ _ hlater =>
        cases hlater with
        | error _ _ hnone =>
          cases hnone
          rw [hfails (List.cons_ne_nil _ _)] at hrun
          exact ⟨hbuilt, _, hrun⟩

/-- A graph with a linear kernel that has no rows, where every record is written as a list. -/
def rowlessText : String :=
  "[[[0,\x7b\"w\":[\"w\",0,0]\x7d],[4,\x7b\"x\":[\"x\",0,4],\"y\":[\"y\",4,0]\x7d]]," ++
    "\"raw\",[],[],[[\"linear\",\"x\",\"w\",\"y\"]]]"

/-- The files of this graph for two backends. -/
def rowlessDisk : Disk :=
  ⟨[([], .directory), (["optimized"], .directory), (["optimized", "mlp"], .directory),
    (["optimized", "mlp", "graph_native.json"], .file (utf8 rowlessText)),
    (["optimized", "mlp", "weight_native.bin"], .file []),
    (["optimized", "mlp", "graph_fallback.json"], .file (utf8 rowlessText)),
    (["optimized", "mlp", "weight_fallback.bin"], .file [])]⟩

def rowlessSettings (backend : String) : NameTable Json :=
  (NameTable.empty.insert "base_dir" (.str "")).insert "backend" (.str backend)

/-- The graph on the backend that cannot run it, and then on one that can. -/
def rowlessConfig : Config :=
  { (default : Config) with
    variants := [⟨"a", "descriptor", none, true, rowlessSettings "native"⟩,
      ⟨"b", "descriptor", none, true, rowlessSettings "fallback"⟩] }

/-- The first of two variants crashes, and the second one, which can run, never has its turn. -/
theorem benchmark_rowless_crashes :
    let run (variant : Option String) := (benchmark Machine.host rowlessConfig
      ⟨variant, some 2, none, false⟩).run ⟨rowlessDisk, [], []⟩
    (run none).1 = .error .crashed ∧ (run none).2.said = ["• Benchmarking a"] ∧
      (run (some "b")).1 = .ok () := by
  intro run
  have hfirst : (run none).1.toOption = none ∧ (run none).2.said = ["• Benchmarking a"] ∧
      ((run none).1.tryCatch fun stop =>
        if stop = .crashed then .ok () else .error stop).toOption = some () := by decide +kernel
  have hsecond : (run (some "b")).1.toOption = some () := by decide +kernel
  obtain ⟨hstopped, hsaid, hcaught⟩ := hfirst
  refine ⟨?_, hsaid, ?_⟩
  · cases hresult : (run none).1 with
    | ok value =>
      rw [hresult] at hstopped
      cases hstopped
    | error stop =>
      rw [hresult] at hcaught
      by_cases hcrashed : stop = .crashed
      · rw [hcrashed]
      · simp [Except.tryCatch, hcrashed, Except.toOption] at hcaught
  · cases hresult : (run (some "b")).1 with
    | ok value => rfl
    | error stop =>
      rw [hresult] at hsecond
      cases hsecond

end Command

end CommandLine

end TensorBench
