import TensorBench.Bench.Factory
import TensorBench.Bench.Interleaving
import TensorBench.Proofs.Bench.Registries

/-!
Suspended runs. Wherever a run is suspended, finishing it without interruption comes to the same as
going on until the next suspension and finishing it from there. A run that is over leaves its
variant completed or failed, and so errands that are done one after the other only ever find
variants that no run is at work on.
-/
namespace TensorBench

section Finishing

variable {World ε σ β : Type} (ops : AsyncOps (Ways World) ε σ)
  (stage : Stage (Ways World))

/-- To complete a call of a hook is to poll it and to complete what is left. -/
theorem AsyncOps.completes_eq (call : σ) (engine : ε) :
    ops.Completes call engine = (do
      let (polled, engine) ← ops.poll call engine
      match polled with
      | .pending rest => ops.Completes rest engine
      | .ready reply => pure (reply, engine)) := by
  refine Ways.ext fun before outcome after => ⟨fun hcompletes => ?_, ?_⟩
  · cases hcompletes with
    | ready hpolled => exact ⟨_, _, hpolled, rfl, rfl⟩
    | pending hpolled hcompletes => exact ⟨_, _, hpolled, hcompletes⟩
  · rintro ⟨⟨_ | _, _⟩, between, hpolled, hcompletes⟩
    · exact .pending hpolled hcompletes
    · obtain ⟨rfl, rfl⟩ := hcompletes
      exact .ready hpolled

namespace Position

/-- Finish a run without interruption. -/
def finish : Position (Ways World) σ β → Variant ε → Ways World (β × Variant ε)
  | before script, variant => variant.follow ops.uninterrupted stage script
  | inside _ rest resume, variant => do
      let (reply, engine) ← ops.Completes rest variant.engine
      let script ← resume reply
      Variant.follow ops.uninterrupted stage script { variant with engine := engine }

theorem finish_of_result {position : Position (Ways World) σ β} {value : β}
    (hended : position.result? = some value) (variant : Variant ε) :
    position.finish ops stage variant = pure (value, variant) := by
  match position, hended with
  | before (.done value), rfl => rfl

/-- Going on until the next suspension leaves the same to be finished. -/
theorem finish_eq_advance {position : Position (Ways World) σ β}
    (hresult : position.result? = none) (variant : Variant ε) :
    position.finish ops stage variant = (do
      let (next, variant) ← position.advance ops stage variant
      next.finish ops stage variant) := by
  -- a step inside a hook is a poll, and any other step is one node of the script
  cases position with
  | before script =>
    cases script with
    | done value => cases hresult
    | crash => rw [finish, Variant.follow, advance, Ways.crash_bind]
    | setup resume | execute resume | release resume | store state next =>
      simp [finish, advance, Variant.follow, AsyncOps.uninterrupted]
    | report event next | pause milliseconds next => simp [finish, advance, Variant.follow]
  | inside hook rest resume =>
    rw [finish, ops.completes_eq, advance, bind_assoc, bind_assoc]
    refine congrArg _ (funext fun ⟨polled, engine⟩ => ?_)
    cases polled with
    | pending rest => simp [finish]
    | ready reply => simp [finish]

end Position

end Finishing

/-! ### What a finished run leaves -/

section Leaving

variable {World ε σ β : Type}

/-- Whatever way is gone to the end, following a script takes one of its courses, and the variant
keeps its name. -/
theorem Variant.takes_of_followed {ops : EngineOps (Ways World) ε} {stage : Stage (Ways World)}
    {script : Script β} {variant last : Variant ε} {before after : World} {value : β}
    (hfollowed : variant.follow ops stage script before (value, last) after) :
    ∃ actions, script.Takes variant.state actions (some (last.state, value)) ∧
      last.name = variant.name := by
  -- by induction on the script; of what is done in the world, only the reply matters
  induction script generalizing variant before with
  | done value =>
    obtain ⟨hsame, -⟩ := hfollowed
    cases hsame
    exact ⟨[], .done _ _, rfl⟩
  | crash => exact hfollowed.elim
  | setup resume ih =>
    obtain ⟨⟨reply, engine⟩, between, -, hfollowed⟩ := hfollowed
    obtain ⟨actions, htakes, hname⟩ := ih reply hfollowed
    exact ⟨_, .setup reply htakes, hname⟩
  | execute resume ih =>
    obtain ⟨watch, started, -, ⟨reply, engine⟩, executed, -, elapsed, stopped, -, hfollowed⟩ :=
      hfollowed
    obtain ⟨actions, htakes, hname⟩ := ih (reply.map fun _ => elapsed) hfollowed
    exact ⟨_, .execute reply elapsed htakes, hname⟩
  | release resume ih =>
    obtain ⟨⟨reply, engine⟩, between, -, hfollowed⟩ := hfollowed
    obtain ⟨actions, htakes, hname⟩ := ih reply hfollowed
    exact ⟨_, .release reply htakes, hname⟩
  | report event next ih =>
    obtain ⟨_, between, -, hfollowed⟩ := hfollowed
    obtain ⟨actions, htakes, hname⟩ := ih hfollowed
    exact ⟨_, .report htakes, hname⟩
  | pause milliseconds next ih =>
    obtain ⟨_, between, -, hfollowed⟩ := hfollowed
    obtain ⟨actions, htakes, hname⟩ := ih hfollowed
    exact ⟨_, .pause htakes, hname⟩
  | store state next ih =>
    obtain ⟨actions, htakes, hname⟩ := ih hfollowed
    exact ⟨_, .store htakes, hname⟩

theorem Position.name_of_finished {ops : AsyncOps (Ways World) ε σ}
    {stage : Stage (Ways World)} {position : Position (Ways World) σ β}
    {variant last : Variant ε} {before after : World} {value : β}
    (hfinished : position.finish ops stage variant before (value, last) after) :
    last.name = variant.name := by
  cases position with
  | before script => exact (Variant.takes_of_followed hfinished).choose_spec.2
  | inside hook rest resume =>
    obtain ⟨⟨reply, engine⟩, between, -, script, begun, -, hfollowed⟩ := hfinished
    exact (Variant.takes_of_followed hfollowed).choose_spec.2

namespace Registry

theorem replaceIn_replaceIn {one other : Variant ε} (hsame : other.name = one.name)
    (variants : List (Variant ε)) :
    replaceIn other (replaceIn one variants) = replaceIn other variants := by
  induction variants with
  | nil => rfl
  | cons head rest ih =>
    by_cases hnamed : head.name = one.name
    · simp [replaceIn, hnamed, hsame]
    · simp [replaceIn, hnamed, hsame, ih]

/-- Of two variants of one name, the one that is put in its place last stays there. -/
theorem replace_replace {one other : Variant ε} (hsame : other.name = one.name)
    (registry : Registry ε) : (registry.replace one).replace other = registry.replace other :=
  congrArg mk (replaceIn_replaceIn hsame registry.variants)

/-- No run is at work on a variant. -/
def Rested (registry : Registry ε) : Prop :=
  ∀ variant ∈ registry.variants, variant.state.status ≠ .running

theorem rested_of_register {registry next : Registry ε} {variant : Variant ε}
    (hrested : registry.Rested) (hfresh : variant.state.status ≠ .running)
    (hregistered : registry.register variant = .ok next) : next.Rested := by
  unfold register at hregistered
  split at hregistered
  · cases hregistered
  · cases hregistered
    intro other hmem
    rcases List.mem_append.mp hmem with hmem | hlast
    · exact hrested other hmem
    · rwa [List.mem_singleton.mp hlast]

theorem rested_of_add {α : Type} {directory : String} {registry next : Registry (Engine α)}
    {variant : VariantConfig} (hrested : registry.Rested)
    (hadded : registry.add directory variant = .ok next) : next.Rested := by
  unfold add at hadded
  split at hadded
  · cases hadded
  · split at hadded
    · rename_i hregistered
      cases hadded
      have hidle : RunStatus.idle ≠ .running := by decide
      exact rested_of_register hrested hidle hregistered
    · cases hadded

theorem rested_of_foldlM_add {α : Type} {directory : String} {variants : List VariantConfig}
    {before registry : Registry (Engine α)} (hrested : before.Rested)
    (hbuilt : variants.foldlM (add directory) before = .ok registry) : registry.Rested := by
  induction variants generalizing before with
  | nil =>
    cases hbuilt
    exact hrested
  | cons variant rest ih =>
    obtain ⟨next, hadded, hbuilt⟩ := Sequencing.bind_eq_ok_iff.mp hbuilt
    exact ih (rested_of_add hrested hadded) hbuilt

/-- The registry of a configuration holds variants that were never run. -/
theorem rested_of_ofConfig {α : Type} {config : Config} {registry : Registry (Engine α)}
    (hbuilt : ofConfig config = .ok registry) : registry.Rested :=
  rested_of_foldlM_add (fun _ hmem => absurd hmem List.not_mem_nil) hbuilt

end Registry

/-- The reply shows no variant that a run is at work on. -/
def Reply.Rested : Reply → Prop
  | benchmarked _ => True
  | listed infos => ∀ info ∈ infos, info.status ≠ .running

variable {ops : EngineOps (Ways World) ε} {stage : Stage (Ways World)}

/-- Answering one more call comes last. -/
theorem ServiceCall.answerAll_snoc {config : RunnerConfig} {calls : List ServiceCall}
    {call : ServiceCall} {registry kept next : Registry ε} {replies : List Reply} {reply : Reply}
    {before between after : World}
    (hanswered : ServiceCall.answerAll ops stage config calls registry before (replies, kept)
      between)
    (hperformed : (call.errand config).perform ops stage config.cooldown kept between (reply, next)
      after) :
    ServiceCall.answerAll ops stage config (calls ++ [call]) registry before
      (replies ++ [reply], next) after := by
  induction calls generalizing registry before replies with
  | nil =>
    obtain ⟨hsame, rfl⟩ := hanswered
    cases hsame
    exact ⟨_, _, hperformed, _, _, ⟨rfl, rfl⟩, rfl, rfl⟩
  | cons first rest ih =>
    obtain ⟨⟨earlier, middle⟩, world, hdone, ⟨others, last⟩, _, hanswered, hsame, rfl⟩ := hanswered
    cases hsame
    exact ⟨_, _, hdone, _, _, ih hanswered, rfl, rfl⟩

end Leaving

end TensorBench
