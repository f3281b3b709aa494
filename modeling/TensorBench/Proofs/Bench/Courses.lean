import TensorBench.Bench.Variant

/-!
The courses of a script. A script is a tree, and what an engine and its surroundings reply chooses a
path through it: the actions on the path, and at its end the state of the run that is stored last and
the result, or a crash. Following a script with any engine in any world takes such a path, and if the
world keeps a log of what is done in it, the log grows by the actions of the path. Every world can be
given a log, whatever its engines do.
-/
namespace TensorBench

/-- What a script asks for, with the reply of the engine. -/
inductive Action where
  | setup (reply : Except Failure Unit)
  | execute (reply : Except Failure Unit)
  | release (reply : Except Failure Unit)
  | report (event : Event)
  | pause (milliseconds : Nat)

namespace Script

variable {β : Type}

/-- Begun in a state of the run, the script can perform the actions and end with another state and a
result, or crash. -/
inductive Takes : Script β → RunState → List Action → Option (RunState × β) → Prop where
  | done (value : β) (state : RunState) : Takes (.done value) state [] (some (state, value))
  | crash (state : RunState) : Takes .crash state [] none
  | setup {resume : Except Failure Unit → Script β} {state : RunState} {actions : List Action}
      {ending : Option (RunState × β)} (reply : Except Failure Unit)
      (hrest : Takes (resume reply) state actions ending) :
      Takes (.setup resume) state (.setup reply :: actions) ending
  | execute {resume : Except Failure Binary64 → Script β} {state : RunState}
      {actions : List Action} {ending : Option (RunState × β)} (reply : Except Failure Unit)
      (elapsed : Binary64)
      (hrest : Takes (resume (reply.map fun _ => elapsed)) state actions ending) :
      Takes (.execute resume) state (.execute reply :: actions) ending
  | release {resume : Except Failure Unit → Script β} {state : RunState} {actions : List Action}
      {ending : Option (RunState × β)} (reply : Except Failure Unit)
      (hrest : Takes (resume reply) state actions ending) :
      Takes (.release resume) state (.release reply :: actions) ending
  | report {event : Event} {next : Script β} {state : RunState} {actions : List Action}
      {ending : Option (RunState × β)} (hrest : Takes next state actions ending) :
      Takes (.report event next) state (.report event :: actions) ending
  | pause {milliseconds : Nat} {next : Script β} {state : RunState} {actions : List Action}
      {ending : Option (RunState × β)} (hrest : Takes next state actions ending) :
      Takes (.pause milliseconds next) state (.pause milliseconds :: actions) ending
  | store {stored : RunState} {next : Script β} {state : RunState} {actions : List Action}
      {ending : Option (RunState × β)} (hrest : Takes next stored actions ending) :
      Takes (.store stored next) state actions ending

end Script

/-! ### Following a script -/

section Following

variable {World ε : Type}

/-- A world keeps a log if everything that is done in it is appended to the log, except for a look at
the stopwatch. -/
structure KeepsLog (ops : EngineOps (StateM World) ε) (stage : Stage (StateM World))
    (log : World → List Action) : Prop where
  setup : ∀ engine world,
    log (ops.setup engine world).2 = log world ++ [.setup (ops.setup engine world).1.1]
  execute : ∀ engine world,
    log (ops.execute engine world).2 = log world ++ [.execute (ops.execute engine world).1.1]
  release : ∀ engine world,
    log (ops.release engine world).2 = log world ++ [.release (ops.release engine world).1.1]
  start : ∀ world, log (stage.stopwatch world).2 = log world
  stop : ∀ world between, log ((stage.stopwatch world).1 between).2 = log between
  report : ∀ event world, log (stage.report event world).2 = log world ++ [.report event]
  pause : ∀ milliseconds world,
    log (stage.pause milliseconds world).2 = log world ++ [.pause milliseconds]

private theorem log_cons {before between after actions : List Action} {action : Action}
    (hfirst : between = before ++ [action]) (hothers : after = between ++ actions) :
    after = before ++ action :: actions := by
  rw [hothers, hfirst, List.append_assoc, List.singleton_append]

/-- Follow a script with engines and surroundings that do not crash. -/
def Variant.followIn {β : Type} (ops : EngineOps (StateM World) ε) (stage : Stage (StateM World))
    (script : Script β) (variant : Variant ε) (world : World) :
    Option (β × Variant ε) × World :=
  (variant.follow ops.lift stage.lift script : OptionT (StateM World) (β × Variant ε)).run world

/-- Following a script takes one of its courses, and changes nothing but engine and state. -/
theorem Variant.follow_takes {β : Type} (ops : EngineOps (StateM World) ε)
    (stage : Stage (StateM World)) (log : World → List Action) (script : Script β)
    (variant : Variant ε) (world : World) :
    ∃ actions, script.Takes variant.state actions
        ((variant.followIn ops stage script world).1.map fun ended => (ended.2.state, ended.1)) ∧
      (∀ ended ∈ (variant.followIn ops stage script world).1,
        ended.2.name = variant.name ∧ ended.2.description = variant.description) ∧
      (KeepsLog ops stage log →
        log (variant.followIn ops stage script world).2 = log world ++ actions) := by
  -- by induction on the script, along the branch that the reply in this world selects
  induction script generalizing variant world with
  | done value =>
    exact ⟨[], .done value variant.state, by rintro _ ⟨⟩; exact ⟨rfl, rfl⟩,
      fun _ => (List.append_nil _).symm⟩
  | crash => exact ⟨[], .crash variant.state, nofun, fun _ => (List.append_nil _).symm⟩
  | setup resume ih =>
    obtain ⟨actions, htakes, hkept, hlog⟩ :=
      ih (ops.setup variant.engine world).1.1
        { variant with engine := (ops.setup variant.engine world).1.2 }
        (ops.setup variant.engine world).2
    exact ⟨_, .setup _ htakes, hkept,
      fun hkeeps => log_cons (hkeeps.setup variant.engine world) (hlog hkeeps)⟩
  | execute resume ih =>
    let watch := stage.stopwatch world
    let executed := ops.execute variant.engine watch.2
    obtain ⟨actions, htakes, hkept, hlog⟩ :=
      ih (executed.1.1.map fun _ => (watch.1 executed.2).1)
        { variant with engine := executed.1.2 } (watch.1 executed.2).2
    refine ⟨_, .execute _ _ htakes, hkept, fun hkeeps => log_cons ?_ (hlog hkeeps)⟩
    rw [hkeeps.stop, hkeeps.execute, hkeeps.start]
  | release resume ih =>
    obtain ⟨actions, htakes, hkept, hlog⟩ :=
      ih (ops.release variant.engine world).1.1
        { variant with engine := (ops.release variant.engine world).1.2 }
        (ops.release variant.engine world).2
    exact ⟨_, .release _ htakes, hkept,
      fun hkeeps => log_cons (hkeeps.release variant.engine world) (hlog hkeeps)⟩
  | report event next ih =>
    obtain ⟨actions, htakes, hkept, hlog⟩ := ih variant (stage.report event world).2
    exact ⟨_, .report htakes, hkept,
      fun hkeeps => log_cons (hkeeps.report event world) (hlog hkeeps)⟩
  | pause milliseconds next ih =>
    obtain ⟨actions, htakes, hkept, hlog⟩ := ih variant (stage.pause milliseconds world).2
    exact ⟨_, .pause htakes, hkept,
      fun hkeeps => log_cons (hkeeps.pause milliseconds world) (hlog hkeeps)⟩
  | store stored next ih =>
    obtain ⟨actions, htakes, hkept, hlog⟩ := ih { variant with state := stored } world
    exact ⟨actions, .store htakes, hkept, hlog⟩

end Following

/-! ### Worlds with a log -/

section Recording

variable {World ε : Type}

/-- Computations in a world with a log beside it. -/
abbrev Recorded (World : Type) := StateM (World × List Action)

namespace Recorded

variable {β : Type}

/-- A computation in the world that leaves the log alone. -/
def unseen (computation : StateM World β) : Recorded World β := fun (world, log) =>
  let (value, world) := computation world
  (value, (world, log))

/-- A computation in the world that is an action of a run. -/
def act (computation : StateM World β) (action : β → Action) : Recorded World β :=
  fun (world, log) =>
    let (value, world) := computation world
    (value, (world, log ++ [action value]))

end Recorded

/-- The same engines, with a log of what they are asked to do. -/
def EngineOps.recorded (ops : EngineOps (StateM World) ε) : EngineOps (Recorded World) ε where
  kind := ops.kind
  isLoaded := ops.isLoaded
  setup engine := Recorded.act (ops.setup engine) fun reply => .setup reply.1
  execute engine := Recorded.act (ops.execute engine) fun reply => .execute reply.1
  release engine := Recorded.act (ops.release engine) fun reply => .release reply.1

/-- The same surroundings, with a log of what happens in them. -/
def Stage.recorded (stage : Stage (StateM World)) : Stage (Recorded World) where
  stopwatch := do
    let watch ← Recorded.unseen stage.stopwatch
    return Recorded.unseen watch
  report event := Recorded.act (stage.report event) fun _ => .report event
  pause milliseconds := Recorded.act (stage.pause milliseconds) fun _ => .pause milliseconds

theorem keepsLog_recorded (ops : EngineOps (StateM World) ε) (stage : Stage (StateM World)) :
    KeepsLog ops.recorded stage.recorded Prod.snd where
  setup _ _ := rfl
  execute _ _ := rfl
  release _ _ := rfl
  start _ := rfl
  stop _ _ := rfl
  report _ _ := rfl
  pause _ _ := rfl

end Recording

end TensorBench
