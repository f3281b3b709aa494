import TensorBench.Bench.Interleaving

/-!
Rehearsals of runs. The engines do as they are told, nothing takes time, and notes are taken of all
that an engine is asked to do and that the audience hears.
-/
namespace TensorBench

/-- Surroundings in which every action takes a millisecond and nobody listens. -/
def Stage.silent {m : Type → Type} [Monad m] : Stage m where
  stopwatch := pure (pure (.ofNative 1.0))
  report _ := pure ()
  pause _ := pure ()

namespace Rehearsal

/-- An engine whose failures are known in advance, and the number of executions it has seen. -/
structure Puppet where
  failSetup : Option Failure
  failRelease : Option Failure
  /-- The failure of one execution, with the number of those before it. -/
  failExecution : Option (Nat × Failure)
  isLoaded : Bool := false
  executions : Nat := 0

inductive Note where
  | setup
  | execution (index : Nat)
  | release
  | heard (event : Event)
deriving DecidableEq

def Note.text : Note → String
  | setup => "setup"
  | execution index => s!"execute {index}"
  | release => "finalize"
  | heard (.progress name done total) => s!"progress {name} {done}/{total}"
  | heard (.message line) => s!"message {line}"

/-- Computations that take notes, the latest first. -/
abbrev Noted := StateM (List Note)

def note (entry : Note) : Noted Unit := modify (entry :: ·)

def outcome : Option Failure → Except Failure Unit
  | some failure => .error failure
  | none => .ok ()

namespace Puppet

def kind : String := "scripted"

/-- The failure of the execution that comes next. -/
def nextFailure (puppet : Puppet) : Option Failure :=
  match puppet.failExecution with
  | some (index, failure) => if index = puppet.executions then some failure else none
  | none => none

/-- A release unloads the engine even if it fails. -/
def ops : EngineOps Noted Puppet where
  kind _ := kind
  isLoaded := isLoaded
  setup puppet := do
    note .setup
    return (outcome puppet.failSetup,
      { puppet with isLoaded := puppet.isLoaded || puppet.failSetup.isNone })
  execute puppet := do
    note (.execution puppet.executions)
    return (outcome puppet.nextFailure, { puppet with executions := puppet.executions + 1 })
  release puppet := do
    note .release
    return (outcome puppet.failRelease, { puppet with isLoaded := false })

end Puppet

/-- Silent surroundings that note what is reported. -/
def stage : Stage Noted := { Stage.silent with report := fun event => note (.heard event) }

/-- Run a variant and give the notes in the order they were taken. There is no result of a run that
crashes. -/
def run (variant : Variant Puppet) (listening : Bool) (iterations cooldown : Nat) :
    Option (Except Failure Summary × Variant Puppet) × List Note :=
  let surroundings := if listening then stage else Stage.silent
  let course : OptionT Noted (Except Failure Summary × Variant Puppet) :=
    variant.run Puppet.ops.lift surroundings.lift iterations cooldown
  let (result, notes) := course.run.run []
  (result, notes.reverse)

/-- Answer a call while somebody else asks for a listing, in turns that suffice for both. -/
def besideListing {m : Type → Type} [Monad m] [Crashing m] {ε : Type} (ops : EngineOps m ε)
    (config : RunnerConfig) (call : ServiceCall) (registry : Registry ε) :
    m (Option Reply × Registry ε) := do
  let iterations := match call.errand config with
    | .benchmark _ iterations => iterations
    | .list => 0
  let schedule := (List.replicate (6 * iterations + 20) [true, false]).flatten
  let calls (ours : Bool) : ServiceCall := if ours then call else .list
  let (_, service) ←
    (Service.start registry calls).pollAll ops.prompt Stage.silent config schedule
  match service.progress true with
  | .answered reply => return (some reply, service.registry)
  | _ => return (none, service.registry)

end Rehearsal

end TensorBench
