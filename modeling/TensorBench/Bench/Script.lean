import TensorBench.Bench.RunState

/-!
The course of a benchmark run, as a tree of the things it asks for. Each node is one interaction
with the engine, the audience or the record of the run, and the branches below it are the possible
replies; what an engine does and how long it takes stays open. A run sets the engine up, executes it
the requested number of times, releases it in any case, and ends with a summary or the first
failure. Only a run whose record is too large to be kept crashes, before any of it.
-/
namespace TensorBench

/-- What the audience of a run is told. -/
inductive Event where
  | progress (name : String) (done total : Nat)
  | message (line : String)
deriving DecidableEq, Inhabited

/-- A run from some point on, with result `β`. The reply to `execute` is the time it took. -/
inductive Script (β : Type) where
  | done (value : β)
  | setup (resume : Except Failure Unit → Script β)
  | execute (resume : Except Failure Binary64 → Script β)
  | release (resume : Except Failure Unit → Script β)
  | report (event : Event) (next : Script β)
  | pause (milliseconds : Nat) (next : Script β)
  | store (state : RunState) (next : Script β)
  | crash

namespace Run

/-- The fewest iterations that leave a sample besides the warm-up. -/
def minIterations : Nat := 2

/-- Who runs, on which kind of engine, how often and with what pause before each iteration. -/
structure Plan where
  name : String
  kind : String
  iterations : Nat
  cooldown : Nat
deriving DecidableEq, Inhabited

/-- The result of a run whose engine has been released. A failure of the run itself counts before a
failure to release. -/
def verdict (plan : Plan) (state : RunState) (outcome released : Except Failure Unit) :
    Except Failure Summary :=
  match outcome, released with
  | .ok (), .ok () => Summary.ofSamples plan.name state.timings
  | .ok (), .error failure => .error (failure.ofRelease plan.kind)
  | .error failure, _ => .error failure

/-- Record the result and report it. -/
def conclude (plan : Plan) (state : RunState) (result : Except Failure Summary) :
    Script (Except Failure Summary) :=
  match result with
  | .ok summary =>
      .report (.message summary.text) <| .store (state.complete summary) <| .done (.ok summary)
  | .error failure =>
      .report (.message s!"{plan.name} aborted: {failure.message}") <|
        .store (state.fail failure.message) <| .done (.error failure)

/-- Release the engine, whatever happened before. -/
def settle (plan : Plan) (state : RunState) (outcome : Except Failure Unit) :
    Script (Except Failure Summary) :=
  .release fun released => conclude plan state (verdict plan state outcome released)

def cool {β : Type} (milliseconds : Nat) (next : Script β) : Script β :=
  if milliseconds = 0 then next else .pause milliseconds next

/-- The remaining iterations, `index` of them being done. -/
def iterate (plan : Plan) (index : Nat) (state : RunState) :
    Nat → Script (Except Failure Summary)
  | 0 =>
      .report (.progress plan.name plan.iterations plan.iterations) <|
        settle plan state (.ok ())
  | remaining + 1 =>
      .report (.progress plan.name index plan.iterations) <| cool plan.cooldown <|
        .execute fun
          | .error failure => settle plan state (.error failure)
          | .ok milliseconds =>
              .store (state.record milliseconds) <|
                iterate plan (index + 1) (state.record milliseconds) remaining

/-- A whole run. Too few iterations are refused before anything else happens. -/
def script (plan : Plan) : Script (Except Failure Summary) :=
  if plan.iterations < minIterations then
    let failure := Failure.invalidIterations plan.iterations minIterations
    .report (.message s!"{plan.name}: {failure.message}") (.done (.error failure))
  else
    match RunState.start plan.iterations with
    | .error _ => .crash
    | .ok state =>
        .store state <| .report (.message s!"Setting up {plan.name} ({plan.kind})") <|
          .setup fun
            | .error failure => settle plan state (.error failure)
            | .ok () => iterate plan 0 state plan.iterations

end Run

end TensorBench
