import TensorBench.Bench.Variant
import TensorBench.Files

/-!
What a program needs of the machine it runs on, and how the events of runs are shown on a console.
The progress of a run is a bar that is drawn over one line of a terminal; on any other output the
bar and everything reported while it stands are left out.
-/
namespace TensorBench.CommandLine

structure Host (m : Type → Type) where
  files : Files m
  /-- Write a line to the output. -/
  say : String → m Unit
  /-- Write a line to the output for errors. -/
  complain : String → m Unit
  /-- A stopwatch is started by one computation, which gives another one that reads it. -/
  stopwatch : m (m Binary64)
  pause : Nat → m Unit
  /-- The number of worker threads, unless a variable sets it. -/
  workers : m Nat
  /-- The text of a file of variables, if there is one. -/
  variableFile : m (Option String)

/-- The same machine for computations that may crash. -/
def Host.guarded {m : Type → Type} [Monad m] (host : Host m) : Host (OptionT m) where
  files := host.files.lift
  say line := liftM (host.say line)
  complain line := liftM (host.complain line)
  stopwatch := do
    let watch ← host.stopwatch
    return liftM watch
  pause milliseconds := liftM (host.pause milliseconds)
  workers := liftM host.workers
  variableFile := liftM host.variableFile

/-- Whether a bar stands. -/
abbrev Shown (m : Type → Type) := StateT Bool m

namespace Console

/-- Whether a bar stands after progress has been made. Every run starts a bar of its own. -/
def isStanding (done total : Nat) : Bool := done < total

/-- The line an event leaves on the output for errors, and whether a bar stands afterwards. -/
def show_ (standing : Bool) : Event → Option String × Bool
  | .progress _ done total => (none, isStanding done total)
  | .message line => (if standing then none else some s!"• {line}", standing)

variable {m : Type → Type} [Monad m]

def report (host : Host m) (event : Event) : Shown m Unit := do
  let (line, standing) := show_ (← get) event
  match line with
  | some line => host.complain line
  | none => pure ()
  set standing

/-- The surroundings of runs whose events are shown, unless they are to be quiet. -/
def stage (host : Host m) (quiet : Bool) : Stage (Shown m) where
  stopwatch := do
    let watch ← host.stopwatch
    return liftM watch
  report event := if quiet then pure () else report host event
  pause milliseconds := host.pause milliseconds

end Console

end TensorBench.CommandLine
