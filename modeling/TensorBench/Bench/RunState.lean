import TensorBench.Bench.Summary

/-!
What a variant remembers of its current or last run.
-/
namespace TensorBench

inductive RunStatus where
  | idle
  | running
  | completed
  | failed
deriving DecidableEq, Inhabited

namespace RunStatus

def name : RunStatus → String
  | idle => "idle"
  | running => "running"
  | completed => "completed"
  | failed => "failed"

/-- The status as one capitalised word. -/
def title : RunStatus → String
  | idle => "Idle"
  | running => "Running"
  | completed => "Completed"
  | failed => "Failed"

end RunStatus

/-- The state of a run. `started` and `ended` tell whether the times of those events are known, and
`timings` holds the milliseconds of every iteration, the warm-up included. -/
structure RunState where
  status : RunStatus
  iterations : Nat
  timings : List Binary64
  summary : Option Summary
  started : Bool
  ended : Bool
  error : Option String
deriving DecidableEq, Inhabited

namespace RunState

def initial : RunState := ⟨.idle, 0, [], none, false, false, none⟩

/-- The width in bytes of one timing. -/
def timingSize : Nat := 8

/-- The state at the start of a run; nothing of an earlier run remains. Room for the timings of all
iterations is set aside at once. -/
def start (iterations : Nat) : Except Stop RunState := do
  reserve (iterations * timingSize)
  return ⟨.running, iterations, [], none, true, false, none⟩

def record (state : RunState) (milliseconds : Binary64) : RunState :=
  { state with timings := state.timings ++ [milliseconds] }

def complete (state : RunState) (summary : Summary) : RunState :=
  { state with status := .completed, ended := true, summary := some summary }

def fail (state : RunState) (message : String) : RunState :=
  { state with status := .failed, ended := true, error := some message }

end RunState

end TensorBench
