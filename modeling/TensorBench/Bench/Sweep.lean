import TensorBench.Bench.Summary

/-!
Benchmarks of several variants, one after the other. A failure does not keep the next variant from
its turn; the sweep as a whole fails if any of its benchmarks does.
-/
namespace TensorBench.Sweep

/-- What came of the benchmarks so far, in their order. -/
abbrev Outcomes := List (String × Except Failure Summary)

namespace Outcomes

/-- The summaries of the benchmarks that succeeded. -/
def summaries (outcomes : Outcomes) : List Summary :=
  outcomes.filterMap fun (_, result) => result.toOption

/-- The names of the variants whose benchmarks failed. -/
def failed (outcomes : Outcomes) : List String :=
  outcomes.filterMap fun (name, result) =>
    match result with
    | .ok _ => none
    | .error _ => some name

/-- The failure of the only benchmark there was. -/
def soleFailure? (outcomes : Outcomes) : Option Failure :=
  match outcomes with
  | [(name, .error failure)] => some (.context s!"Benchmark of '{name}' failed" failure)
  | _ => none

/-- Several benchmarks fail by their names, a single one by its own failure. -/
def verdict (outcomes : Outcomes) : Except Failure Unit :=
  match outcomes.soleFailure?, outcomes.failed with
  | some failure, _ => .error failure
  | none, [] => .ok ()
  | none, names =>
      .error (.foreign (s!"{names.length} of {outcomes.length} variants failed: " ++
        ", ".intercalate names))

end Outcomes

/-- Who is told before a benchmark and after it. -/
structure Audience (m : Type → Type) where
  start : String → m Unit
  done : String → Except Failure Summary → m Unit

/-- Benchmark the variants of some names. -/
def run {m : Type → Type} [Monad m] (audience : Audience m)
    (benchmark : String → m (Except Failure Summary)) : List String → m Outcomes
  | [] => return []
  | name :: rest => do
      audience.start name
      let result ← benchmark name
      audience.done name result
      return (name, result) :: (← run audience benchmark rest)

end TensorBench.Sweep
