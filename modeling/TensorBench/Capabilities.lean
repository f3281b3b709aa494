import TensorBench.Json.Basic

/-!
Optional compute paths of a machine. They are reported for information and decide nothing.
-/
namespace TensorBench

structure Capabilities where
  threaded : Bool
  workers : Nat
  simd : Bool
deriving DecidableEq, Inhabited

namespace Capabilities

/-- The paths of a machine with the given number of worker threads and scalar code only. -/
def ofWorkers (workers : Nat) : Capabilities := ⟨1 < workers, workers, false⟩

/-- One line of advice for each path. -/
def advisories (capabilities : Capabilities) : List String :=
  [if capabilities.threaded then
      s!"Threaded backends are available ({capabilities.workers} worker threads)."
    else "Threaded backends will run on a single worker thread; expect no speedup.",
    if capabilities.simd then "SIMD target features are enabled."
    else "SIMD target features are disabled; native kernels use scalar code."]

def toJson (capabilities : Capabilities) : Json :=
  .obj [("threaded", .bool capabilities.threaded), ("worker_threads", .nat capabilities.workers),
    ("simd", .bool capabilities.simd)]

end Capabilities

end TensorBench
