import TensorBench.Bench.Script
import TensorBench.Text.Chars

/-!
Variants: named engines with the state of their runs. An engine is any state with the operations of
`EngineOps`, whose effects live in a monad, and a variant is run by following a script with them.
Whatever crashes on the way, the engine or the run itself, is a crash of the whole computation.
-/
namespace TensorBench

/-- The operations of an engine. Setting up loads it, releasing unloads it and may be repeated. -/
structure EngineOps (m : Type → Type) (ε : Type) where
  kind : ε → String
  isLoaded : ε → Bool
  setup : ε → m (Except Failure Unit × ε)
  execute : ε → m (Except Failure Unit × ε)
  release : ε → m (Except Failure Unit × ε)

/-- The same operations among computations of another kind. -/
def EngineOps.lift {m n : Type → Type} [MonadLiftT m n] {ε : Type} (ops : EngineOps m ε) :
    EngineOps n ε where
  kind := ops.kind
  isLoaded := ops.isLoaded
  setup engine := liftM (ops.setup engine)
  execute engine := liftM (ops.execute engine)
  release engine := liftM (ops.release engine)

/-- The surroundings of a run: a stopwatch, an audience and a way to wait. The stopwatch is started by
one computation, which gives another one that reads it. -/
structure Stage (m : Type → Type) where
  stopwatch : m (m Binary64)
  report : Event → m Unit
  pause : Nat → m Unit

/-- The same surroundings among computations of another kind. -/
def Stage.lift {m n : Type → Type} [Monad n] [MonadLiftT m n] (stage : Stage m) : Stage n where
  stopwatch := do
    let watch ← liftM stage.stopwatch
    return liftM watch
  report event := liftM (stage.report event)
  pause milliseconds := liftM (stage.pause milliseconds)

/-- A named engine, a description for people, and the state of its runs. -/
structure Variant (ε : Type) where
  name : String
  description : Option String
  engine : ε
  state : RunState

namespace Variant

variable {ε : Type}

def create (name : String) (description : Option String) (engine : ε) : Variant ε :=
  ⟨name, description, engine, .initial⟩

/-- The variant in one line, for diagnosis. -/
def debugText (kind : ε → String) (variant : Variant ε) : String :=
  "BenchmarkVariant \x7b name: " ++ Text.quoted variant.name ++ ", engine: " ++
    Text.quoted (kind variant.engine) ++ ", state: " ++ variant.state.status.title ++ " \x7d"

/-- Follow a script with the variant's engine. -/
def follow {m : Type → Type} [Monad m] [Crashing m] (ops : EngineOps m ε) (stage : Stage m)
    {β : Type} : Script β → Variant ε → m (β × Variant ε)
  | .done value, variant => pure (value, variant)
  | .setup resume, variant => do
      let (reply, engine) ← ops.setup variant.engine
      follow ops stage (resume reply) { variant with engine := engine }
  | .execute resume, variant => do
      let watch ← stage.stopwatch
      let (reply, engine) ← ops.execute variant.engine
      let elapsed ← watch
      follow ops stage (resume (reply.map fun _ => elapsed)) { variant with engine := engine }
  | .release resume, variant => do
      let (reply, engine) ← ops.release variant.engine
      follow ops stage (resume reply) { variant with engine := engine }
  | .report event next, variant => do
      stage.report event
      follow ops stage next variant
  | .pause milliseconds next, variant => do
      stage.pause milliseconds
      follow ops stage next variant
  | .store state next, variant => follow ops stage next { variant with state := state }
  | .crash, _ => Crashing.crash

/-- Benchmark the variant. -/
def run {m : Type → Type} [Monad m] [Crashing m] (ops : EngineOps m ε) (stage : Stage m)
    (iterations cooldown : Nat) (variant : Variant ε) :
    m (Except Failure Summary × Variant ε) :=
  follow ops stage
    (Run.script ⟨variant.name, ops.kind variant.engine, iterations, cooldown⟩) variant

end Variant

/-- Variants in the order of their registration, with names that differ. -/
structure Registry (ε : Type) where
  variants : List (Variant ε)

namespace Registry

variable {ε : Type}

def empty : Registry ε := ⟨[]⟩

def names (registry : Registry ε) : List String := registry.variants.map (·.name)

def contains (registry : Registry ε) (name : String) : Bool :=
  registry.variants.any (·.name == name)

/-- Append a variant, unless its name is taken. -/
def register (registry : Registry ε) (variant : Variant ε) : Except Failure (Registry ε) :=
  if registry.contains variant.name then .error (.duplicateVariant variant.name)
  else .ok ⟨registry.variants ++ [variant]⟩

def get (registry : Registry ε) (name : String) : Except Failure (Variant ε) :=
  match registry.variants.find? (·.name == name) with
  | some variant => .ok variant
  | none => .error (.notFound s!"variant '{name}'")

/-- Put a variant in the place of the first one of its name. -/
def replaceIn (variant : Variant ε) : List (Variant ε) → List (Variant ε)
  | [] => []
  | head :: rest =>
      if head.name = variant.name then variant :: rest else head :: replaceIn variant rest

def replace (registry : Registry ε) (variant : Variant ε) : Registry ε :=
  ⟨replaceIn variant registry.variants⟩

/-- Benchmark the variant of a name and keep what became of it. -/
def run {m : Type → Type} [Monad m] [Crashing m] (ops : EngineOps m ε) (stage : Stage m)
    (cooldown : Nat) (registry : Registry ε) (name : String) (iterations : Nat) :
    m (Except Failure Summary × Registry ε) :=
  match registry.get name with
  | .error failure => pure (.error failure, registry)
  | .ok variant => do
      let (result, variant) ← variant.run ops stage iterations cooldown
      pure (result, registry.replace variant)

end Registry

end TensorBench
