import TensorBench.Bench.Service
import TensorBench.Ways

/-!
A service with many calls in progress at a time. A call suspends itself wherever it has to wait, and
then others go on; a schedule tells whose turn it is. The configuration is only ever read, so a call
never waits for it. Only one call at a time has the registry, from the moment it gets hold of it
until it answers, and the variant it runs changes in its place in the registry as the run goes on.
-/
namespace TensorBench

/-- The hooks of an engine. -/
inductive Hook where
  | setup
  | execute
  | release
deriving DecidableEq, Inhabited

/-- What a call of a hook has come to when it was polled: it waits, with some of it left, or it is
over. -/
inductive Polled (σ : Type) where
  | pending (rest : σ)
  | ready (reply : Except Failure Unit)

/-- The operations of an engine whose hooks suspend themselves. To call a hook does nothing yet; the
call makes its changes to the engine and the world whenever it is polled. -/
structure AsyncOps (m : Type → Type) (ε σ : Type) where
  kind : ε → String
  isLoaded : ε → Bool
  call : Hook → σ
  poll : σ → ε → m (Polled σ × ε)

/-- An engine whose hooks never suspend themselves. -/
def EngineOps.prompt {m : Type → Type} [Monad m] {ε : Type} (ops : EngineOps m ε) :
    AsyncOps m ε Hook where
  kind := ops.kind
  isLoaded := ops.isLoaded
  call := id
  poll hook engine := do
    let (reply, engine) ← match hook with
      | .setup => ops.setup engine
      | .execute => ops.execute engine
      | .release => ops.release engine
    return (.ready reply, engine)

/-! ### A run in progress -/

/-- Where a run is suspended: before the next thing that its script asks for, such as the end of a
pause, or inside a hook. The script goes on with the reply of the hook. -/
inductive Position (m : Type → Type) (σ β : Type) where
  | before (script : Script β)
  | inside (hook : Hook) (rest : σ) (resume : Except Failure Unit → m (Script β))

namespace Position

variable {m : Type → Type} {ε σ β : Type}

/-- The result of a run that has nothing left to do. -/
def result? : Position m σ β → Option β
  | before (.done value) => some value
  | _ => none

/-- The hook that is polled next. -/
def hook? : Position m σ β → Option Hook
  | before _ => none
  | inside hook _ _ => some hook

variable [Monad m] [Crashing m]

/-- Go on with a run until it may be suspended again. -/
def advance (ops : AsyncOps m ε σ) (stage : Stage m) :
    Position m σ β → Variant ε → m (Position m σ β × Variant ε)
  | before (.done value), variant => pure (before (.done value), variant)
  | before (.setup resume), variant =>
      pure (inside .setup (ops.call .setup) fun reply => pure (resume reply), variant)
  | before (.execute resume), variant => do
      let watch ← stage.stopwatch
      let resumed (reply : Except Failure Unit) : m (Script β) := do
        let elapsed ← watch
        pure (resume (reply.map fun _ => elapsed))
      pure (inside .execute (ops.call .execute) resumed, variant)
  | before (.release resume), variant =>
      pure (inside .release (ops.call .release) fun reply => pure (resume reply), variant)
  | before (.report event next), variant => do
      stage.report event
      pure (before next, variant)
  | before (.pause milliseconds next), variant => do
      stage.pause milliseconds
      pure (before next, variant)
  | before (.store state next), variant => pure (before next, { variant with state := state })
  | before .crash, _ => Crashing.crash
  | inside hook rest resume, variant => do
      let (polled, engine) ← ops.poll rest variant.engine
      match polled with
      | .pending rest => pure (inside hook rest resume, { variant with engine := engine })
      | .ready reply => do
          let script ← resume reply
          pure (before script, { variant with engine := engine })

end Position

/-! ### Calls in progress -/

/-- How far a call has come. A call that runs a variant borrows it from the registry. -/
inductive Phase (m : Type → Type) (ε σ : Type) where
  | called (call : ServiceCall)
  | waiting (errand : Errand)
  | holding (errand : Errand)
  | running (variant : Variant ε) (position : Position m σ (Except Failure Summary))
  | answered (reply : Reply)

/-- A service with its registry, the caller that has it, and how far the calls have come. -/
structure Service (m : Type → Type) (ε σ ι : Type) where
  registry : Registry ε
  holder : Option ι
  progress : ι → Phase m ε σ

/-- What is noted of a step: that the caller got hold of the registry, or that it polled a hook. -/
inductive Mark where
  | acquired
  | polled (hook : Hook)
deriving DecidableEq, Inhabited

/-- The steps that were noted, with their callers, in the order of time. -/
abbrev Trace (ι : Type) := List (ι × Mark)

namespace Trace

variable {ι : Type}

/-- The callers that got hold of the registry, in this order. -/
def acquired (trace : Trace ι) : List ι :=
  trace.filterMap fun
    | (caller, .acquired) => some caller
    | (_, .polled _) => none

/-- The polls of hooks with their callers, in the order of time. -/
def hooks (trace : Trace ι) : List (ι × Hook) :=
  trace.filterMap fun
    | (_, .acquired) => none
    | (caller, .polled hook) => some (caller, hook)

end Trace

namespace Service

variable {m : Type → Type} {ε σ ι : Type} [DecidableEq ι]

/-- A service that nobody has used yet, with calls made to it. -/
def start (registry : Registry ε) (calls : ι → ServiceCall) : Service m ε σ ι :=
  ⟨registry, none, fun caller => .called (calls caller)⟩

def set (service : Service m ε σ ι) (caller : ι) (phase : Phase m ε σ) : Service m ε σ ι :=
  { service with progress := fun other =>
      if other = caller then phase else service.progress other }

@[simp]
theorem set_self (service : Service m ε σ ι) (caller : ι) (phase : Phase m ε σ) :
    (service.set caller phase).progress caller = phase :=
  if_pos rfl

@[simp]
theorem set_of_ne {service : Service m ε σ ι} {caller other : ι} (hdifferent : other ≠ caller)
    (phase : Phase m ε σ) :
    (service.set caller phase).progress other = service.progress other :=
  if_neg hdifferent

@[simp]
theorem set_registry (service : Service m ε σ ι) (caller : ι) (phase : Phase m ε σ) :
    (service.set caller phase).registry = service.registry :=
  rfl

/-- What is true of the new phase and of those of all other calls is true of every phase. -/
theorem forall_set {service : Service m ε σ ι} {caller : ι} {phase : Phase m ε σ}
    {property : ι → Phase m ε σ → Prop} (hown : property caller phase)
    (hothers : ∀ other, other ≠ caller → property other (service.progress other)) (any : ι) :
    property any ((service.set caller phase).progress any) := by
  by_cases hsame : any = caller
  · rw [hsame, set_self]
    exact hown
  · rw [set_of_ne hsame]
    exact hothers any hsame

/-- Give the registry back and answer. -/
def leave (service : Service m ε σ ι) (caller : ι) (reply : Reply) : Service m ε σ ι :=
  { service.set caller (.answered reply) with holder := none }

variable [Monad m] [Crashing m]

/-- Let a call go on until it may be suspended again. Nothing happens if it waits for a registry
that another call has. -/
def poll (ops : AsyncOps m ε σ) (stage : Stage m) (config : RunnerConfig)
    (caller : ι) (service : Service m ε σ ι) : m (Option Mark × Service m ε σ ι) :=
  match service.progress caller with
  | .called call => pure (none, service.set caller (.waiting (call.errand config)))
  | .waiting errand =>
      match service.holder with
      | some _ => pure (none, service)
      | none =>
          pure (some .acquired,
            { service.set caller (.holding errand) with holder := some caller })
  | .holding .list =>
      pure (none, service.leave caller (.listed (service.registry.listing ops.kind)))
  | .holding (.benchmark name iterations) =>
      match service.registry.get name with
      | .error failure => pure (none, service.leave caller (.benchmarked (.error failure)))
      | .ok variant =>
          let plan : Run.Plan :=
            ⟨variant.name, ops.kind variant.engine, iterations, config.cooldown⟩
          pure (none, service.set caller (.running variant (.before (Run.script plan))))
  | .running variant position =>
      match position.result? with
      | some result => pure (none, service.leave caller (.benchmarked result))
      | none => do
          let (next, variant) ← position.advance ops stage variant
          pure (position.hook?.map .polled,
            { service.set caller (.running variant next) with
              registry := service.registry.replace variant })
  | .answered _ => pure (none, service)

/-- Let calls go on in the order of a schedule. -/
def pollAll (ops : AsyncOps m ε σ) (stage : Stage m) (config : RunnerConfig) :
    List ι → Service m ε σ ι → m (Trace ι × Service m ε σ ι)
  | [], service => pure ([], service)
  | caller :: schedule, service => do
      let (mark, service) ← service.poll ops stage config caller
      let (trace, service) ← pollAll ops stage config schedule service
      pure (mark.toList.map (caller, ·) ++ trace, service)

end Service

/-! ### Hooks without interruption -/

section

variable {World ε σ : Type}

/-- What polling a call of a hook again and again comes to in the end. A call that is never over
comes to nothing. -/
inductive AsyncOps.Completes (ops : AsyncOps (Ways World) ε σ) :
    σ → ε → Ways World (Except Failure Unit × ε)
  | ready {call : σ} {engine last : ε} {before after : World} {reply : Except Failure Unit}
      (hpolled : ops.poll call engine before (.ready reply, last) after) :
      Completes ops call engine before (reply, last) after
  | pending {call rest : σ} {engine next : ε} {before between after : World}
      {outcome : Except Failure Unit × ε}
      (hpolled : ops.poll call engine before (.pending rest, next) between)
      (hcompletes : Completes ops rest next between outcome after) :
      Completes ops call engine before outcome after

/-- The operations of the same engine for a run that nothing interrupts. -/
def AsyncOps.uninterrupted (ops : AsyncOps (Ways World) ε σ) : EngineOps (Ways World) ε where
  kind := ops.kind
  isLoaded := ops.isLoaded
  setup := ops.Completes (ops.call .setup)
  execute := ops.Completes (ops.call .execute)
  release := ops.Completes (ops.call .release)

end

end TensorBench
