import TensorBench.TensorGraph.Residual

/-!
The engine that runs a residual network on a black image. The network is built from its
configuration alone, and the memory of every execution is accounted for by one tracker.
-/
namespace TensorBench.Residual

open GraphBuilder (engineKind)

/-- Whether convolutions are computed one after the other or side by side. -/
inductive Device where
  | cpu
  | gpu
deriving DecidableEq, Inhabited

namespace Device

def choices : List (String × Device) := [("cpu", cpu), ("gpu", gpu)]

def name : Device → String
  | cpu => "cpu"
  | gpu => "gpu"

end Device

structure Options where
  device : Device
  network : ResidualConfig
deriving DecidableEq, Inhabited

namespace Options

def default : Options := ⟨.cpu, .default⟩

def toJson (options : Options) : Json :=
  .obj (("backend", .str options.device.name) :: options.network.members)

def ofJson : Decoder Options
  | .obj members => do
      let fields ← Decode.ofMembers ("backend" :: ResidualConfig.fieldNames) members
      return {
        device := ← fields.defaulted "backend" (Decode.choice Device.choices) default.device
        network := ← ResidualConfig.ofFields fields }
  | found => .error (.wrongType found "struct ResNetOptions")

end Options

/-- A network, its input, and the logits of the last execution. -/
structure Loaded (α : Type) where
  graph : TensorGraph α
  input : Volume α
  logits : Option (Array α)

structure Engine (α : Type) where
  options : Options
  tracker : Tracker
  loaded : Option (Loaded α)

namespace Engine

variable {α : Type}

def create (options : Options) : Engine α := ⟨options, .initial, none⟩

def isLoaded (engine : Engine α) : Bool := engine.loaded.isSome

variable [Scalar α]

/-- A task that broke off leaves nothing but a reason. -/
def brokenOff (reason : String) : Stop :=
  .failed (.setupFrom engineKind "graph construction panicked" (.foreign reason))

/-- The network, built by a task of its own. A crash of the task, or whatever else makes it break off,
is a failure of the setup. -/
def construct (options : Options) (breakdown : Option String) : Except Stop (TensorGraph α) :=
  match breakdown, Residual.build options.network with
  | some reason, _ => .error (brokenOff reason)
  | none, .error .crashed => .error (brokenOff "task panicked")
  | none, .error (.failed failure) =>
      .error (.failed (failure.duringSetup engineKind "invalid network options"))
  | none, .ok graph => .ok graph

/-- The network and a black image. -/
def load (options : Options) (breakdown : Option String) : Except Stop (Loaded α) := do
  let graph ← construct options breakdown
  let size := options.network.inputSize
  reserveArray [3, size, size]
  return ⟨graph, Volume.full ⟨3, size, size⟩ Scalar.zero, none⟩

/-- Build the network. A setup that fails or crashes leaves the engine as it was. -/
def setup (engine : Engine α) (breakdown : Option String) : Except Stop Unit × Engine α :=
  match load engine.options breakdown with
  | .ok loaded => (.ok (), { engine with loaded := some loaded })
  | .error stop => (.error stop, engine)

/-- Evaluate the network in a scope of its own, which is closed afterwards in any case. -/
def execute (engine : Engine α) : Except Stop Unit × Engine α :=
  match engine.loaded with
  | none => (.error (.failed (.execution engineKind "engine is not loaded")), engine)
  | some loaded =>
      let (result, space) := loaded.graph.evaluate loaded.input (engine.options.device == .gpu)
        (.open_ engine.tracker loaded.graph.nodes.size)
      match result with
      | .ok logits =>
          (.ok (), { engine with
            tracker := space.close, loaded := some { loaded with logits := some logits } })
      | .error stop => (.error stop, { engine with tracker := space.close })

omit [Scalar α] in
def release (engine : Engine α) : Engine α := { engine with loaded := none }

end Engine

end TensorBench.Residual
