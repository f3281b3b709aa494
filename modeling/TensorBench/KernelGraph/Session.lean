import TensorBench.KernelGraph.Execution
import TensorBench.Layout.Bind
import TensorBench.Weights.Encoding

/-!
Loaded kernel graphs. Loading binds the layout, decodes the weights and compiles every kernel;
running executes the kernels in order over the one data buffer. Two backends keep the compiled steps
together with the last contents of their outputs, the third compiles anew on every run.
-/
namespace TensorBench

inductive Backend where
  | threaded
  | native
  | fallback
deriving DecidableEq, Inhabited

namespace Backend

def all : List Backend := [threaded, native, fallback]

def name : Backend → String
  | threaded => "threaded"
  | native => "native"
  | fallback => "fallback"

def ofName (text : String) : Except Failure Backend :=
  match all.find? (·.name == text) with
  | some backend => .ok backend
  | none => .error (.validation
      s!"Unknown backend '{text}', expected one of threaded, native, fallback")

def toJson (backend : Backend) : Json := .str backend.name

def ofJson : Decoder Backend := Decode.choice (all.map fun backend => (backend.name, backend))

end Backend

/-- A step and the contents its output had last. -/
structure Planned (α : Type) where
  step : Step
  scratch : List α

structure Session (α : Type) where
  backend : Backend
  layout : Layout
  kernels : List Kernel
  plan : List (Planned α)
  data : Array α
  inputs : List String
  outputs : List String
  requiredHeap : Nat

namespace Session

variable {α : Type} [Scalar α]

/-- Heap is reserved in granules of this many bytes. -/
def heapGranule : Nat := 16 * 1024 * 1024

/-- The granules the buffer fills completely and two more. -/
def heapFor (bytes : Nat) : Nat := (bytes / heapGranule + 2) * heapGranule

/-- A step with an output of zeros. -/
def planned (step : Step) : Planned α := ⟨step, List.replicate step.output.length Scalar.zero⟩

/-- The steps a backend keeps. Every backend compiles every kernel once. -/
def planFor (backend : Backend) (layout : Layout) (kernels : List Kernel) :
    Except Failure (List (Planned α)) := do
  let steps ← kernels.mapM (Step.compile layout)
  return match backend with
    | .fallback => []
    | _ => steps.map planned

/-- Load a graph. The overrides take precedence over the bindings of the graph. -/
def load (graph : KernelGraph) (weights : Bytes) (backend : Backend) (overrides : Bindings) :
    Except Stop (Session α) := do
  let layout ← graph.layout.bind (graph.bindings.extend overrides)
  let encoding ← Encoding.ofName graph.encoding
  let data ← encoding.decode weights layout
  let names := graph.inputs ++ graph.outputs
  liftM (names.forM fun name => discard (layout.placement name))
  let plan ← planFor backend layout graph.kernels
  let bytes ← layout.totalSize
  return ⟨backend, layout, graph.kernels, plan, data, graph.inputs, graph.outputs, heapFor bytes⟩

/-- The elements of an allocation. -/
def tensor (session : Session α) (name : String) : Except Failure (List α) := do
  let placement ← session.layout.placement name
  return (session.data.extract placement.start placement.stop).toList

/-- Write values into an input from a position on, as many as it has room for, and give its
length. -/
def writeInput (session : Session α) (name : String) (position : Nat) (values : List α) :
    Except Failure (Session α × Nat) := do
  if session.inputs.contains name = false then throw (.notFound s!"input '{name}'")
  let placement ← session.layout.placement name
  let data := Weights.writeFrom session.data (placement.start + position)
    (values.take (placement.length - position))
  return ({ session with data := data }, placement.length)

/-- Write values to the head of an input. -/
def setInput (session : Session α) (name : String) (values : List α) :
    Except Failure (Session α × Nat) :=
  session.writeInput name 0 values

/-- Copy the new contents of an output into the buffer. -/
def store? (data : Array α) (output : Slice) (values : List α) : Option (Array α) :=
  if values.length = output.length ∧ output.start + output.length ≤ data.size then
    some (Weights.writeFrom data output.start values)
  else none

/-- Execute planned steps in order. The flag tells whether all of them completed; after one that
crashed, the buffer has what the steps before it wrote. -/
def runPlan (execute : Step → Array α → List α → Option (List α)) (data : Array α) :
    List (Planned α) → Array α × List (Planned α) × Bool
  | [] => (data, [], true)
  | entry :: rest =>
      match execute entry.step data entry.scratch with
      | none => (data, entry :: rest, false)
      | some fresh =>
          match store? data entry.step.output fresh with
          | none => (data, ⟨entry.step, fresh⟩ :: rest, false)
          | some next =>
              let (last, plan, completed) := runPlan execute next rest
              (last, ⟨entry.step, fresh⟩ :: plan, completed)

/-- Compile and execute kernels one after the other, each on an output of zeros. -/
def runKernels (layout : Layout) (data : Array α) : List Kernel → Array α × Except Stop Unit
  | [] => (data, .ok ())
  | kernel :: rest =>
      match Step.compile layout kernel with
      | .error failure => (data, .error (.failed failure))
      | .ok step =>
          let zeros := List.replicate step.output.length Scalar.zero
          match (Execution.executeIndexed step data zeros).bind (store? data step.output) with
          | none => (data, .error .crashed)
          | some next => runKernels layout next rest

def runWith (execute : Step → Array α → List α → Option (List α)) (session : Session α) :
    Session α × Except Stop Unit :=
  let (data, plan, completed) := runPlan execute session.data session.plan
  ({ session with data := data, plan := plan }, if completed then .ok () else .error .crashed)

/-- Run every kernel once. -/
def run (session : Session α) : Session α × Except Stop Unit :=
  match session.backend with
  | .threaded => runWith Execution.executeParallel session
  | .native => runWith Execution.executeSequential session
  | .fallback =>
      let (data, result) := runKernels session.layout session.data session.kernels
      ({ session with data := data }, result)

end Session

end TensorBench
