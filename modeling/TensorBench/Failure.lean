import TensorBench.Words

/-!
Why an operation of the library fails, and the one place where each cause is put into words.
-/
namespace TensorBench

/-- A cause of failure. `setupFrom` keeps the failure that made a setup impossible, `foreign` is a
cause that comes from the file system, a data format or the user, and `context` says what could not
be done because of another failure. -/
inductive Failure where
  | config (message : String) (reason : Option String)
  | io (reason : String)
  | setup (engine message : String)
  | setupFrom (engine message : String) (source : Failure)
  | execution (engine message : String)
  | finalize (engine message : String)
  | invalidIterations (requested minimum : Nat)
  | insufficientSamples (name : String)
  | duplicateVariant (name : String)
  | unresolvedPlaceholder (detail : String)
  | invalidExpression (expression detail : String)
  | invalidLayout (detail : String)
  | weightSizeMismatch (expected actual : Nat)
  | corruptWeights (detail : String)
  | unsupportedEncoding (name : String)
  | validation (detail : String)
  | notFound (detail : String)
  | foreign (detail : String)
  | context (message : String) (source : Failure)
deriving DecidableEq, Inhabited

namespace Failure

def message : Failure → String
  | config message _ => s!"Configuration error: {message}"
  | io reason => s!"I/O error: {reason}"
  | setup engine message => s!"Setup of '{engine}' failed: {message}"
  | setupFrom engine message _ => s!"Setup of '{engine}' failed: {message}"
  | execution engine message => s!"Execution of '{engine}' failed: {message}"
  | finalize engine message => s!"Finalize of '{engine}' failed: {message}"
  | invalidIterations requested minimum =>
      s!"Invalid iteration count {requested}: at least {minimum} iterations are required"
  | insufficientSamples name =>
      s!"Cannot summarize '{name}': no samples remain after discarding the warm-up sample"
  | duplicateVariant name => s!"Variant '{name}' is already registered"
  | unresolvedPlaceholder detail => s!"Unresolved placeholder: {detail}"
  | invalidExpression expression detail =>
      s!"Invalid placeholder expression '{expression}': {detail}"
  | invalidLayout detail => s!"Invalid memory layout: {detail}"
  | weightSizeMismatch expected actual =>
      s!"Weight size mismatch: expected {expected} bytes but got {actual}"
  | corruptWeights detail => s!"Corrupt weight data: {detail}"
  | unsupportedEncoding name => s!"Unsupported weight encoding: {name}"
  | validation detail => s!"Validation error: {detail}"
  | notFound detail => s!"Not found: {detail}"
  | foreign detail => detail
  | context message _ => message

/-- The failure's own words followed by those of everything that led to it. -/
def chain : Failure → List String
  | config message reason => s!"Configuration error: {message}" :: message :: reason.toList
  | io reason => [s!"I/O error: {reason}", reason]
  | setupFrom engine message source => s!"Setup of '{engine}' failed: {message}" :: source.chain
  | context message source => message :: source.chain
  | failure => [failure.message]

def isSetup : Failure → Bool
  | setup .. => true
  | setupFrom .. => true
  | _ => false

/-- The failure of a release. A failure that is one already keeps its own words. -/
def ofRelease (engine : String) : Failure → Failure
  | finalize kept message => finalize kept message
  | cause => finalize engine cause.message

/-- A setup failure as it is, any other one as the cause of a failed setup. -/
def duringSetup (engine message : String) (failure : Failure) : Failure :=
  if failure.isSetup then failure else setupFrom engine message failure

end Failure

/-- Why a computation stops: a failure it reports, or a crash, after an access outside the bounds of
its data or for want of a buffer that is too large to exist. -/
inductive Stop where
  | failed (failure : Failure)
  | crashed
deriving DecidableEq

/-- Computations that may crash, whatever they were to give. -/
class Crashing (m : Type → Type) where
  crash : {β : Type} → m β

instance {m : Type → Type} [Monad m] : Crashing (OptionT m) := ⟨OptionT.fail⟩

instance {m : Type → Type} {σ : Type} [Crashing m] : Crashing (StateT σ m) :=
  ⟨fun _ => Crashing.crash⟩

/-- Among computations that may crash stand those that can only fail. -/
instance : MonadLift (Except Failure) (Except Stop) := ⟨Except.mapError Stop.failed⟩

/-- Set a buffer of so many bytes aside. -/
def reserve (bytes : Nat) : Except Stop Unit :=
  if bytes ≤ Words.maxBuffer then .ok () else .error .crashed

/-- Set a buffer aside for the elements of an array. The extents that are not zero are multiplied
without regard to those that are. -/
def reserveArray (shape : List Nat) : Except Stop Unit := do
  if Words.maxBuffer < Words.product (shape.filter (· ≠ 0)) then throw .crashed
  reserve (Words.product shape * Words.elementSize)

end TensorBench
