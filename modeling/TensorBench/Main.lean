import TensorBench.CommandLine.Program
import TensorBench.Files.Disk

/-!
The program on the machine on which it is started. Only here are files, the clock and the outputs of
the process touched; what is done with them is decided elsewhere.
-/
namespace TensorBench.CommandLine.Process

/-- The reason why the system refused an operation on a file. -/
def reason : IO.Error → String
  | .noFileOrDirectory .. => Disk.missing
  | .permissionDenied .. => Disk.forbidden
  | .alreadyExists .. => Disk.alreadyFile
  | .inappropriateType _ code _ => if code = 20 then Disk.notDirectory else Disk.isDirectory
  | error => toString error

/-- An action with the reason of its failure, if it fails. -/
def attempt {β : Type} (action : IO β) : IO (Except String β) := do
  match ← action.toBaseIO with
  | .ok value => return .ok value
  | .error error => return .error (reason error)

def files : Files IO where
  read path := attempt do return (← IO.FS.readBinFile path).toList
  write path bytes := attempt (IO.FS.writeBinFile path ⟨bytes.toArray⟩)
  makeDirectories path := attempt (IO.FS.createDirAll path)
  touch path := attempt do discard (IO.FS.Handle.mk path .append)
  isPresent path := do
    match ← attempt (IO.FS.realPath path) with
    | .ok _ => return true
    | .error _ => return false

/-- A stopwatch that counts milliseconds. -/
def stopwatch : IO (IO Binary64) := do
  let start ← IO.monoNanosNow
  return do
    let stop ← IO.monoNanosNow
    return .ofNative (Float.ofNat (stop - start) / 1000000.0)

/-- The processors the system lists. -/
def workers : IO Nat := do
  match ← attempt (IO.FS.lines "/proc/cpuinfo") with
  | .ok lines => return max 1 (lines.filter fun line => line.startsWith "processor").size
  | .error _ => return 1

/-- The file of variables of the current directory or of the nearest one around it that has one. -/
def variableFile (path : String) : Nat → IO (Option String)
  | 0 => return none
  | depth + 1 => do
      if ← files.isPresent path then return (← files.read path).text.toOption
      else variableFile ("../" ++ path) depth

/-- How many directories are searched for a file of variables. -/
def maxDepth : Nat := 64

def host : Host IO where
  files := files
  say := IO.println
  complain := IO.eprintln
  stopwatch := stopwatch
  pause milliseconds := IO.sleep milliseconds.toUInt32
  workers := workers
  variableFile := variableFile ".env" maxDepth

/-- An assignment of the form the system keeps. -/
def assignment? (entry : List Char) : Option (String × String) :=
  match entry.dropWhile (· ≠ '=') with
  | [] => none
  | _ :: value => some (String.ofList (entry.takeWhile (· ≠ '=')), String.ofList value)

/-- The variables of the process. -/
def assigned : IO (NameTable String) := do
  match (← files.read "/proc/self/environ").text with
  | .ok text => return .ofList ((Text.splitOnChar '\x00' text.toList).filterMap assignment?)
  | .error _ => return .empty

end TensorBench.CommandLine.Process

def main (words : List String) : IO UInt32 := do
  let assigned ← TensorBench.CommandLine.Process.assigned
  return (← TensorBench.CommandLine.Program.run TensorBench.CommandLine.Process.host assigned
    words).toUInt32
