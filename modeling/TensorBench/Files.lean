import TensorBench.Failure
import TensorBench.Json.Decode
import TensorBench.Json.Reader
import TensorBench.Weights.Raw

/-!
The files a program works with. Whoever holds the files says how a path is read and written; what a
program makes of their contents does not depend on it.
-/
namespace TensorBench

/-- What reading a file gives: its bytes, or the reason why it cannot be read. -/
abbrev Contents := Except String Bytes

/-- Operations on files; each one that fails gives a reason. -/
structure Files (m : Type → Type) where
  read : String → m Contents
  write : String → Bytes → m (Except String Unit)
  /-- Make a directory and those it lies in, as far as they are missing. -/
  makeDirectories : String → m (Except String Unit)
  /-- Make an empty file, unless it is there. -/
  touch : String → m (Except String Unit)
  isPresent : String → m Bool

/-- The same files among computations of another kind. -/
def Files.lift {m n : Type → Type} [MonadLiftT m n] (files : Files m) : Files n where
  read path := liftM (files.read path)
  write path bytes := liftM (files.write path bytes)
  makeDirectories path := liftM (files.makeDirectories path)
  touch path := liftM (files.touch path)
  isPresent path := liftM (files.isPresent path)

namespace Contents

def text (contents : Contents) : Except String String :=
  match contents with
  | .error reason => .error reason
  | .ok bytes =>
      match String.fromUTF8? ⟨bytes.toArray⟩ with
      | some text => .ok text
      | none => .error "stream did not contain valid UTF-8"

/-- The contents of a file that the setup of an engine needs. -/
def needed (engine path : String) (contents : Contents) : Except Failure Bytes :=
  match contents with
  | .ok bytes => .ok bytes
  | .error reason => .error (.setupFrom engine s!"cannot read {path}" (.foreign reason))

/-- A value written as JSON in a file that the setup of an engine needs. -/
def neededJson {β : Type} (engine path what : String) (decode : Decoder β) (contents : Contents) :
    Except Failure β := do
  let bytes ← contents.needed engine path
  let malformed (reason : String) : Failure :=
    .setupFrom engine s!"malformed {what}" (.foreign reason)
  match Json.parseBytes? ⟨bytes.toArray⟩ with
  | none => .error (malformed "the text is not JSON")
  | some json =>
      match decode json with
      | .ok value => .ok value
      | .error fault => .error (malformed fault.message)

end Contents

namespace Files

variable {m : Type → Type} [Monad m]

/-- The contents of several files, for looking them up later. -/
def gather (files : Files m) : List String → m (List (String × Contents))
  | [] => return []
  | path :: rest => do
      let contents ← files.read path
      return (path, contents) :: (← files.gather rest)

def lookUp (gathered : List (String × Contents)) (path : String) : Contents :=
  ((gathered.find? (·.1 == path)).map (·.2)).getD (.error "the file was not read")

/-- Write files one after the other, up to the first that cannot be written. -/
def writeEach (files : Files m) : List (String × Bytes) → m (Except Failure Unit)
  | [] => return .ok ()
  | (path, bytes) :: rest => do
      match ← files.write path bytes with
      | .error reason => return .error (.io reason)
      | .ok () => files.writeEach rest

/-- Write files into a directory, which is made if necessary. -/
def writeInto (files : Files m) (directory : String) (entries : List (String × Bytes)) :
    m (Except Failure Unit) := do
  match ← files.makeDirectories directory with
  | .error reason => return .error (.io reason)
  | .ok () => files.writeEach entries

end Files

def utf8 (text : String) : Bytes := text.toUTF8.toList

end TensorBench
