import TensorBench.Files
import TensorBench.Text.Path

/-!
Files held in memory, under one top directory in which relative paths start. They stand in for the
files of a machine wherever a program is to be run without one.
-/
namespace TensorBench

inductive DiskEntry where
  | file (bytes : Bytes)
  | directory
deriving DecidableEq, Inhabited

/-- Entries by the parts of their paths; the top directory has none. The first entry of a path
counts. -/
structure Disk where
  entries : List (List String × DiskEntry)
deriving DecidableEq, Inhabited

namespace Disk

def empty : Disk := ⟨[([], .directory)]⟩

def get? (disk : Disk) (parts : List String) : Option DiskEntry :=
  (disk.entries.find? (·.1 == parts)).map (·.2)

def set (disk : Disk) (parts : List String) (entry : DiskEntry) : Disk :=
  ⟨(parts, entry) :: disk.entries.filter (·.1 != parts)⟩

def missing : String := "No such file or directory (os error 2)"

def notDirectory : String := "Not a directory (os error 20)"

def isDirectory : String := "Is a directory (os error 21)"

def alreadyFile : String := "File exists (os error 17)"

def forbidden : String := "Permission denied (os error 13)"

/-- The parts that a path leads to. What it passes through has to be a directory. -/
def walk (disk : Disk) (here : List String) : List String → Except String (List String)
  | [] => .ok here
  | part :: rest =>
      match disk.get? here with
      | none => .error missing
      | some (.file _) => .error notDirectory
      | some .directory =>
          if part = "" ∨ part = "." then disk.walk here rest
          else if part = ".." then disk.walk here.dropLast rest
          else disk.walk (here ++ [part]) rest

def pieces (path : String) : List String :=
  (Text.splitOnChar '/' path.toList).map String.ofList

def resolve (disk : Disk) (path : String) : Except String (List String) :=
  if path = "" ∨ Path.isAbsolute path then .error missing else disk.walk [] (pieces path)

/-- What a path leads to. -/
def lookUp? (disk : Disk) (path : String) : Option DiskEntry :=
  match disk.resolve path with
  | .ok parts => disk.get? parts
  | .error _ => none

def read (disk : Disk) (path : String) : Contents := do
  match disk.get? (← disk.resolve path) with
  | some (.file bytes) => .ok bytes
  | some .directory => .error isDirectory
  | none => .error missing

def write (disk : Disk) (path : String) (bytes : Bytes) : Except String Unit × Disk :=
  match disk.resolve path with
  | .error reason => (.error reason, disk)
  | .ok parts =>
      match disk.get? parts, disk.get? parts.dropLast with
      | some .directory, _ => (.error isDirectory, disk)
      | _, some .directory => (.ok (), disk.set parts (.file bytes))
      | _, some (.file _) => (.error notDirectory, disk)
      | _, none => (.error missing, disk)

def makeFrom (disk : Disk) (here : List String) : List String → Except String Unit × Disk
  | [] => (.ok (), disk)
  | part :: rest =>
      if part = "" ∨ part = "." then disk.makeFrom here rest
      else if part = ".." then disk.makeFrom here.dropLast rest
      else
        let next := here ++ [part]
        match disk.get? next with
        | some .directory => disk.makeFrom next rest
        | some (.file _) => (.error (if rest.isEmpty then alreadyFile else notDirectory), disk)
        | none => (disk.set next .directory).makeFrom next rest

/-- Make the directories on a path. -/
def makeDirectories (disk : Disk) (path : String) : Except String Unit × Disk :=
  if Path.isAbsolute path then (.error forbidden, disk) else disk.makeFrom [] (pieces path)

/-- Make an empty file, unless it is there. -/
def touch (disk : Disk) (path : String) : Except String Unit × Disk :=
  match disk.read path with
  | .ok _ => (.ok (), disk)
  | .error _ => disk.write path []

/-- Put a file in its place and make the directories around it. -/
def place (disk : Disk) (path : String) (bytes : Bytes) : Disk :=
  ((disk.makeDirectories (Path.parent path)).2.write path bytes).2

/-- The operations on the files of a disk. -/
def files : Files (StateM Disk) where
  read path := do return (← get).read path
  write path bytes := modifyGet fun disk => disk.write path bytes
  makeDirectories path := modifyGet fun disk => disk.makeDirectories path
  touch path := modifyGet fun disk => disk.touch path
  isPresent path := do return ((← get).lookUp? path).isSome

end Disk

end TensorBench
