import TensorBench.CommandLine.Program
import TensorBench.Files.Disk

/-!
A machine in memory, on which the program can be run without any effect on the outside: a disk, and
the lines that are written.
-/
namespace TensorBench.CommandLine

structure Machine where
  disk : Disk
  /-- The lines of the output, the latest first. -/
  said : List String
  /-- The lines of the output for errors, the latest first. -/
  complaints : List String
deriving Inhabited

namespace Machine

def onDisk {β : Type} (action : StateM Disk β) : StateM Machine β := fun machine =>
  let (result, disk) := action.run machine.disk
  (result, { machine with disk := disk })

def files : Files (StateM Machine) where
  read path := onDisk (Disk.files.read path)
  write path bytes := onDisk (Disk.files.write path bytes)
  makeDirectories path := onDisk (Disk.files.makeDirectories path)
  touch path := onDisk (Disk.files.touch path)
  isPresent path := onDisk (Disk.files.isPresent path)

/-- Every action takes a millisecond, and there is one worker thread. -/
def host : Host (StateM Machine) where
  files := files
  say line := modify fun machine => { machine with said := line :: machine.said }
  complain line := modify fun machine => { machine with complaints := line :: machine.complaints }
  stopwatch := pure (pure (.ofNative 1.0))
  pause _ := pure ()
  workers := pure 1
  variableFile := do return (← files.read ".env").text.toOption

/-- What a run of the program leaves. -/
structure Result where
  status : Nat
  output : List String
  errors : List String
  disk : Disk

/-- Run the program on a disk. -/
def run (disk : Disk) (assigned : NameTable String) (words : List String) : Result :=
  let (status, machine) := (Program.run host assigned words).run ⟨disk, [], []⟩
  ⟨status, machine.said.reverse, machine.complaints.reverse, machine.disk⟩

end Machine

end TensorBench.CommandLine
