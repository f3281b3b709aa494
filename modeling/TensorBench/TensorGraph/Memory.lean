import TensorBench.Failure
import TensorBench.TensorGraph.Volume

/-!
Memory accounting. Scopes hold volumes in numbered slots, and all scopes of a pool report the bytes
they take up and give back to one tracker.
-/
namespace TensorBench

/-- Bytes held at the moment, and the most that were held after any insertion. -/
structure Tracker where
  live : Nat
  peak : Nat
deriving DecidableEq, Inhabited

namespace Tracker

def initial : Tracker := ⟨0, 0⟩

def allocate (tracker : Tracker) (bytes : Nat) : Tracker :=
  ⟨tracker.live + bytes, max tracker.peak (tracker.live + bytes)⟩

def free (tracker : Tracker) (bytes : Nat) : Tracker := ⟨tracker.live - bytes, tracker.peak⟩

end Tracker

/-- Slots that are empty or hold a volume, and the bytes of all of them. -/
structure Scope (α : Type) where
  slots : Array (Option (Volume α))
  bytes : Nat
deriving DecidableEq, Inhabited

/-- A scope together with the tracker it reports to. -/
structure Workspace (α : Type) where
  tracker : Tracker
  scope : Scope α
deriving DecidableEq, Inhabited

namespace Scope

variable {α : Type}

def ofSlots (count : Nat) : Scope α := ⟨Array.replicate count none, 0⟩

/-- The volume in a slot. -/
def get (scope : Scope α) (id : Nat) : Except Failure (Volume α) :=
  match scope.slots[id]? with
  | some (some x) => .ok x
  | _ => .error (.notFound s!"tensor {id} is not live")

end Scope

namespace Workspace

variable {α : Type}

def open_ (tracker : Tracker) (slots : Nat) : Workspace α := ⟨tracker, Scope.ofSlots slots⟩

/-- Empty a slot and give its bytes back. -/
def release (space : Workspace α) (id : Nat) : Workspace α :=
  match space.scope.slots[id]? with
  | some (some x) =>
      ⟨space.tracker.free x.bytes,
        ⟨space.scope.slots.setIfInBounds id none, space.scope.bytes - x.bytes⟩⟩
  | _ => space

/-- Put a volume into a slot in place of what it held. -/
def insert (space : Workspace α) (id : Nat) (x : Volume α) : Except Failure (Workspace α) :=
  if id < space.scope.slots.size then
    let emptied := space.release id
    .ok ⟨emptied.tracker.allocate x.bytes,
      ⟨emptied.scope.slots.setIfInBounds id (some x), emptied.scope.bytes + x.bytes⟩⟩
  else .error (.notFound s!"tensor slot {id}")

/-- Close the scope; everything it holds is given back. -/
def close (space : Workspace α) : Tracker := space.tracker.free space.scope.bytes

end Workspace

/-- Any number of scopes over one tracker, numbered in the order of their opening. A closed scope
leaves its number behind. -/
structure Pool (α : Type) where
  tracker : Tracker
  scopes : Array (Option (Scope α))
deriving DecidableEq, Inhabited

namespace Pool

variable {α : Type}

def initial : Pool α := ⟨.initial, #[]⟩

def open_ (pool : Pool α) (slots : Nat) : Pool α :=
  { pool with scopes := pool.scopes.push (some (Scope.ofSlots slots)) }

/-- An open scope. -/
def scope? (pool : Pool α) (number : Nat) : Option (Scope α) := (pool.scopes[number]?).join

/-- The pool with one scope and the tracker taken from a workspace. -/
def update (pool : Pool α) (number : Nat) (space : Workspace α) : Pool α :=
  ⟨space.tracker, pool.scopes.setIfInBounds number (some space.scope)⟩

def insert (pool : Pool α) (number id : Nat) (x : Volume α) : Except Failure (Pool α) :=
  match pool.scope? number with
  | none => .error (.notFound s!"scope {number}")
  | some scope => ((⟨pool.tracker, scope⟩ : Workspace α).insert id x).map (pool.update number)

def release (pool : Pool α) (number id : Nat) : Pool α :=
  match pool.scope? number with
  | none => pool
  | some scope => pool.update number ((⟨pool.tracker, scope⟩ : Workspace α).release id)

def close (pool : Pool α) (number : Nat) : Pool α :=
  match pool.scope? number with
  | none => pool
  | some scope =>
      ⟨(⟨pool.tracker, scope⟩ : Workspace α).close, pool.scopes.setIfInBounds number none⟩

end Pool

end TensorBench
