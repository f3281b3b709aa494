import TensorBench.Number.Binary32
import TensorBench.Words

/-!
Double precision numbers as their bit patterns, with the total order that sorts every pattern,
NaNs and signed zeros included.
-/
namespace TensorBench

structure Binary64 where
  bits : UInt64
deriving DecidableEq, Inhabited

namespace Binary64

@[inline] def toNative (x : Binary64) : Float := Float.ofBits x.bits

@[inline] def ofNative (x : Float) : Binary64 := ⟨x.toBits⟩

def isNegative (x : Binary64) : Bool := x.bits >>> 63 != 0

def isNaN (x : Binary64) : Bool := x.bits &&& 0x7fffffffffffffff > 0x7ff0000000000000

def isFinite (x : Binary64) : Bool := x.bits &&& 0x7ff0000000000000 != 0x7ff0000000000000

def add (a b : Binary64) : Binary64 := ofNative (a.toNative + b.toNative)

def sub (a b : Binary64) : Binary64 := ofNative (a.toNative - b.toNative)

def mul (a b : Binary64) : Binary64 := ofNative (a.toNative * b.toNative)

def div (a b : Binary64) : Binary64 := ofNative (a.toNative / b.toNative)

def sqrt (a : Binary64) : Binary64 := ofNative a.toNative.sqrt

def zero : Binary64 := ⟨0⟩

def negZero : Binary64 := ⟨0x8000000000000000⟩

def ofNat (n : Nat) : Binary64 := ofNative n.toUInt64.toFloat

/-- Position in the total order: negative patterns descend below zero, the others ascend. -/
def rank (x : Binary64) : Nat :=
  if x.isNegative then Words.limit - 1 - x.bits.toNat
  else Words.patterns 63 + x.bits.toNat

/-- The total order of the bit patterns, from the negative NaNs to the positive ones. -/
def totalLe (a b : Binary64) : Bool := a.rank ≤ b.rank

def toSingle (x : Binary64) : Binary32 := .ofNative x.toNative.toFloat32

end Binary64

def Binary32.toDouble (x : Binary32) : Binary64 := .ofNative x.toNative.toFloat

end TensorBench
