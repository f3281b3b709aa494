import TensorBench.Number.Scalar

/-!
Single precision numbers as their bit patterns. Reading and writing a pattern keeps every bit, the
payload of a NaN and the sign of zero included; arithmetic rounds once per operation.
-/
namespace TensorBench

structure Binary32 where
  bits : UInt32
deriving DecidableEq, Inhabited

namespace Binary32

@[inline] def toNative (x : Binary32) : Float32 := Float32.ofBits x.bits

@[inline] def ofNative (x : Float32) : Binary32 := ⟨x.toBits⟩

def isNaN (x : Binary32) : Bool := x.bits &&& 0x7fffffff > 0x7f800000

def isFinite (x : Binary32) : Bool := x.bits &&& 0x7f800000 != 0x7f800000

@[inline] def add (a b : Binary32) : Binary32 := ofNative (a.toNative + b.toNative)

@[inline] def sub (a b : Binary32) : Binary32 := ofNative (a.toNative - b.toNative)

@[inline] def mul (a b : Binary32) : Binary32 := ofNative (a.toNative * b.toNative)

@[inline] def div (a b : Binary32) : Binary32 := ofNative (a.toNative / b.toNative)

/-- Flip the sign bit. -/
@[inline] def neg (a : Binary32) : Binary32 := ⟨a.bits ^^^ 0x80000000⟩

/-- Clear the sign bit. -/
@[inline] def abs (a : Binary32) : Binary32 := ⟨a.bits &&& 0x7fffffff⟩

@[inline] def less (a b : Binary32) : Bool := a.toNative < b.toNative

@[inline] def lessEq (a b : Binary32) : Bool := a.toNative ≤ b.toNative

/-- The larger argument; an argument that is not a number loses against any other. -/
@[inline] def max (a b : Binary32) : Binary32 :=
  if a.isNaN then b else if less a b then b else a

def ofNat (n : Nat) : Binary32 := ofNative n.toUInt64.toFloat32

instance : Scalar Binary32 where
  zero := ⟨0⟩
  negZero := ⟨0x80000000⟩
  one := ⟨0x3f800000⟩
  negInf := ⟨0xff800000⟩
  add := add
  sub := sub
  mul := mul
  div := div
  max := max
  neg := neg
  abs := abs
  sqrt x := ofNative x.toNative.sqrt
  exp x := ofNative x.toNative.exp
  tanh x := ofNative x.toNative.tanh
  less := less
  ofNat := ofNat
  ofBits := Binary32.mk

instance : Zero Binary32 := ⟨⟨0⟩⟩

instance : One Binary32 := ⟨⟨0x3f800000⟩⟩

instance : Sub Binary32 := ⟨sub⟩

instance : Div Binary32 := ⟨div⟩

instance : Max Binary32 := ⟨max⟩

instance : Abs Binary32 := ⟨abs⟩

instance : LT Binary32 := ⟨fun a b => less a b = true⟩

instance : LE Binary32 := ⟨fun a b => lessEq a b = true⟩

instance (a b : Binary32) : Decidable (a < b) := inferInstanceAs (Decidable (less a b = true))

instance (a b : Binary32) : Decidable (a ≤ b) := inferInstanceAs (Decidable (lessEq a b = true))

def sin (x : Binary32) : Binary32 := ofNative x.toNative.sin

def cos (x : Binary32) : Binary32 := ofNative x.toNative.cos

/-- The four bytes of the pattern, least significant first. -/
def toBytes (x : Binary32) : List UInt8 :=
  [x.bits.toUInt8, (x.bits >>> 8).toUInt8, (x.bits >>> 16).toUInt8, (x.bits >>> 24).toUInt8]

end Binary32

/-- The word whose bytes are given from the least significant one up. -/
def wordOfBytes (b0 b1 b2 b3 : UInt8) : UInt32 :=
  b0.toUInt32 ||| (b1.toUInt32 <<< 8) ||| (b2.toUInt32 <<< 16) ||| (b3.toUInt32 <<< 24)

end TensorBench
