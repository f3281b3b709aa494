import TensorBench.Weights.CodeTable
import TensorBench.Weights.Raw

/-!
The eight bit weight encoding. A file is a sequence of records, each with a header of sixteen bytes
and a body of one code per element:

    offset   4 bytes   index of the first element, a signed word
    size     4 bytes   number of codes in the body, a signed word
    scale    4 bytes   pattern of the factor of all magnitudes
    unused   4 bytes
    codes    one byte each

A code's low seven bits choose a magnitude and its high bit is the sign. Records may overlap, and
the last one to cover an element decides it.
-/
namespace TensorBench.Weights.Eightbit

/-- Elements in one record of an encoded file, the last one excepted. -/
def blockLength : Nat := 1024 * 1024

def headerSize : Nat := 16

/-- The header fields of a record; a negative offset or size is none. -/
structure Header where
  offset : Nat
  size : Nat
  scale : UInt32

inductive HeaderFault where
  | truncated
  | negative
deriving DecidableEq

/-- The value of a signed word that is not negative. -/
def unsignedPart? (word : UInt32) : Option Nat :=
  if word < 0x80000000 then some word.toNat else none

/-- The header at the head of the bytes, and the bytes after it. -/
def readHeader : Bytes → Except HeaderFault (Header × Bytes)
  | o0 :: o1 :: o2 :: o3 :: n0 :: n1 :: n2 :: n3 :: s0 :: s1 :: s2 :: s3 ::
      _ :: _ :: _ :: _ :: rest =>
      match unsignedPart? (wordOfBytes o0 o1 o2 o3), unsignedPart? (wordOfBytes n0 n1 n2 n3) with
      | some offset, some size => .ok (⟨offset, size, wordOfBytes s0 s1 s2 s3⟩, rest)
      | _, _ => .error .negative
  | _ => .error .truncated

theorem length_of_readHeader {bytes rest : Bytes} {header : Header}
    (h : readHeader bytes = .ok (header, rest)) : bytes.length = rest.length + headerSize := by
  unfold readHeader at h
  split at h
  · split at h
    · cases h
      rfl
    · cases h
  · cases h

/-- The element a code stands for under a scale. -/
def element {α : Type} [Scalar α] (scale : α) (code : UInt8) : α :=
  let size := Scalar.mul (CodeTable.magnitude (code.toNat % 128)) scale
  if code.toNat < 128 then size else Scalar.neg size

/-- The elements of all 256 codes under one scale. -/
def scaledTable {α : Type} [Scalar α] (scale : α) : Array α :=
  (Array.range 256).map fun code => element scale (UInt8.ofNat code)

/-- The elements of the codes of a record. -/
def expand {α : Type} [Scalar α] (scale : α) (codes : Bytes) : List α :=
  let table := scaledTable scale
  codes.map fun code => table.getD code.toNat Scalar.zero

/-- The first `count` bytes and those after them, if there are so many. -/
def splitBody? (count : Nat) (bytes : Bytes) : Option (Bytes × Bytes) :=
  let body := bytes.take count
  if body.length = count then some (body, bytes.drop count) else none

/-- Decode the records from byte `cursor` of the file on into the buffer. -/
def decodeFrom {α : Type} [Scalar α] (elements cursor : Nat) (buffer : Array α) (bytes : Bytes) :
    Except Failure (Array α) :=
  if bytes.isEmpty then .ok buffer
  else match _h : readHeader bytes with
    | .error .truncated => .error (.corruptWeights s!"truncated chunk header at byte {cursor}")
    | .error .negative =>
        .error (.corruptWeights s!"negative offset or size in chunk header at byte {cursor}")
    | .ok (header, rest) =>
        let stop := header.offset + header.size
        if elements < stop then
          .error (.corruptWeights
            s!"chunk {header.offset}..{stop} exceeds the static region ({elements} elements)")
        else match _hb : splitBody? header.size rest with
          | none =>
              .error (.corruptWeights s!"truncated chunk body at byte {cursor + headerSize}")
          | some (body, later) =>
              decodeFrom elements (cursor + headerSize + header.size)
                (writeFrom buffer header.offset (expand (Scalar.ofBits header.scale) body)) later
termination_by bytes.length
decreasing_by
  have := length_of_readHeader _h
  unfold splitBody? at _hb
  simp only at _hb
  split at _hb
  · cases _hb
    rw [List.length_drop]
    simp only [headerSize] at this
    omega
  · cases _hb

def decode {α : Type} [Scalar α] (bytes : Bytes) (layout : Layout) :
    Except Stop (Array α) := do
  let buffer ← allocate layout
  decodeFrom (layout.fixed.size / Words.elementSize) 0 buffer bytes

/-- The position of the first entry that is not below `x`, or `high` when there is none, searched by
bisection between `low` and `high` of an ascending table. -/
def lowerBound {β : Type} [LT β] [DecidableLT β] (entry : Nat → β) (x : β) :
    Nat → Nat → Nat → Nat
  | 0, low, _ => low
  | steps + 1, low, high =>
      if low < high then
        let middle := (low + high) / 2
        if entry middle < x then lowerBound entry x steps (middle + 1) high
        else lowerBound entry x steps low middle
      else low

section Codes

-- Codes rest on distances, quotients and their order alone, and are defined for all numbers with these.
variable {β : Type} [Sub β] [LT β] [DecidableLT β] [LE β] [DecidableLE β]

/-- The code among 0 to 127 whose entry lies nearest, the smaller one of two equally near. -/
def nearestCode (entry : Nat → β) (x : β) : Nat :=
  let upper := min (lowerBound entry x 8 0 128) 127
  if upper = 0 then 0
  else
    let lower := upper - 1
    if x - entry lower ≤ entry upper - x then lower else upper

variable [Zero β] [One β] [Div β] [Max β] [Abs β]

/-- The largest magnitude of a block, or one when that is not positive. -/
def blockScale (block : List β) : β :=
  let largest := block.foldl (fun m v => max m (Abs.abs v)) 0
  if 0 < largest then largest else 1

/-- The code of a value under a scale. -/
def code (entry : Nat → β) (scale value : β) : UInt8 :=
  let nearest := UInt8.ofNat (nearestCode entry (Abs.abs value / scale))
  if value < 0 then nearest ||| 0x80 else nearest

/-- The codes of a block, all under its own scale. -/
def codes (entry : Nat → β) (block : List β) : List UInt8 :=
  block.map (code entry (blockScale block))

end Codes

def wordBytes (n : Nat) : Bytes := Binary32.toBytes ⟨UInt32.ofNat n⟩

/-- The record of a block that starts at element `start`. Offset and size keep their low 32 bits. -/
def encodeBlock (start : Nat) (block : List Binary32) : Bytes :=
  let table : Array Binary32 := (Array.range 128).map CodeTable.magnitude
  wordBytes start ++ wordBytes block.length ++ (blockScale block).toBytes ++ [0, 0, 0, 0] ++
    codes (fun i => table.getD i Scalar.zero) block

/-- The records of consecutive blocks from element `start` on, all full but the last. -/
def encodeFrom (length start : Nat) (values : List Binary32) : Bytes :=
  if _h : values = [] ∨ length = 0 then []
  else encodeBlock start (values.take length) ++
    encodeFrom length (start + length) (values.drop length)
termination_by values.length
decreasing_by
  have : 0 < values.length := List.length_pos_iff.2 fun he => _h (Or.inl he)
  rw [List.length_drop]
  omega

def encode (values : List Binary32) : Bytes := encodeFrom blockLength 0 values

end TensorBench.Weights.Eightbit
