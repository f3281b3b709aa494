import TensorBench.KernelGraph.Step
import TensorBench.Tensor.Rows

/-!
Three ways to execute a step. Each takes the data buffer and the previous contents of the output and
gives the new contents, or nothing when it would leave a range or cut one into rows of no elements.
The first walks rows and columns together, the second computes every element of the output from its
position, the third runs counted loops over absolute positions.
-/
namespace TensorBench.Execution

variable {α : Type} [Scalar α]

/-- The elements of a range, if it lies inside the buffer. -/
def read? (data : Array α) (slice : Slice) : Option (Array α) :=
  if slice.start + slice.length ≤ data.size then
    some (data.extract slice.start (slice.start + slice.length))
  else none

/-- The elements that the parts of a concatenation contribute to a row. -/
def rowTotal (parts : List (Slice × Nat)) : Nat := parts.foldl (fun sum part => sum + part.2) 0

/-- Products summed from left to right, starting at minus zero. -/
def dot (a b : List α) : α :=
  (List.zipWith Scalar.mul a b).foldl Scalar.add Scalar.negZero

/-! ### Row by row -/

/-- Cut into rows of a positive width, elements that fill no row left out. -/
def rows? {β : Type} (width : Nat) (values : List β) : Option (List (List β)) :=
  if width = 0 then none else some (Rows.split width (values.length / width) values)

/-- New values in front, the old ones behind them. -/
def overlay {β : Type} (fresh old : List β) : List β := fresh ++ old.drop fresh.length

/-- Pair the values with `whole` repeated over and over; `left` is what remains of one round. -/
def zipCycle {β γ : Type} (f : β → γ → β) (whole : List γ) : List β → List γ → List β
  | [], _ => []
  | x :: xs, y :: left => f x y :: zipCycle f whole xs left
  | x :: xs, [] =>
      match whole with
      | [] => []
      | y :: left => f x y :: zipCycle f whole xs left

/-- One row of a concatenation. -/
def joinRow? (data : Array α) (row : Nat) (parts : List (Slice × Nat)) : Option (List α) := do
  let pieces ← parts.mapM fun (slice, share) => do
    let values ← read? data slice
    if (row + 1) * share ≤ values.size then
      some (values.extract (row * share) ((row + 1) * share)).toList
    else none
  some pieces.flatten

def executeSequential (step : Step) (data : Array α) (old : List α) : Option (List α) :=
  match step.operation with
  | .linear inner x w => do
      let x ← read? data x
      let w ← read? data w
      let xRows ← rows? inner x.toList
      let oldRows ← rows? (w.size / inner) old
      let wRows ← rows? inner w.toList
      let fresh := List.zipWith (fun xRow oldRow =>
        overlay ((wRows.map (dot xRow)).take oldRow.length) oldRow) xRows oldRows
      some (overlay fresh.flatten old)
  | .combine function x b => do
      let x ← read? data x
      let b ← read? data b
      let fresh := zipCycle function.apply b.toList x.toList b.toList
      some (overlay (fresh.take old.length) old)
  | .concat parts => do
      let oldRows ← rows? (Words.wrap (rowTotal parts)) old
      let fresh ← oldRows.zipIdx.mapM fun (oldRow, row) => do
        let joined ← joinRow? data row parts
        if joined.length ≤ oldRow.length then some (overlay joined oldRow) else none
      some (overlay fresh.flatten old)
  | .transform function x => do
      let x ← read? data x
      some (overlay ((x.toList.map function.apply).take old.length) old)

/-! ### Element by element -/

/-- The elements of chunk `index` of the given width; the last chunk may be shorter. -/
def chunk (width index : Nat) (values : Array α) : List α :=
  (values.extract (index * width) ((index + 1) * width)).toList

/-- The element at a column of a concatenated row. -/
def partAt? (data : Array α) (row : Nat) : List (Slice × Nat) → Nat → Option α
  | [], _ => none
  | (slice, share) :: rest, column =>
      if column < share then
        if row * share + column < slice.length then data[slice.start + (row * share + column)]?
        else none
      else partAt? data row rest (column - share)

/-- Compute every element from its position and its old value. -/
def byPosition? (old : List α) (element : Nat → α → Option α) : Option (List α) :=
  old.zipIdx.mapM fun (value, position) => element position value

def executeParallel (step : Step) (data : Array α) (old : List α) : Option (List α) :=
  match step.operation with
  | .linear inner x w => do
      let x ← read? data x
      let w ← read? data w
      let outer := w.size / inner
      if inner = 0 ∨ outer = 0 then none
      else byPosition? old fun position value =>
        let row := position / outer
        let unit := position % outer
        if row * inner < x.size ∧ unit * inner < w.size then
          some (dot (chunk inner row x) (chunk inner unit w))
        else some value
  | .combine function x b => do
      let x ← read? data x
      let b ← read? data b
      byPosition? old fun position _ => do
        let left ← x[position]?
        let right ← b[position % b.size]?
        some (function.apply left right)
  | .concat parts =>
      let total := rowTotal parts
      let width := Words.wrap total
      if width = 0 then none
      else byPosition? old fun position _ =>
        -- the last row may be cut short, and no row that is has room for all parts
        if total ≤ min width (old.length - position / width * width) then
          partAt? data (position / width) parts (position % width)
        else none
  | .transform function x => do
      let x ← read? data x
      byPosition? old fun position value => some ((x[position]?.map function.apply).getD value)

/-! ### By counted loops -/

/-- Replace the element at a position that exists. -/
def put? (out : Array α) (position : Nat) (value : α) : Option (Array α) :=
  if position < out.size then some (out.setIfInBounds position value) else none

/-- Run a loop body for every index below a bound. -/
def loop? {σ : Type} (bound : Nat) (state : σ) (body : σ → Nat → Option σ) : Option σ :=
  (List.range bound).foldlM body state

/-- The sum of products of two runs of the buffer, starting at zero. -/
def dotAt? (data : Array α) (x w count : Nat) : Option α :=
  loop? count Scalar.zero fun sum i => do
    let a ← data[x + i]?
    let b ← data[w + i]?
    some (Scalar.add sum (Scalar.mul a b))

def executeIndexed (step : Step) (data : Array α) (old : List α) : Option (List α) :=
  let out := old.toArray
  match step.operation with
  | .linear inner x w =>
      let batch := x.length / inner
      let outer := out.size / batch
      if inner = 0 ∨ batch = 0 then none
      else do
        let out ← loop? batch out fun out row =>
          loop? outer out fun out unit => do
            let sum ← dotAt? data (x.start + row * inner) (w.start + unit * inner) inner
            put? out (row * outer + unit) sum
        some out.toList
  | .combine function x b => do
      let out ← loop? out.size out fun out i => do
        let left ← data[x.start + i]?
        let right ← if b.length = 0 then none else data[b.start + i % b.length]?
        put? out i (function.apply left right)
      some out.toList
  | .concat parts =>
      let width := Words.wrap (rowTotal parts)
      if width = 0 then none
      else do
        let out ← loop? (out.size / width) out fun out row => do
          let (out, _) ← parts.foldlM (fun (out, base) (slice, share) => do
            let out ← loop? share out fun out i => do
              put? out (base + i) (← data[slice.start + row * share + i]?)
            some (out, base + share)) (out, row * width)
          some out
        some out.toList
  | .transform function x => do
      let out ← loop? out.size out fun out i => do
        put? out i (function.apply (← data[x.start + i]?))
      some out.toList

end TensorBench.Execution
