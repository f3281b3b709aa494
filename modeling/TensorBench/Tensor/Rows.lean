import TensorBench.Number.Scalar

/-!
Lists of elements cut into rows of equal length, and sums that are taken over rows of eight.
-/
namespace TensorBench.Rows

variable {β : Type}

/-- The first `count` rows of the given width; elements behind them are left out. -/
def split (width : Nat) : Nat → List β → List (List β)
  | 0, _ => []
  | count + 1, values => values.take width :: split width count (values.drop width)

@[simp] theorem length_split (width count : Nat) (values : List β) :
    (split width count values).length = count := by
  induction count generalizing values with
  | zero => rfl
  | succ count ih => simp [split, ih]

/-- A sum of many elements: all whole rows of eight are added column by column, the columns in pairs,
and then these to each other and the remaining elements one by one. -/
def sumByEight [Scalar β] (values : List β) : β :=
  let count := values.length / 8
  let columns := (split 8 count values).foldl (List.zipWith Scalar.add)
    (List.replicate 8 Scalar.zero)
  let pairs := List.zipWith Scalar.add (columns.take 4) (columns.drop 4)
  Scalar.sum (pairs ++ values.drop (count * 8))

end TensorBench.Rows
