import Mathlib.Order.Basic
import TensorBench.Words

/-!
Element counts of shapes. A position in rows of one width is a row and a column. A checked product is
the product, and an axis splits it into the rows in front of the axis and the length of a row. What
wraps around never grows, and below the limit nothing does.
-/
namespace TensorBench

/-! ### Rows of one width -/

theorem mul_add_lt {a b A B : Nat} (ha : a < A) (hb : b < B) : a * B + b < A * B := by
  calc
    a * B + b < a * B + B := Nat.add_lt_add_left hb _
    _ = (a + 1) * B := (Nat.succ_mul a B).symm
    _ ≤ A * B := Nat.mul_le_mul_right B ha

theorem row_of_position (row width column : Nat) (h : column < width) :
    (row * width + column) / width = row := by
  rw [Nat.mul_comm, Nat.mul_add_div (Nat.zero_lt_of_lt h), Nat.div_eq_of_lt h, Nat.add_zero]

theorem column_of_position (row width column : Nat) (h : column < width) :
    (row * width + column) % width = column := by
  rw [Nat.mul_comm, Nat.mul_add_mod, Nat.mod_eq_of_lt h]

/-! ### Products of lengths -/

namespace Words

theorem wrap_of_lt {n : Nat} (h : n < limit) : wrap n = n := Nat.mod_eq_of_lt h

theorem wrap_le (n : Nat) : wrap n ≤ n := Nat.mod_le n limit

theorem wrap_lt (n : Nat) : wrap n < limit := Nat.mod_lt n (by decide)

theorem wrap_eq_self_iff {n : Nat} : wrap n = n ↔ n < limit :=
  ⟨fun h => h ▸ wrap_lt n, wrap_of_lt⟩

theorem foldlM_mul?_eq_some (factors : List Nat) (start n : Nat)
    (h : factors.foldlM mul? start = some n) : n = start * product factors := by
  induction factors generalizing start with
  | nil =>
    cases h
    exact (Nat.mul_one _).symm
  | cons factor rest ih =>
    rw [List.foldlM_cons, Option.bind_eq_bind, Option.bind_eq_some_iff] at h
    obtain ⟨next, hmul, hrest⟩ := h
    obtain ⟨-, rfl⟩ : start * factor < limit ∧ start * factor = next := by
      simpa [mul?] using hmul
    rw [ih _ hrest, Nat.mul_assoc]
    rfl

theorem product?_eq_some (factors : List Nat) {n : Nat} (h : product? factors = some n) :
    n = product factors := by
  have hn := foldlM_mul?_eq_some factors 1 n h
  rwa [Nat.one_mul] at hn

theorem product_append (front back : List Nat) :
    product (front ++ back) = product front * product back := by
  induction front with
  | nil => exact (Nat.one_mul _).symm
  | cons factor rest ih =>
    change factor * product (rest ++ back) = factor * product rest * product back
    rw [ih, Nat.mul_assoc]

/-- The rows in front of an axis times the length of a row. -/
theorem product_split (shape : List Nat) (axis : Nat) :
    product shape = product (shape.take axis) * product (shape.drop axis) := by
  rw [← product_append, List.take_append_drop]

theorem product_pos (factors : List Nat) (h : 0 ∉ factors) : 0 < product factors := by
  induction factors with
  | nil => exact Nat.one_pos
  | cons factor rest ih =>
    rw [List.mem_cons, not_or] at h
    exact Nat.mul_pos (Nat.pos_of_ne_zero (Ne.symm h.1)) (ih h.2)

end Words

end TensorBench
