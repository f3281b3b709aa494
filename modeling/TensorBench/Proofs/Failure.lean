import TensorBench.Failure
import TensorBench.Proofs.Sequencing

/-!
Computations that may crash. One that can only fail keeps its result among them, and its failure is
never a crash. A buffer can be set aside exactly if its size is within the limit, and an array exactly
if there is room for it.
-/
namespace TensorBench

namespace Stop

variable {α : Type} {x : Except Failure α}

@[simp] theorem lift_ok (a : α) : (liftM (.ok a : Except Failure α) : Except Stop α) = .ok a := rfl

@[simp] theorem lift_error (failure : Failure) :
    (liftM (.error failure : Except Failure α) : Except Stop α) = .error (.failed failure) := rfl

@[simp] theorem lift_eq_ok_iff {a : α} : (liftM x : Except Stop α) = .ok a ↔ x = .ok a := by
  cases x <;> simp

theorem lift_eq_error_iff {stop : Stop} :
    (liftM x : Except Stop α) = .error stop ↔ ∃ failure, x = .error failure ∧ stop = .failed failure := by
  cases x <;> simp [eq_comm]

theorem lift_bind {β : Type} (f : α → Except Failure β) :
    (liftM (x >>= f) : Except Stop β) = liftM x >>= fun a => liftM (f a) := by
  cases x <;> rfl

theorem lift_ne_crashed : (liftM x : Except Stop α) ≠ .error .crashed := by
  cases x <;> simp

end Stop

theorem reserve_eq_ok_iff {bytes : Nat} : reserve bytes = .ok () ↔ bytes ≤ Words.maxBuffer := by
  unfold reserve
  split <;> simp [*]

theorem reserve_crashes {bytes : Nat} (h : Words.maxBuffer < bytes) :
    reserve bytes = .error .crashed :=
  if_neg (Nat.not_le.mpr h)

/-- There is room for an array of the shape: a buffer for its elements. -/
def HasRoom (shape : List Nat) : Prop := reserveArray shape = .ok ()

theorem hasRoom_iff (shape : List Nat) :
    HasRoom shape ↔ Words.product (shape.filter (· ≠ 0)) ≤ Words.maxBuffer ∧
      Words.product shape * Words.elementSize ≤ Words.maxBuffer := by
  unfold HasRoom reserveArray
  split
  · rename_i hlarge
    exact ⟨nofun, fun h => absurd h.1 (Nat.not_le.mpr hlarge)⟩
  · rename_i hcounted
    exact reserve_eq_ok_iff.trans (iff_and_self.mpr fun _ => Nat.not_lt.mp hcounted)

theorem reserveArray_crashes {shape : List Nat} (h : ¬ HasRoom shape) :
    reserveArray shape = .error .crashed := by
  unfold HasRoom reserveArray at h
  unfold reserveArray
  split
  · rfl
  · rename_i hcounted
    rw [if_neg hcounted] at h
    exact reserve_crashes (Nat.lt_of_not_le fun hsize => h (reserve_eq_ok_iff.mpr hsize))

/-- Where no extent is zero the bytes alone decide. -/
theorem hasRoom_iff_of_pos {shape : List Nat} (h : ∀ extent ∈ shape, 0 < extent) :
    HasRoom shape ↔ Words.product shape * Words.elementSize ≤ Words.maxBuffer := by
  have hall : shape.filter (· ≠ 0) = shape :=
    List.filter_eq_self.mpr fun extent hmem => decide_eq_true (Nat.ne_of_gt (h extent hmem))
  rw [hasRoom_iff, hall]
  refine and_iff_right_of_imp fun hsize => Nat.le_trans ?_ hsize
  exact Nat.le_mul_of_pos_right _ (by decide)

/-- Where there is room for an array, there is room for one with fewer elements. -/
theorem HasRoom.mono {one other : List Nat} (h : HasRoom other) (hone : ∀ extent ∈ one, 0 < extent)
    (hother : ∀ extent ∈ other, 0 < extent) (hle : Words.product one ≤ Words.product other) :
    HasRoom one :=
  (hasRoom_iff_of_pos hone).mpr
    (Nat.le_trans (Nat.mul_le_mul_right _ hle) ((hasRoom_iff_of_pos hother).mp h))

end TensorBench
