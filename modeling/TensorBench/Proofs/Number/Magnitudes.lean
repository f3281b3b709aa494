import Mathlib
import TensorBench.Proofs.Number.Alike

/-!
The order of magnitudes. A pattern without a sign that is a number is zero, a significand with an
exponent, or infinity, and these ascend with the patterns. Comparisons of such numbers are therefore
comparisons of natural numbers.
-/
namespace TensorBench.Binary32

open Float.Model (UnpackedFloat Format)
open Float.Model.UnpackedFloat (Sign unpack unpackExponent unpackMantissa unpackSign)

/-- A number without a sign: zero, positive, or infinite. -/
def IsMagnitude (x : Binary32) : Prop := x.bits.toNat ≤ 0x7f800000

theorem toNat_abs (x : Binary32) : x.abs.bits.toNat = x.bits.toNat % 0x80000000 := by
  have hmask := Nat.and_two_pow_sub_one_eq_mod x.bits.toNat 31
  rw [abs, UInt32.toNat_and]
  exact hmask

theorem isMagnitude_abs_iff (x : Binary32) : x.abs.IsMagnitude ↔ x.isNaN = false := by
  rw [IsMagnitude, toNat_abs, ← Bool.not_eq_true, isNaN_iff, Nat.not_lt]

theorem IsMagnitude.isNaN_eq_false {x : Binary32} (h : x.IsMagnitude) : x.isNaN = false := by
  rw [← Bool.not_eq_true, isNaN_iff, Nat.not_lt]
  exact Nat.le_trans (Nat.mod_le _ _) h

/-! ### Patterns and values -/

theorem toNat_exponent (x : Binary32) :
    (@unpackExponent .binary32 x.bits.toBitVec).toNat = x.bits.toNat / 0x800000 % 0x100 := by
  simp [unpackExponent, Nat.shiftRight_eq_div_pow]

theorem toNat_mantissa (x : Binary32) :
    (@unpackMantissa .binary32 x.bits.toBitVec).toNat = x.bits.toNat % 0x800000 := by
  simp [unpackMantissa]

/-- A number is computed with as it is. -/
theorem value_eq_unpack (x : Binary32) (h : x.isNaN = false) :
    x.value = unpack .binary32 x.bits.toBitVec := by
  have hbits : ¬ @UnpackedFloat.isNaNBits .binary32 x.bits.toBitVec = true := by
    intro hnan
    rw [UnpackedFloat.isNaNBits, decide_eq_true_iff] at hnan
    have hexponent : x.bits.toNat / 0x800000 % 0x100 = 255 :=
      (toNat_exponent x).symm.trans (congrArg BitVec.toNat hnan.1)
    have hmantissa : ¬ x.bits.toNat % 0x800000 = 0 := fun hzero =>
      hnan.2 (BitVec.eq_of_toNat_eq ((toNat_mantissa x).trans hzero))
    rw [← Bool.not_eq_true, isNaN_iff] at h
    omega
  change unpack .binary32 (UnpackedFloat.pack .binary32 (unpack .binary32 x.bits.toBitVec)) = _
  rw [UnpackedFloat.pack_unpack, if_neg hbits]

/-- The value that the pattern of a magnitude denotes. -/
inductive Denotes : Nat → UnpackedFloat → Prop where
  | zero : Denotes 0 (.zero .positive)
  | finite (n significand : Nat) (exponent : Int) (hpos : 0 < significand)
      (hn : (n : Int) = significand + (exponent + 149) * 0x800000) (hlt : n < 0x7f800000)
      (hsignificand : significand < 0x1000000)
      (hexponent : exponent = -149 ∨ -149 < exponent ∧ 0x800000 ≤ significand) :
      Denotes n (.finite .positive significand exponent hpos)
  | infinity : Denotes 0x7f800000 (.infinity .positive)

/-- A finite number is its significand at the place of its exponent, from the first binade on with
a leading bit that the pattern leaves out. -/
theorem denotes_of_fields (n significand : Nat) (exponent : Int) (hpos : 0 < significand)
    (hlt : n < 0x7f800000)
    (h : (n < 0x800000 ∧ significand = n ∧ exponent = -149) ∨
      (0x800000 ≤ n ∧ significand = 0x800000 + n % 0x800000 ∧
        exponent = (n / 0x800000 : Nat) - 150)) :
    Denotes n (.finite .positive significand exponent hpos) := by
  refine .finite n significand exponent hpos ?_ hlt ?_ ?_ <;> omega

theorem denotes_finite (x : Binary32) (hpos : 0 < x.bits.toNat)
    (hlt : x.bits.toNat < 0x7f800000) : Denotes x.bits.toNat x.value := by
  have hmagnitude : x.IsMagnitude := Nat.le_of_lt hlt
  have hexponent : (@unpackExponent .binary32 x.bits.toBitVec).toNat = x.bits.toNat / 0x800000 := by
    rw [toNat_exponent, Nat.mod_eq_of_lt (by omega)]
  have hmantissa := toNat_mantissa x
  have hsign : Sign.ofBitVec (@unpackSign .binary32 x.bits.toBitVec) = .positive := by
    have hbit : @unpackSign .binary32 x.bits.toBitVec = 0#1 := by
      apply BitVec.eq_of_toNat_eq
      simp [unpackSign, Nat.shiftRight_eq_div_pow]
      omega
    rw [hbit]
    rfl
  have hfull : ¬ @unpackExponent .binary32 x.bits.toBitVec = -1#_ := fun h => by
    have hfield : x.bits.toNat / 0x800000 = 255 := hexponent.symm.trans (congrArg BitVec.toNat h)
    omega
  rw [value_eq_unpack x hmagnitude.isNaN_eq_false, unpack]
  simp only [hsign]
  rw [if_neg hfull]
  by_cases hsmall : x.bits.toNat < 0x800000
  · have hzero : @unpackExponent .binary32 x.bits.toBitVec = 0#_ :=
      BitVec.eq_of_toNat_eq (hexponent.trans (Nat.div_eq_of_lt hsmall))
    have hfraction : ¬ @unpackMantissa .binary32 x.bits.toBitVec = 0#_ := fun h => by
      have hlow : x.bits.toNat % 0x800000 = 0 := hmantissa.symm.trans (congrArg BitVec.toNat h)
      omega
    rw [if_pos hzero, dif_neg hfraction]
    refine denotes_of_fields _ _ _ _ hlt (Or.inl ⟨hsmall, ?_, ?_⟩)
    · rw [hmantissa, Nat.mod_eq_of_lt hsmall]
    · rw [hzero]
      rfl
  · have hzero : ¬ @unpackExponent .binary32 x.bits.toBitVec = 0#_ := fun h => by
      have hfield : x.bits.toNat / 0x800000 = 0 := hexponent.symm.trans (congrArg BitVec.toNat h)
      omega
    rw [if_neg hzero]
    refine denotes_of_fields _ _ _ _ hlt (Or.inr ⟨Nat.le_of_not_lt hsmall, ?_, ?_⟩)
    · rw [BitVec.toNat_append, hmantissa]
      exact (Nat.two_pow_add_eq_or_of_lt (i := 23) (Nat.mod_lt _ (by decide)) 1).symm
    · rw [hexponent]
      rfl

theorem denotes_value (x : Binary32) (h : x.IsMagnitude) : Denotes x.bits.toNat x.value := by
  by_cases hzero : x.bits.toNat = 0
  · obtain rfl : x = ⟨0⟩ := congrArg Binary32.mk (UInt32.toNat_inj.mp hzero)
    exact .zero
  · by_cases hinf : x.bits.toNat = 0x7f800000
    · obtain rfl : x = ⟨0x7f800000⟩ := congrArg Binary32.mk (UInt32.toNat_inj.mp hinf)
      exact .infinity
    · exact denotes_finite x (by omega) (Nat.lt_of_le_of_ne h hinf)

/-! ### Comparisons -/

/-- Values are ordered like their patterns: first by the exponent, then by the significand. -/
theorem Denotes.compare_eq {m n : Nat} {u v : UnpackedFloat} (hm : Denotes m u)
    (hn : Denotes n v) : u.compare v = some (compare m n) := by
  cases hm with
  | zero =>
    cases hn with
    | zero => rfl
    | finite => exact congrArg some (Nat.compare_eq_lt.mpr (by omega)).symm
    | infinity => rfl
  | finite _ significand exponent =>
    cases hn with
    | zero => exact congrArg some (Nat.compare_eq_gt.mpr (by omega)).symm
    | finite _ significand' exponent' =>
      refine congrArg some ?_
      rcases Int.lt_trichotomy exponent exponent' with h | rfl | h
      · have hmn : m < n := by omega
        rw [compare_lt_iff_lt.mpr h, Nat.compare_eq_lt.mpr hmn]
        rfl
      · rw [compare_eq_iff_eq.mpr rfl]
        change compare significand significand' = compare m n
        rcases Nat.lt_trichotomy significand significand' with h | rfl | h
        · rw [Nat.compare_eq_lt.mpr h, Nat.compare_eq_lt.mpr (by omega)]
        · rw [Nat.compare_eq_eq.mpr rfl, Nat.compare_eq_eq.mpr (by omega)]
        · rw [Nat.compare_eq_gt.mpr h, Nat.compare_eq_gt.mpr (by omega)]
      · have hmn : n < m := by omega
        rw [compare_gt_iff_gt.mpr h, Nat.compare_eq_gt.mpr hmn]
        rfl
    | infinity => exact congrArg some (Nat.compare_eq_lt.mpr (by omega)).symm
  | infinity =>
    cases hn with
    | zero => rfl
    | finite => exact congrArg some (Nat.compare_eq_gt.mpr (by omega)).symm
    | infinity => rfl

theorem less_iff_compare (a b : Binary32) :
    less a b = true ↔ a.value.compare b.value = some .lt := by
  rw [less, decide_eq_true_iff]
  change decide (a.toNative.toModel < b.toNative.toModel) = true ↔ _
  rw [decide_eq_true_iff]
  change UnpackedFloat.lt a.value b.value = true ↔ _
  rw [UnpackedFloat.lt, beq_iff_eq]

theorem lessEq_iff_compare (a b : Binary32) :
    lessEq a b = true ↔ ∃ order, a.value.compare b.value = some order ∧ order.isLE = true := by
  rw [lessEq, decide_eq_true_iff]
  change decide (a.toNative.toModel ≤ b.toNative.toModel) = true ↔ _
  rw [decide_eq_true_iff]
  change UnpackedFloat.le a.value b.value = true ↔ _
  rw [UnpackedFloat.le, Option.any_eq_true]

theorem IsMagnitude.less_iff {a b : Binary32} (ha : a.IsMagnitude) (hb : b.IsMagnitude) :
    less a b = true ↔ a.bits.toNat < b.bits.toNat := by
  rw [less_iff_compare, (denotes_value a ha).compare_eq (denotes_value b hb),
    Option.some.injEq, Nat.compare_eq_lt]

theorem IsMagnitude.le_iff {a b : Binary32} (ha : a.IsMagnitude) (hb : b.IsMagnitude) :
    a ≤ b ↔ a.bits.toNat ≤ b.bits.toNat := by
  change lessEq a b = true ↔ _
  simp [lessEq_iff_compare, (denotes_value a ha).compare_eq (denotes_value b hb),
    Nat.isLE_compare]

theorem less_eq_false_of_isNaN (a b : Binary32) (h : b.isNaN = true) : less a b = false := by
  rw [← Bool.not_eq_true, less_iff_compare, value_of_isNaN b h]
  cases a.value <;> exact nofun

end TensorBench.Binary32
