import Mathlib.Tactic.Common
import TensorBench.Expression.Evaluation

/-!
Floor division of words, made from truncated division and a correction by the signs. The corrected
quotient and remainder are the floor and what it leaves, and among all quotients of words only that of
the least one by minus one is no word itself.
-/
namespace TensorBench

/-- A value of the signed words. -/
def Words.IsSigned (value : Int) : Prop := minSigned ≤ value ∧ value ≤ maxSigned

instance (value : Int) : Decidable (Words.IsSigned value) := inferInstanceAs (Decidable (_ ∧ _))

namespace Expr

open Words

theorem checked_eq_ok {value : Int} (h : IsSigned value) : checked value = .ok value := by
  unfold IsSigned at h
  simp [checked, signed?, h]

theorem checked_eq_error {value : Int} (h : ¬ IsSigned value) : checked value = .error .overflow := by
  unfold IsSigned at h
  simp [checked, signed?, h]

/-! ### Correction by the signs -/

theorem floorQuotient_eq_fdiv (a b : Int) (hb : b ≠ 0) : floorQuotient a b = a.fdiv b := by
  rw [floorQuotient, Int.fdiv_eq_tdiv]
  simp only [ne_eq, ← Int.dvd_iff_tmod_eq_zero]
  by_cases hdvd : b ∣ a
  · simp [hdvd]
  · rcases Int.lt_or_gt_of_ne hb with hneg | hpos
    · simp only [hdvd, not_false_eq_true, true_and, if_false, Int.sign_eq_neg_one_of_neg hneg]
      split_ifs <;> simp_all <;> omega
    · simp only [hdvd, not_false_eq_true, true_and, if_false, Int.sign_eq_one_of_pos hpos]
      split_ifs <;> simp_all <;> omega

/-- A truncated remainder has the sign of the dividend. -/
theorem tmod_neg_iff (a b : Int) (h : a.tmod b ≠ 0) : a.tmod b < 0 ↔ a < 0 := by
  have hsign := Int.sign_tmod a b
  rw [if_neg (mt Int.tmod_eq_zero_of_dvd h)] at hsign
  rw [← Int.sign_eq_neg_one_iff_neg, hsign, Int.sign_eq_neg_one_iff_neg]

theorem floorRemainder_eq_fmod (a b : Int) (hb : b ≠ 0) : floorRemainder a b = a.fmod b := by
  have hquotient := floorQuotient_eq_fdiv a b hb
  have hfloor := Int.mul_fdiv_add_fmod a b
  have htruncated := Int.mul_tdiv_add_tmod a b
  rw [← hquotient] at hfloor
  unfold floorQuotient at hfloor
  unfold floorRemainder
  by_cases hzero : a.tmod b = 0
  · simp only [hzero, ne_eq, not_true_eq_false, false_and, if_false] at hfloor ⊢
    omega
  · have hsign := tmod_neg_iff a b hzero
    simp only [ne_eq, hzero, not_false_eq_true, true_and, decide_eq_decide, hsign] at hfloor ⊢
    by_cases hsame : a < 0 ↔ b < 0
    · rw [if_neg (not_not.mpr hsame)] at hfloor ⊢
      omega
    · rw [if_pos hsame, Int.mul_sub] at hfloor
      rw [if_pos hsame]
      omega

/-- A floor remainder lies between zero and the divisor. -/
theorem fmod_between (a b : Int) (hb : b ≠ 0) :
    0 ≤ a.fmod b ∧ a.fmod b < b ∨ b < a.fmod b ∧ a.fmod b ≤ 0 := by
  rcases Int.lt_or_gt_of_ne hb with hneg | hpos
  · have hnonneg := Int.fmod_nonneg_of_pos (-a) (Int.neg_pos_of_neg hneg)
    have hlt := Int.fmod_lt_of_pos (-a) (Int.neg_pos_of_neg hneg)
    rw [Int.neg_fmod_neg] at hnonneg hlt
    omega
  · exact .inl ⟨Int.fmod_nonneg_of_pos a hpos, Int.fmod_lt_of_pos a hpos⟩

/-! ### Ranges -/

theorem natAbs_tdiv_le_half (a b : Int) (h : 2 ≤ b.natAbs) : (a.tdiv b).natAbs ≤ a.natAbs / 2 := by
  rw [Int.natAbs_tdiv]
  exact Nat.div_le_div_left h (by decide)

theorem isSigned_tdiv_iff (a b : Int) (ha : IsSigned a) (hb : b ≠ 0) :
    IsSigned (a.tdiv b) ↔ ¬ (a = minSigned ∧ b = -1) := by
  unfold IsSigned minSigned maxSigned at *
  rcases Nat.lt_or_ge b.natAbs 2 with hunit | hlarge
  · have hunit : b = 1 ∨ b = -1 := by omega
    rcases hunit with rfl | rfl
    · rw [Int.tdiv_one]
      omega
    · rw [Int.tdiv_neg, Int.tdiv_one]
      omega
  · have hhalf := natAbs_tdiv_le_half a b hlarge
    omega

/-- Rounding to the floor instead leaves the words in the same case. -/
theorem isSigned_fdiv_iff (a b : Int) (ha : IsSigned a) (hb : b ≠ 0) :
    IsSigned (a.fdiv b) ↔ ¬ (a = minSigned ∧ b = -1) := by
  rw [← isSigned_tdiv_iff a b ha hb, ← floorQuotient_eq_fdiv a b hb, floorQuotient]
  by_cases hrounded : a.tmod b ≠ 0 ∧ decide (a < 0) ≠ decide (b < 0)
  · have hlarge : 2 ≤ b.natAbs := by
      by_contra hunit
      refine hrounded.1 (Int.tmod_eq_zero_of_dvd (Int.natAbs_dvd.mp ?_))
      rw [show b.natAbs = 1 by omega]
      exact Int.one_dvd a
    have hhalf := natAbs_tdiv_le_half a b hlarge
    rw [if_pos hrounded]
    unfold IsSigned minSigned maxSigned at *
    omega
  · rw [if_neg hrounded]

theorem isSigned_fmod (a b : Int) (hb : IsSigned b) (hne : b ≠ 0) : IsSigned (a.fmod b) := by
  have hbetween := fmod_between a b hne
  unfold IsSigned minSigned maxSigned at *
  omega

end Expr

end TensorBench
