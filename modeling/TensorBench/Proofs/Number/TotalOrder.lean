import Mathlib
import TensorBench.Number.Exact

/-!
The total order of double precision patterns. Numbers are ordered by their exact values, and patterns
that are no numbers lie outside of them. Each pattern has a rank, its place when all patterns are laid
out in a line; ranks are in the total order, so that sorting by rank is sorting in this order, and only
identical patterns have the same rank.
-/
namespace TensorBench

/-- The exact value as a rational number. -/
def ExactBinary.toRat (x : ExactBinary) : ℚ :=
  (if x.negative then -1 else 1) * (x.significand * 2 ^ x.exponent)

/-- A number with at most so many binary places is a whole number of them. -/
theorem ExactBinary.toRat_eq_div {x : ExactBinary} (hpositive : x.negative = false) (places : Nat)
    (henough : 0 ≤ x.exponent + places) :
    x.toRat = ((x.significand * 2 ^ (x.exponent + places).toNat : Nat) : ℚ) / 2 ^ places := by
  have hshift : (2 : ℚ) ^ x.exponent * 2 ^ places = 2 ^ (x.exponent + places).toNat := by
    rw [← zpow_natCast, ← zpow_natCast, ← zpow_add₀ two_ne_zero, Int.toNat_of_nonneg henough]
  rw [toRat, hpositive, if_neg Bool.false_ne_true, one_mul, eq_div_iff (by positivity), mul_assoc,
    hshift, Nat.cast_mul, Nat.cast_pow, Nat.cast_ofNat]

namespace Binary64

/-- The pattern without its sign. -/
def magnitude (x : Binary64) : Nat := x.bits.toNat % Words.patterns 63

/-- The last 52 bits. Where they do not belong to a number, the first of them marks a quiet pattern
and the others are its payload. -/
def fraction (x : Binary64) : Nat := x.bits.toNat % Words.patterns 52

/-- The magnitude of both infinities; larger ones are not numbers. -/
def infinity : Nat := 0x7ff0000000000000

/-- The number that a pattern stands for. -/
noncomputable def value (x : Binary64) : EReal :=
  if x.magnitude = infinity then (if x.isNegative then ⊥ else ⊤)
  else (((ExactBinary.ofBinary64 x).toRat : ℝ) : EReal)

/-- The total order of all patterns. Numbers are ordered by their values, minus zero in front of plus
zero. What is not a number is outside of all numbers on the side of its sign, and of two such patterns
of one sign the one with the larger fraction is further out. -/
inductive Precedes : Binary64 → Binary64 → Prop
  | numbers {x y : Binary64} (hx : x.isNaN = false) (hy : y.isNaN = false)
      (h : x.value < y.value ∨
        x.value = y.value ∧ (x.isNegative = true ∨ y.isNegative = false)) : Precedes x y
  | below {x y : Binary64} (hx : x.isNaN = true) (hnegative : x.isNegative = true)
      (hy : y.isNaN = false ∨ y.isNegative = false) : Precedes x y
  | above {x y : Binary64} (hy : y.isNaN = true) (hpositive : y.isNegative = false)
      (hx : x.isNaN = false ∨ x.isNegative = true) : Precedes x y
  | outwards {x y : Binary64} (hx : x.isNaN = true) (hy : y.isNaN = true)
      (hfirst : x.isNegative = false) (hsecond : y.isNegative = false)
      (h : x.fraction ≤ y.fraction) : Precedes x y
  | inwards {x y : Binary64} (hx : x.isNaN = true) (hy : y.isNaN = true)
      (hfirst : x.isNegative = true) (hsecond : y.isNegative = true)
      (h : y.fraction ≤ x.fraction) : Precedes x y

/-! ### Patterns -/

theorem magnitude_lt (x : Binary64) : x.magnitude < 0x8000000000000000 :=
  Nat.mod_lt _ (by decide)

theorem toNat_bits (x : Binary64) :
    x.bits.toNat = (if x.isNegative then 0x8000000000000000 else 0) + x.magnitude := by
  have hbound := x.bits.toNat_lt
  have hsign : x.isNegative = decide (0x8000000000000000 ≤ x.bits.toNat) := by
    rw [isNegative, Bool.eq_iff_iff, bne_iff_ne, decide_eq_true_iff, ne_eq, ← UInt64.toNat_inj,
      UInt64.toNat_shiftRight]
    change ¬ x.bits.toNat >>> 63 = 0 ↔ _
    rw [Nat.shiftRight_eq_div_pow]
    omega
  have hhalf : Words.patterns 63 = 0x8000000000000000 := rfl
  rw [hsign, magnitude, hhalf]
  by_cases hlarge : 0x8000000000000000 ≤ x.bits.toNat
  · rw [decide_eq_true hlarge, if_pos rfl]
    omega
  · rw [decide_eq_false hlarge, if_neg Bool.false_ne_true]
    omega

theorem isNaN_iff (x : Binary64) : x.isNaN = true ↔ infinity < x.magnitude := by
  have hmask : x.bits.toNat &&& 0x7fffffffffffffff = x.bits.toNat % Words.patterns 63 :=
    Nat.and_two_pow_sub_one_eq_mod x.bits.toNat 63
  rw [isNaN, decide_eq_true_iff, GT.gt, UInt64.lt_iff_toNat_lt, UInt64.toNat_and, magnitude,
    ← hmask]
  rfl

theorem isNaN_eq_false_iff (x : Binary64) : x.isNaN = false ↔ x.magnitude ≤ infinity := by
  rw [← Bool.not_eq_true, isNaN_iff, Nat.not_lt]

theorem fraction_eq (x : Binary64) : x.fraction = x.magnitude % 0x10000000000000 := by
  have hpattern := x.toNat_bits
  change x.bits.toNat % 0x10000000000000 = _
  split at hpattern <;> omega

theorem magnitude_of_isNaN {x : Binary64} (h : x.isNaN = true) :
    x.magnitude = infinity + x.fraction := by
  have hbound := x.magnitude_lt
  rw [isNaN_iff, infinity] at h
  rw [fraction_eq, infinity]
  omega

theorem rank_negative {x : Binary64} (hnegative : x.isNegative = true) :
    x.rank = 0x7fffffffffffffff - x.magnitude := by
  have hpattern := x.toNat_bits
  rw [if_pos hnegative] at hpattern
  rw [rank, if_pos hnegative, Words.limit]
  omega

theorem rank_positive {x : Binary64} (hpositive : x.isNegative = false) :
    x.rank = 0x8000000000000000 + x.magnitude := by
  have hpattern := x.toNat_bits
  have hhalf : Words.patterns 63 = 0x8000000000000000 := rfl
  rw [if_neg (Bool.not_eq_true _ ▸ hpositive), Nat.zero_add] at hpattern
  rw [rank, if_neg (Bool.not_eq_true _ ▸ hpositive), hhalf, hpattern]

theorem rank_injective : Function.Injective rank := by
  intro x y hsame
  have hboundx := x.magnitude_lt
  have hboundy := y.magnitude_lt
  have hpatternx := x.toNat_bits
  have hpatterny := y.toNat_bits
  have hbits : x.bits.toNat = y.bits.toNat := by
    cases hx : x.isNegative <;> cases hy : y.isNegative <;>
      simp only [hx, hy, rank_negative, rank_positive, if_true, if_false, reduceCtorEq] at * <;>
      omega
  exact congrArg Binary64.mk (UInt64.toNat_inj.mp hbits)

/-! ### Numbers -/

/-- The least positive number. -/
def least : ℚ := 2 ^ (-1074 : ℤ)

theorem least_pos : 0 < least := zpow_pos two_pos _

/-- How many times the least positive number a magnitude holds. -/
def steps (n : Nat) : Nat :=
  if n / 0x10000000000000 = 0 then n
  else (0x10000000000000 + n % 0x10000000000000) * 2 ^ (n / 0x10000000000000 - 1)

theorem strictMono_steps : StrictMono steps := by
  refine strictMono_nat_of_lt_succ fun n => ?_
  have hpositive : 0 < 2 ^ (n / 0x10000000000000 - 1) := Nat.two_pow_pos _
  unfold steps
  by_cases hlast : n % 0x10000000000000 + 1 = 0x10000000000000
  · -- the first pattern of the next binade
    have hfield : (n + 1) / 0x10000000000000 = n / 0x10000000000000 + 1 := by omega
    have hfraction : (n + 1) % 0x10000000000000 = 0 := by omega
    rw [hfield, hfraction, if_neg (Nat.succ_ne_zero _), Nat.add_sub_cancel, Nat.add_zero]
    split
    · rename_i hsmall
      rw [hsmall]
      omega
    · rename_i hnormal
      have htwice : 2 ^ (n / 0x10000000000000) = 2 * 2 ^ (n / 0x10000000000000 - 1) := by
        rw [← Nat.pow_succ']
        congr 1
        omega
      rw [htwice, ← Nat.mul_assoc]
      exact Nat.mul_lt_mul_of_pos_right (by omega) hpositive
  · have hfield : (n + 1) / 0x10000000000000 = n / 0x10000000000000 := by omega
    have hfraction : (n + 1) % 0x10000000000000 = n % 0x10000000000000 + 1 := by omega
    rw [hfield, hfraction]
    split
    · exact Nat.lt_succ_self n
    · exact Nat.mul_lt_mul_of_pos_right (by omega) hpositive

/-- The exact value has the sign of the pattern, and its fields are those of the magnitude. -/
theorem ofBinary64_fields (x : Binary64) :
    (ExactBinary.ofBinary64 x).negative = x.isNegative ∧
      (x.magnitude / 0x10000000000000 = 0 →
        (ExactBinary.ofBinary64 x).significand = x.magnitude ∧
          (ExactBinary.ofBinary64 x).exponent = -1074) ∧
      (x.magnitude / 0x10000000000000 ≠ 0 →
        (ExactBinary.ofBinary64 x).significand =
            0x10000000000000 + x.magnitude % 0x10000000000000 ∧
          (ExactBinary.ofBinary64 x).exponent = (x.magnitude / 0x10000000000000 : Nat) - 1075) := by
  have hpattern := x.toNat_bits
  have hbound := x.magnitude_lt
  have hfield : x.bits.toNat / Words.patterns 52 % Words.patterns 11 =
      x.magnitude / 0x10000000000000 := by
    change x.bits.toNat / 0x10000000000000 % 0x800 = _
    split at hpattern <;> omega
  have hfraction : x.bits.toNat % Words.patterns 52 = x.magnitude % 0x10000000000000 :=
    x.fraction_eq
  have hsign : (x.bits.toNat / Words.patterns (52 + 11) % 2 == 1) = x.isNegative := by
    change (x.bits.toNat / 0x8000000000000000 % 2 == 1) = _
    rw [Bool.eq_iff_iff, beq_iff_eq]
    cases hnegative : x.isNegative <;> simp only [hnegative, if_true, if_false, reduceCtorEq,
      iff_true, iff_false] at hpattern ⊢ <;> omega
  have hbias : (Words.patterns (11 - 1) : Int) - 1 + (52 : Nat) = 1075 := rfl
  unfold ExactBinary.ofBinary64 ExactBinary.ofFields
  simp only [hfield, hfraction, hsign, hbias]
  by_cases hsmall : x.magnitude / 0x10000000000000 = 0
  · rw [if_pos hsmall]
    have hwhole : x.magnitude % 0x10000000000000 = x.magnitude := by omega
    exact ⟨rfl, fun _ => ⟨hwhole, rfl⟩, fun hnormal => absurd hsmall hnormal⟩
  · rw [if_neg hsmall]
    exact ⟨rfl, fun hsubnormal => absurd hsubnormal hsmall, fun _ => ⟨rfl, rfl⟩⟩

theorem toRat_ofBinary64 (x : Binary64) :
    (ExactBinary.ofBinary64 x).toRat =
      (if x.isNegative then -1 else 1) * (steps x.magnitude * least) := by
  obtain ⟨hsign, hsubnormal, hnormal⟩ := x.ofBinary64_fields
  rw [ExactBinary.toRat, hsign]
  congr 1
  unfold steps least
  by_cases hsmall : x.magnitude / 0x10000000000000 = 0
  · obtain ⟨hsignificand, hexponent⟩ := hsubnormal hsmall
    rw [hsignificand, hexponent, if_pos hsmall]
  · obtain ⟨hsignificand, hexponent⟩ := hnormal hsmall
    have hsplit : (x.magnitude / 0x10000000000000 : Nat) - (1075 : ℤ) =
        (x.magnitude / 0x10000000000000 - 1 : Nat) + (-1074 : ℤ) := by omega
    rw [hsignificand, hexponent, if_neg hsmall, hsplit, zpow_add₀ two_ne_zero, zpow_natCast,
      Nat.cast_mul, Nat.cast_pow, Nat.cast_ofNat, mul_assoc]

/-- The distance from zero of a magnitude that is a number. -/
noncomputable def extent (n : Nat) : EReal :=
  if n = infinity then ⊤ else (((steps n * least : ℚ) : ℝ) : EReal)

theorem value_eq_extent (x : Binary64) :
    x.value = if x.isNegative then -extent x.magnitude else extent x.magnitude := by
  unfold value extent
  rw [toRat_ofBinary64]
  by_cases hinfinite : x.magnitude = infinity
  · rw [if_pos hinfinite, if_pos hinfinite, EReal.neg_top]
  · rw [if_neg hinfinite, if_neg hinfinite]
    cases x.isNegative with
    | true => rw [if_pos rfl, if_pos rfl, neg_one_mul, Rat.cast_neg, EReal.coe_neg]
    | false => rw [if_neg Bool.false_ne_true, if_neg Bool.false_ne_true, one_mul]

theorem extent_lt_extent {m n : Nat} (hnumber : n ≤ infinity) (hless : m < n) :
    extent m < extent n := by
  unfold extent
  rw [if_neg (Nat.ne_of_lt (Nat.lt_of_lt_of_le hless hnumber))]
  split
  · exact EReal.coe_lt_top _
  · rw [EReal.coe_lt_coe_iff, Rat.cast_lt]
    exact mul_lt_mul_of_pos_right (Nat.cast_lt.mpr (strictMono_steps hless)) least_pos

theorem extent_zero : extent 0 = 0 := by
  have hzero : steps 0 = 0 := rfl
  rw [extent, if_neg (by decide), hzero, Nat.cast_zero, zero_mul, Rat.cast_zero, EReal.coe_zero]

theorem extent_le_iff {m n : Nat} (hm : m ≤ infinity) (hn : n ≤ infinity) :
    extent m ≤ extent n ↔ m ≤ n := by
  constructor
  · intro hle
    by_contra hmore
    exact absurd hle (not_le_of_gt (extent_lt_extent hm (Nat.lt_of_not_le hmore)))
  · intro hle
    rcases Nat.lt_or_eq_of_le hle with hless | rfl
    · exact le_of_lt (extent_lt_extent hn hless)
    · exact le_refl _

theorem extent_nonneg {n : Nat} (hnumber : n ≤ infinity) : 0 ≤ extent n := by
  rw [← extent_zero, extent_le_iff (Nat.zero_le _) hnumber]
  exact Nat.zero_le n

/-! ### The total order -/

/-- Numbers are ordered like their ranks. -/
theorem rank_le_rank_iff {x y : Binary64} (hx : x.isNaN = false) (hy : y.isNaN = false) :
    x.rank ≤ y.rank ↔ x.value < y.value ∨
      x.value = y.value ∧ (x.isNegative = true ∨ y.isNegative = false) := by
  have hboundx := x.magnitude_lt
  have hboundy := y.magnitude_lt
  rw [isNaN_eq_false_iff] at hx hy
  have hle := extent_le_iff hx hy
  have hge := extent_le_iff hy hx
  have hnonnegx := extent_nonneg hx
  have hnonnegy := extent_nonneg hy
  rw [value_eq_extent, value_eq_extent]
  cases hsignx : x.isNegative with
  | true =>
    rw [rank_negative hsignx]
    cases hsigny : y.isNegative with
    | true =>
      rw [rank_negative hsigny]
      simp only [if_true, true_or, and_true, EReal.neg_lt_neg_iff, neg_inj]
      rw [eq_comm, ← le_iff_lt_or_eq, hge]
      omega
    | false =>
      rw [rank_positive hsigny]
      have hapart : -extent x.magnitude ≤ extent y.magnitude :=
        le_trans (EReal.neg_le_zero.mpr hnonnegx) hnonnegy
      simp only [if_true, if_false, reduceCtorEq, true_or, and_true, ← le_iff_lt_or_eq, hapart,
        iff_true]
      omega
  | false =>
    rw [rank_positive hsignx]
    cases hsigny : y.isNegative with
    | true =>
      rw [rank_negative hsigny]
      have hapart : -extent y.magnitude ≤ extent x.magnitude :=
        le_trans (EReal.neg_le_zero.mpr hnonnegy) hnonnegx
      simp only [if_true, if_false, reduceCtorEq, or_false, and_false, not_lt_of_ge hapart,
        iff_false]
      omega
    | false =>
      rw [rank_positive hsigny]
      simp only [if_false, reduceCtorEq, or_true, and_true, ← le_iff_lt_or_eq, hle]
      omega

/-- Numbers are in the middle, as far from one end as from the other. -/
theorem rank_of_number {x : Binary64} (hnumber : x.isNaN = false) :
    0x7fffffffffffffff - infinity ≤ x.rank ∧ x.rank ≤ 0x8000000000000000 + infinity := by
  rw [isNaN_eq_false_iff] at hnumber
  cases hsign : x.isNegative with
  | true =>
    rw [rank_negative hsign]
    omega
  | false =>
    rw [rank_positive hsign]
    omega

/-- Negative patterns that are no numbers lie below, further out with a larger fraction. -/
theorem rank_below {x : Binary64} (hnan : x.isNaN = true) (hnegative : x.isNegative = true) :
    x.rank + infinity + x.fraction = 0x7fffffffffffffff ∧ 0 < x.fraction := by
  have houtside := (isNaN_iff x).mp hnan
  have hbound := x.magnitude_lt
  have hmagnitude := magnitude_of_isNaN hnan
  rw [rank_negative hnegative]
  omega

/-- Positive ones lie above. -/
theorem rank_above {x : Binary64} (hnan : x.isNaN = true) (hpositive : x.isNegative = false) :
    x.rank = 0x8000000000000000 + infinity + x.fraction ∧ 0 < x.fraction := by
  have houtside := (isNaN_iff x).mp hnan
  have hmagnitude := magnitude_of_isNaN hnan
  rw [rank_positive hpositive]
  omega

theorem precedes_of_rank_le {x y : Binary64} (hle : x.rank ≤ y.rank) : Precedes x y := by
  cases hx : x.isNaN with
  | false =>
    cases hy : y.isNaN with
    | false => exact .numbers hx hy ((rank_le_rank_iff hx hy).mp hle)
    | true =>
      refine .above hy ?_ (.inl hx)
      by_contra hnegative
      have houtside := rank_below hy (Bool.eq_true_of_not_eq_false hnegative)
      have hinside := rank_of_number hx
      omega
  | true =>
    cases hsignx : x.isNegative with
    | true =>
      cases hy : y.isNaN with
      | false => exact .below hx hsignx (.inl hy)
      | true =>
        cases hsigny : y.isNegative with
        | true =>
          have hfirst := rank_below hx hsignx
          have hsecond := rank_below hy hsigny
          exact .inwards hx hy hsignx hsigny (by omega)
        | false => exact .below hx hsignx (.inr hsigny)
    | false =>
      have hfirst := rank_above hx hsignx
      cases hy : y.isNaN with
      | false =>
        have hinside := rank_of_number hy
        omega
      | true =>
        cases hsigny : y.isNegative with
        | true =>
          have hsecond := rank_below hy hsigny
          omega
        | false =>
          have hsecond := rank_above hy hsigny
          exact .outwards hx hy hsignx hsigny (by omega)

theorem Precedes.rank_le {x y : Binary64} (hprecedes : Precedes x y) : x.rank ≤ y.rank := by
  cases hprecedes with
  | numbers hx hy h => exact (rank_le_rank_iff hx hy).mpr h
  | below hx hnegative hy =>
    have houtside := rank_below hx hnegative
    rcases hy with hy | hpositive
    · have hinside := rank_of_number hy
      omega
    · rw [rank_positive hpositive]
      omega
  | above hy hpositive hx =>
    have houtside := rank_above hy hpositive
    rcases hx with hx | hnegative
    · have hinside := rank_of_number hx
      omega
    · rw [rank_negative hnegative]
      omega
  | outwards hx hy hfirst hsecond h =>
    have hinner := rank_above hx hfirst
    have houter := rank_above hy hsecond
    omega
  | inwards hx hy hfirst hsecond h =>
    have houter := rank_below hx hfirst
    have hinner := rank_below hy hsecond
    omega

/-- The order by which patterns are sorted is the total order. -/
theorem totalLe_iff_precedes (x y : Binary64) : totalLe x y = true ↔ Precedes x y := by
  rw [totalLe, decide_eq_true_iff]
  exact ⟨precedes_of_rank_le, Precedes.rank_le⟩

theorem totalLe_total (x y : Binary64) : (totalLe x y || totalLe y x) = true := by
  rw [Bool.or_eq_true, totalLe, totalLe, decide_eq_true_iff, decide_eq_true_iff]
  exact Nat.le_total _ _

theorem totalLe_trans (x y z : Binary64) (hfirst : totalLe x y = true)
    (hsecond : totalLe y z = true) : totalLe x z = true := by
  rw [totalLe, decide_eq_true_iff] at *
  exact Nat.le_trans hfirst hsecond

/-- Only a pattern itself comes both before and after it. -/
theorem Precedes.antisymm {x y : Binary64} (hfirst : Precedes x y) (hsecond : Precedes y x) :
    x = y :=
  rank_injective (Nat.le_antisymm hfirst.rank_le hsecond.rank_le)

end Binary64

end TensorBench
