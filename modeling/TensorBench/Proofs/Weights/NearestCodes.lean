import Mathlib
import TensorBench.Proofs.Number.TotalOrder
import TensorBench.Proofs.Weights.Blocks

/-!
Codes in exact arithmetic. The bisection splits an ascending table into the entries below a magnitude
and the others, so that the nearest entry is the last of the former or the first of the latter. The
code found is the first index at the least distance; hence larger magnitudes have no smaller codes,
and an entry of the table has its own index for a code. The magnitudes of the codes are such a table.
-/
namespace TensorBench.Weights.Eightbit

/-! ### Bisection -/

section Bisection

variable {β : Type} [LinearOrder β] {entry : Nat → β} {x : β} {size low high : Nat}

/-- What a bisection knows of a table of so many entries: those in front of one end are below `x`, and
from the other end on none is. -/
structure Bisects (entry : Nat → β) (x : β) (size low high : Nat) : Prop where
  low_le : low ≤ high
  high_le : high ≤ size
  below : ∀ i < low, entry i < x
  above : ∀ i, high ≤ i → i < size → x ≤ entry i

theorem Bisects.of_table (entry : Nat → β) (x : β) (size : Nat) : Bisects entry x size 0 size :=
  ⟨Nat.zero_le _, Nat.le_refl _, nofun, fun _ hle hlt => absurd hlt (Nat.not_lt.mpr hle)⟩

/-- An entry below `x` moves the lower end behind it. -/
theorem Bisects.raise (h : Bisects entry x size low high)
    (hascending : StrictMonoOn entry (Set.Iio size)) {middle : Nat} (hmiddle : middle < high)
    (hbelow : entry middle < x) : Bisects entry x size (middle + 1) high := by
  refine ⟨hmiddle, h.high_le, fun i hi => ?_, h.above⟩
  have hsize : middle < size := Nat.lt_of_lt_of_le hmiddle h.high_le
  have hle := (hascending.le_iff_le (Nat.lt_of_le_of_lt (Nat.le_of_lt_succ hi) hsize) hsize).mpr
    (Nat.le_of_lt_succ hi)
  exact lt_of_le_of_lt hle hbelow

/-- Any other entry moves the upper end in front of it. -/
theorem Bisects.lower (h : Bisects entry x size low high)
    (hascending : StrictMonoOn entry (Set.Iio size)) {middle : Nat} (hlow : low ≤ middle)
    (hmiddle : middle < high) (habove : ¬ entry middle < x) :
    Bisects entry x size low middle := by
  have hsize : middle < size := Nat.lt_of_lt_of_le hmiddle h.high_le
  refine ⟨hlow, Nat.le_of_lt hsize, h.below, fun i hi hlt => ?_⟩
  exact le_trans (not_lt.mp habove) ((hascending.le_iff_le hsize hlt).mpr hi)

/-- A bisection with as many steps as the length has bits ends where its ends meet. -/
theorem lowerBound_bisects (hascending : StrictMonoOn entry (Set.Iio size)) (steps : Nat)
    (h : Bisects entry x size low high) (hsteps : high - low < 2 ^ steps) :
    Bisects entry x size (lowerBound entry x steps low high)
      (lowerBound entry x steps low high) := by
  fun_induction lowerBound entry x steps low high with
  | case1 low high =>
    have hmeet : high = low := by
      have hle := h.low_le
      rw [Nat.pow_zero] at hsteps
      omega
    rwa [hmeet] at h
  | case2 low high steps hlt middle hbelow ih =>
    rw [Nat.pow_succ] at hsteps
    exact ih (h.raise hascending (by omega) hbelow) (by omega)
  | case3 low high steps hlt middle habove ih =>
    rw [Nat.pow_succ] at hsteps
    exact ih (h.lower hascending (by omega) (by omega) habove) (by omega)
  | case4 steps low high hend =>
    have hmeet : high = low := Nat.le_antisymm (Nat.not_lt.mp hend) h.low_le
    rwa [hmeet] at h

end Bisection

/-! ### Nearest entries -/

section Nearest

variable {K : Type} [Field K] [LinearOrder K] [IsStrictOrderedRing K] {entry : Nat → K} {x y : K}

/-- The smaller of two numbers is at least as near as the larger one to what does not lie beyond their
middle. -/
theorem abs_sub_le_abs_sub_iff {a b : K} (h : a < b) : |x - a| ≤ |x - b| ↔ x - a ≤ b - x := by
  constructor
  · intro hnear
    by_contra hbeyond
    have hfar : |x - b| < x - a := by
      rw [abs_lt]
      constructor <;> linarith
    exact absurd (lt_of_le_of_lt hnear hfar) (not_lt.mpr (le_abs_self _))
  · intro hwithin
    have hright : b - x ≤ |x - b| := by
      rw [abs_sub_comm]
      exact le_abs_self _
    rw [abs_le']
    constructor <;> linarith

/-- The cell of an entry: what lies beyond the middle between it and each smaller entry, but not
beyond the middle between it and any larger one. -/
structure Cell (entry : Nat → K) (i : Nat) (x : K) : Prop where
  lt : i < 128
  beyond : ∀ j < i, entry i - x < x - entry j
  within : ∀ j, i < j → j < 128 → x - entry i ≤ entry j - x

/-- The last entry below `x` is compared with the next one, and `x` is in the cell of the one chosen. -/
theorem cell_nearestCode (hascending : StrictMonoOn entry (Set.Iio 128)) (x : K) :
    Cell entry (nearestCode entry x) x := by
  have hbisects := lowerBound_bisects hascending 8 (.of_table entry x 128) (by decide)
  have hmono {i j : Nat} (hij : i ≤ j) (hj : j < 128) : entry i ≤ entry j :=
    (hascending.le_iff_le (Nat.lt_of_le_of_lt hij hj) hj).mpr hij
  unfold nearestCode
  generalize lowerBound entry x 8 0 128 = bound at *
  generalize hupper : min bound 127 = upper
  simp only
  by_cases hzero : upper = 0
  · -- no entry is below `x`
    rw [if_pos hzero]
    refine ⟨by decide, nofun, fun j _ hj => ?_⟩
    have hfirst := hbisects.above 0 (by omega) (by decide)
    have hother := hbisects.above j (by omega) hj
    linarith
  · rw [if_neg hzero]
    have hlower := hbisects.below (upper - 1) (by omega)
    by_cases hnear : x - entry (upper - 1) ≤ entry upper - x
    · rw [if_pos hnear]
      refine ⟨by omega, fun j hj => ?_, fun j hj hlt => ?_⟩
      · have hle := hmono (Nat.le_of_lt hj) (by omega)
        linarith
      · have hle := hmono (show upper ≤ j by omega) hlt
        linarith
    · rw [if_neg hnear]
      refine ⟨by omega, fun j hj => ?_, fun j hj hlt => ?_⟩
      · have hle := hmono (Nat.le_sub_one_of_lt hj) (by omega)
        linarith
      · -- only an entry that is not below `x` has another one behind it
        have habove := hbisects.above upper (by omega) (by omega)
        have hle := hmono (Nat.le_of_lt hj) hlt
        linarith

/-- What lies in the cell of an entry has it for its first nearest entry. -/
theorem Cell.isLeast {i : Nat} (h : Cell entry i x)
    (hascending : StrictMonoOn entry (Set.Iio 128)) :
    IsLeast {k | k < 128 ∧ ∀ j < 128, |x - entry k| ≤ |x - entry j|} i := by
  have hcloser {j : Nat} (hj : j < i) : |x - entry i| < |x - entry j| := by
    have hlt := hascending (Nat.lt_trans hj h.lt) h.lt hj
    exact not_le.mp fun hle =>
      absurd ((abs_sub_le_abs_sub_iff hlt).mp hle) (not_le.mpr (h.beyond j hj))
  refine ⟨⟨h.lt, fun j hj => ?_⟩, fun k hk => ?_⟩
  · rcases Nat.lt_trichotomy j i with hless | rfl | hmore
    · exact le_of_lt (hcloser hless)
    · exact le_refl _
    · exact (abs_sub_le_abs_sub_iff (hascending h.lt hj hmore)).mpr (h.within j hmore hj)
  · by_contra hbefore
    exact absurd (hk.2 i h.lt) (not_le.mpr (hcloser (Nat.not_le.mp hbefore)))

/-- Larger magnitudes lie in cells that are not further down. -/
theorem Cell.mono {i j : Nat} (hi : Cell entry i x) (hj : Cell entry j y) (h : x ≤ y) : i ≤ j := by
  by_contra hbefore
  have hbeyond := hi.beyond j (Nat.not_le.mp hbefore)
  have hwithin := hj.within i (Nat.not_le.mp hbefore) hi.lt
  linarith

theorem Cell.of_entry (hascending : StrictMonoOn entry (Set.Iio 128)) {i : Nat} (hi : i < 128) :
    Cell entry i (entry i) := by
  refine ⟨hi, fun j hj => ?_, fun j hj hlt => ?_⟩
  · have hless := hascending (Nat.lt_trans hj hi) hi hj
    linarith
  · have hless := hascending hi hlt hj
    linarith

/-- Behind the last entry everything lies in its cell. -/
theorem Cell.of_last_le (hascending : StrictMonoOn entry (Set.Iio 128)) (h : entry 127 ≤ x) :
    Cell entry 127 x := by
  refine ⟨by decide, fun j hj => ?_, fun j hj hlt => absurd hlt (by omega)⟩
  have hless := hascending (show j < 128 by omega) (show 127 < 128 by decide) hj
  linarith

theorem nearestCode_eq {i : Nat} (hascending : StrictMonoOn entry (Set.Iio 128))
    (h : Cell entry i x) : nearestCode entry x = i :=
  Nat.le_antisymm ((cell_nearestCode hascending x).mono h (le_refl x))
    (h.mono (cell_nearestCode hascending x) (le_refl x))

end Nearest

/-! ### Codes of a block -/

section Exact

variable {K : Type} [Field K] [LinearOrder K] {entry : Nat → K}

/-- The magnitude of an exact number is its absolute value. -/
instance : Abs K := ⟨fun x => |x|⟩

/-- A value of a block stands beside its code under the scale of the block. -/
theorem mem_zip_codes_iff {block : List K} {value : K} {c : UInt8} :
    (value, c) ∈ block.zip (codes entry block) ↔
      value ∈ block ∧ c = code entry (blockScale block) value := by
  rw [codes, ← List.map_prod_left_eq_zip, List.mem_map]
  constructor
  · rintro ⟨_, hmem, heq⟩
    cases heq
    exact ⟨hmem, rfl⟩
  · rintro ⟨hmem, rfl⟩
    exact ⟨value, hmem, rfl⟩

/-- The low bits of a code are the code of the magnitude, and the high bit is the sign. -/
theorem code_parts (entry : Nat → K) (scale value : K) :
    (code entry scale value).toNat % 128 = nearestCode entry (|value| / scale) ∧
      (128 ≤ (code entry scale value).toNat ↔ value < 0) := by
  have hlt := nearestCode_lt entry (|value| / scale)
  have hcode : (code entry scale value).toNat =
      nearestCode entry (|value| / scale) + if value < 0 then 128 else 0 := toNat_code _ _ _
  by_cases hnegative : value < 0
  · rw [if_pos hnegative] at hcode
    exact ⟨by omega, iff_of_true (by omega) hnegative⟩
  · rw [if_neg hnegative] at hcode
    exact ⟨by omega, iff_of_false (by omega) hnegative⟩

variable [IsStrictOrderedRing K]

theorem blockScale_pos (block : List K) : 0 < blockScale block := by
  unfold blockScale
  simp only
  split
  · assumption
  · exact one_pos

/-- Under the scale of a block larger magnitudes have no smaller codes. -/
theorem nearestCode_le_of_abs_le (hascending : StrictMonoOn entry (Set.Iio 128)) (block : List K)
    {v w : K} (h : |v| ≤ |w|) :
    nearestCode entry (|v| / blockScale block) ≤ nearestCode entry (|w| / blockScale block) :=
  (cell_nearestCode hascending _).mono (cell_nearestCode hascending _)
    (div_le_div_of_nonneg_right h (le_of_lt (blockScale_pos block)))

/-- Over an ascending table the code found for a magnitude is the first of those whose entries have
the least distance to it, and the last code for all magnitudes behind the table. So the low bits of
the codes of a block ascend with the magnitudes of its values, and a magnitude that is an entry of the
table gets the index of that entry; the high bit is the sign. -/
theorem nearestCode_first (hascending : StrictMonoOn entry (Set.Iio 128)) :
    (∀ x : K, IsLeast {i | i < 128 ∧ ∀ j < 128, |x - entry i| ≤ |x - entry j|}
      (nearestCode entry x)) ∧
    (∀ x, entry 127 ≤ x → nearestCode entry x = 127) ∧
    ∀ block : List K, (codes entry block).length = block.length ∧
      ∀ v c, (v, c) ∈ block.zip (codes entry block) →
        (128 ≤ c.toNat ↔ v < 0) ∧
        c.toNat % 128 = nearestCode entry (|v| / blockScale block) ∧
        (∀ i < 128, |v| / blockScale block = entry i → c.toNat % 128 = i) ∧
        ∀ w d, (w, d) ∈ block.zip (codes entry block) → |v| ≤ |w| →
          c.toNat % 128 ≤ d.toNat % 128 := by
  refine ⟨fun x => (cell_nearestCode hascending x).isLeast hascending,
    fun x hlast => nearestCode_eq hascending (.of_last_le hascending hlast),
    fun block => ⟨List.length_map _, fun v c hv => ?_⟩⟩
  obtain ⟨-, rfl⟩ := mem_zip_codes_iff.mp hv
  obtain ⟨hlow, hhigh⟩ := code_parts entry (blockScale block) v
  refine ⟨hhigh, hlow, fun i hi heq => ?_, fun w d hw hle => ?_⟩
  · rw [hlow, heq]
    exact nearestCode_eq hascending (.of_entry hascending hi)
  · obtain ⟨-, rfl⟩ := mem_zip_codes_iff.mp hw
    rw [hlow, (code_parts entry (blockScale block) w).1]
    exact nearestCode_le_of_abs_le hascending block hle

end Exact

/-! ### The magnitudes of the codes -/

/-- The magnitude of a code as an exact number. -/
def exactMagnitude (code : Nat) : ℚ :=
  (ExactBinary.ofBinary32 (CodeTable.magnitude code)).toRat

/-- How many times `2 ^ -149` the magnitude of a code holds. -/
def magnitudeSteps (code : Nat) : Nat :=
  let x := ExactBinary.ofBinary32 ⟨CodeTable.pattern code⟩
  x.significand * 2 ^ (x.exponent + 149).toNat

theorem exactMagnitude_eq {code : Nat} (hcode : code < 128) :
    exactMagnitude code = magnitudeSteps code / 2 ^ 149 := by
  have hentry : CodeTable.patterns[code]? = some (CodeTable.pattern code) := by
    simp [CodeTable.patterns, hcode]
  have hmagnitude : CodeTable.magnitude (α := Binary32) code = ⟨CodeTable.pattern code⟩ := by
    rw [CodeTable.magnitude, hentry]
    rfl
  have hfields : ∀ i < 128, (ExactBinary.ofBinary32 ⟨CodeTable.pattern i⟩).negative = false ∧
      0 ≤ (ExactBinary.ofBinary32 ⟨CodeTable.pattern i⟩).exponent + 149 := by decide +kernel
  rw [exactMagnitude, hmagnitude,
    ExactBinary.toRat_eq_div (hfields code hcode).1 149 (hfields code hcode).2]
  rfl

/-- The magnitudes of the codes ascend. -/
theorem strictMonoOn_exactMagnitude : StrictMonoOn exactMagnitude (Set.Iio 128) := by
  have hsteps : ∀ i < 127, magnitudeSteps i < magnitudeSteps (i + 1) := by decide +kernel
  refine strictMonoOn_of_lt_succ Set.ordConnected_Iio fun i _ hi hnext => ?_
  have hlt : i < 127 := Nat.lt_of_succ_lt_succ hnext
  rw [exactMagnitude_eq hi, exactMagnitude_eq hnext]
  exact div_lt_div_of_pos_right (Nat.cast_lt.mpr (hsteps i hlt)) (by positivity)

/-- Three values, the last of which has the largest magnitude. -/
def threeValues : List ℚ := [-6, 3, 12]

/-- The magnitudes of the codes start at zero and reach one half with code 119, which a value of half
the largest magnitude of its block therefore gets. -/
theorem nearestCode_first_magnitudes :
    StrictMonoOn exactMagnitude (Set.Iio 128) ∧ exactMagnitude 0 = 0 ∧
      nearestCode exactMagnitude 5 = 127 ∧
      ∃ c d, (-6, c) ∈ threeValues.zip (codes exactMagnitude threeValues) ∧
        (3, d) ∈ threeValues.zip (codes exactMagnitude threeValues) ∧
        128 ≤ c.toNat ∧ c.toNat % 128 = 119 ∧ d.toNat % 128 ≤ c.toNat % 128 := by
  have hzero : exactMagnitude 0 = 0 := by
    have hsteps : magnitudeSteps 0 = 0 := by decide +kernel
    rw [exactMagnitude_eq (by decide), hsteps, Nat.cast_zero, zero_div]
  have hlast : exactMagnitude 127 = 1 := by
    have hsteps : magnitudeSteps 127 = 2 ^ 149 := by decide +kernel
    rw [exactMagnitude_eq (by decide), hsteps]
    norm_num
  have hhalf : exactMagnitude 119 = 1 / 2 := by
    have hsteps : magnitudeSteps 119 = 2 ^ 148 := by decide +kernel
    rw [exactMagnitude_eq (by decide), hsteps]
    norm_num
  have hscale : blockScale threeValues = 12 := by
    norm_num [blockScale, threeValues, Abs.abs]
  obtain ⟨-, hbehind, hcodes⟩ := nearestCode_first strictMonoOn_exactMagnitude
  have hsix : (-6, code exactMagnitude (blockScale threeValues) (-6)) ∈
      threeValues.zip (codes exactMagnitude threeValues) :=
    mem_zip_codes_iff.mpr ⟨by simp [threeValues], rfl⟩
  have hthree : (3, code exactMagnitude (blockScale threeValues) 3) ∈
      threeValues.zip (codes exactMagnitude threeValues) :=
    mem_zip_codes_iff.mpr ⟨by simp [threeValues], rfl⟩
  obtain ⟨hsign, -, hentry, -⟩ := (hcodes threeValues).2 _ _ hsix
  obtain ⟨-, -, -, hascend⟩ := (hcodes threeValues).2 _ _ hthree
  refine ⟨strictMonoOn_exactMagnitude, hzero, hbehind 5 ?_, _, _, hsix, hthree,
    hsign.mpr (by norm_num), hentry 119 (by decide) ?_, hascend _ _ hsix (by norm_num)⟩
  · rw [hlast]
    norm_num
  · rw [hscale, hhalf]
    norm_num

end TensorBench.Weights.Eightbit
