import TensorBench.TensorGraph.Window

/-!
Runs of outputs behind one tap of a window. The outputs of a run are exactly those that look at a
position inside the input, so the strided positions from its start on stay inside as well. Through a
tap without a run no output looks at the input.
-/
namespace TensorBench.Window

/-- What a run says about the outputs, and where the last of them looks. -/
structure Run.Inside (run : Run) (outputs inputs tap stride padding : Nat) : Prop where
  count_pos : 0 < run.count
  stop_le : run.first + run.count ≤ outputs
  start_eq : run.start + padding = run.first * stride + tap
  last_lt : run.last stride < inputs

/-- The output looks through the tap at a position of the input itself. -/
def Sees (inputs tap stride padding output : Nat) : Prop :=
  padding ≤ output * stride + tap ∧ output * stride + tap < inputs + padding

instance (inputs tap stride padding output : Nat) :
    Decidable (Sees inputs tap stride padding output) :=
  inferInstanceAs (Decidable (_ ∧ _))

theorem Sees.source_lt {inputs tap stride padding output : Nat}
    (h : Sees inputs tap stride padding output) : output * stride + tap - padding < inputs := by
  unfold Sees at h
  omega

/-- The first output that looks behind the padding in front. -/
theorem first_le_iff (padding tap stride output : Nat) (hstride : 0 < stride) :
    (if tap < padding then (padding - tap + stride - 1) / stride else 0) ≤ output ↔
      padding ≤ output * stride + tap := by
  by_cases h : tap < padding
  · rw [if_pos h, ← Nat.lt_succ_iff, Nat.div_lt_iff_lt_mul hstride, Nat.succ_mul]
    omega
  · rw [if_neg h]
    omega

/-- The outputs that look in front of the padding behind. -/
theorem lt_stop_iff {inputs padding tap stride : Nat} (hstride : 0 < stride)
    (htap : tap < inputs + padding) (output : Nat) :
    output < (inputs + padding - tap - 1) / stride + 1 ↔ output * stride + tap < inputs + padding := by
  rw [Nat.lt_succ_iff, Nat.le_div_iff_mul_le hstride]
  omega

/-- The outputs that see the input through the tap are those between two ends, and the run, if the
ends are apart, goes from one to the other. -/
theorem exists_ends (outputs inputs tap stride padding : Nat) (hstride : 0 < stride) :
    ∃ first stop,
      (∀ output, (first ≤ output ∧ output < stop) ↔
        output < outputs ∧ Sees inputs tap stride padding output) ∧
      run? outputs inputs tap stride padding =
        if stop ≤ first then none
        else some ⟨first, stop - first, first * stride + tap - padding⟩ := by
  unfold run? Sees
  by_cases hpast : inputs + padding ≤ tap
  · refine ⟨0, 0, fun output => ?_, by rw [if_pos hpast, if_pos (Nat.le_refl 0)]⟩
    omega
  · refine ⟨_, _, fun output => ?_, if_neg hpast⟩
    rw [first_le_iff padding tap stride output hstride, Nat.lt_min,
      lt_stop_iff hstride (Nat.lt_of_not_le hpast)]
    omega

theorem run?_eq_some {outputs inputs tap stride padding : Nat} {run : Run} (hstride : 0 < stride)
    (h : run? outputs inputs tap stride padding = some run) :
    run.Inside outputs inputs tap stride padding := by
  obtain ⟨first, stop, hends, hrun⟩ := exists_ends outputs inputs tap stride padding hstride
  rw [hrun] at h
  split at h
  · cases h
  · rename_i hapart
    cases h
    obtain ⟨-, hfirst, -⟩ := (hends first).mp (by omega)
    obtain ⟨hstop, -, hlast⟩ := (hends (stop - 1)).mp (by omega)
    have hsplit : (stop - 1) * stride = first * stride + (stop - first - 1) * stride := by
      rw [← Nat.add_mul]
      congr 1
      omega
    refine ⟨?_, ?_, ?_, ?_⟩ <;> dsimp only [Run.last] <;> omega

/-- The outputs of a run are those that see the input. -/
theorem run?_covers_iff {outputs inputs tap stride padding : Nat} {run : Run} (hstride : 0 < stride)
    (h : run? outputs inputs tap stride padding = some run) (output : Nat) :
    run.covers output = true ↔ output < outputs ∧ Sees inputs tap stride padding output := by
  obtain ⟨first, stop, hends, hrun⟩ := exists_ends outputs inputs tap stride padding hstride
  rw [hrun] at h
  split at h
  · cases h
  · cases h
    rw [← hends output]
    simp only [Run.covers, Bool.and_eq_true, decide_eq_true_eq]
    omega

theorem not_sees_of_run?_eq_none {outputs inputs tap stride padding : Nat} (hstride : 0 < stride)
    (h : run? outputs inputs tap stride padding = none) {output : Nat} (houtput : output < outputs) :
    ¬ Sees inputs tap stride padding output := by
  intro hsees
  obtain ⟨first, stop, hends, hrun⟩ := exists_ends outputs inputs tap stride padding hstride
  have hbetween := (hends output).mpr ⟨houtput, hsees⟩
  rw [hrun, if_neg (by omega)] at h
  cases h

/-- A covered output sees the position it looks at. -/
theorem Run.Inside.source_eq {run : Run} {outputs inputs tap stride padding output : Nat}
    (h : run.Inside outputs inputs tap stride padding) (hcovers : run.covers output = true) :
    run.source stride output = output * stride + tap - padding := by
  simp only [Run.covers, Bool.and_eq_true, decide_eq_true_eq] at hcovers
  have hsplit : (output - run.first) * stride + run.first * stride = output * stride := by
    rw [← Nat.add_mul, Nat.sub_add_cancel hcovers.1]
  have hstart := h.start_eq
  unfold Run.source
  omega

/-! ### Runs as sets of outputs -/

/-- There is a run as soon as one output sees the input through the tap. -/
theorem exists_run?_iff {outputs inputs tap stride padding : Nat} (hstride : 0 < stride) :
    (∃ run, run? outputs inputs tap stride padding = some run) ↔
      ∃ output < outputs, Sees inputs tap stride padding output := by
  constructor
  · rintro ⟨run, hrun⟩
    have hinside := run?_eq_some hstride hrun
    have hfirst : run.covers run.first = true := by
      have hcount := hinside.count_pos
      simp only [Run.covers, Bool.and_eq_true, decide_eq_true_eq]
      omega
    exact ⟨run.first, (run?_covers_iff hstride hrun run.first).mp hfirst⟩
  · rintro ⟨output, houtput, hsees⟩
    cases hrun : run? outputs inputs tap stride padding with
    | none => exact absurd hsees (not_sees_of_run?_eq_none hstride hrun houtput)
    | some run => exact ⟨run, rfl⟩

/-- The outputs of the run are those that see the input through the tap, all of them and no others.
The block of the input that starts where the first of them looks has an entry for each, and ends
inside the input. -/
structure Run.Serves (run : Run) (outputs inputs tap stride padding : Nat) : Prop where
  outputs_iff : ∀ output, (run.first ≤ output ∧ output < run.first + run.count) ↔
    output < outputs ∧ Sees inputs tap stride padding output
  start_eq : run.start = run.first * stride + tap - padding
  entry_eq : ∀ entry < run.count,
    run.start + entry * stride = (run.first + entry) * stride + tap - padding
  entry_lt : ∀ entry < run.count, run.start + entry * stride < inputs

theorem Run.Serves.of_run? {run : Run} {outputs inputs tap stride padding : Nat}
    (hstride : 0 < stride) (hrun : run? outputs inputs tap stride padding = some run) :
    run.Serves outputs inputs tap stride padding := by
  have hinside := run?_eq_some hstride hrun
  have hstart := hinside.start_eq
  refine ⟨fun output => ?_, by omega, fun entry hentry => ?_, fun entry hentry => ?_⟩
  · rw [← run?_covers_iff hstride hrun output]
    simp only [Run.covers, Bool.and_eq_true, decide_eq_true_eq]
  · rw [Nat.add_mul]
    omega
  · have hlast : entry * stride ≤ (run.count - 1) * stride :=
      Nat.mul_le_mul_right stride (Nat.le_sub_one_of_lt hentry)
    exact Nat.lt_of_le_of_lt (Nat.add_le_add_left hlast run.start) hinside.last_lt

/-- Where some output sees the input, only one run serves. -/
theorem Run.Serves.unique {run other : Run} {outputs inputs tap stride padding : Nat}
    (hrun : run.Serves outputs inputs tap stride padding)
    (hother : other.Serves outputs inputs tap stride padding)
    (hseen : ∃ output < outputs, Sees inputs tap stride padding output) : run = other := by
  have hsame (output : Nat) : (run.first ≤ output ∧ output < run.first + run.count) ↔
      (other.first ≤ output ∧ output < other.first + other.count) :=
    (hrun.outputs_iff output).trans (hother.outputs_iff output).symm
  obtain ⟨output, hserved⟩ := hseen
  have hmem := (hrun.outputs_iff output).mpr hserved
  have hmemOther := (hsame output).mp hmem
  -- each end of one run lies in the other run
  have hfirst : run.first = other.first := by
    have hlow := (hsame run.first).mp (by omega)
    have hhigh := (hsame other.first).mpr (by omega)
    omega
  have hcount : run.count = other.count := by
    have hlow := (hsame (run.first + run.count - 1)).mp (by omega)
    have hhigh := (hsame (other.first + other.count - 1)).mpr (by omega)
    omega
  have hstart : run.start = other.start := by
    rw [hrun.start_eq, hother.start_eq, hfirst]
  cases run
  cases other
  exact congr (congr (congrArg Run.mk hfirst) hcount) hstart

/-- A tap has a run exactly if some output looks through it at a position between the paddings. The
run is then the one whose outputs are those that do so, which starts where the first of them looks,
and the block of the input behind it ends inside the input. -/
theorem run?_serves (outputs inputs tap stride padding : Nat) (hstride : 0 < stride) :
    ((∃ run, run? outputs inputs tap stride padding = some run) ↔
      ∃ output < outputs,
        padding ≤ output * stride + tap ∧ output * stride + tap < inputs + padding) ∧
    ∀ run, run? outputs inputs tap stride padding = some run ↔
      (∃ output < outputs,
        padding ≤ output * stride + tap ∧ output * stride + tap < inputs + padding) ∧
      run.Serves outputs inputs tap stride padding := by
  have hexists : (∃ run, run? outputs inputs tap stride padding = some run) ↔
      ∃ output < outputs, Sees inputs tap stride padding output := exists_run?_iff hstride
  refine ⟨hexists, fun run => ⟨fun hrun => ⟨hexists.mp ⟨run, hrun⟩, .of_run? hstride hrun⟩, ?_⟩⟩
  rintro ⟨hseen, hserves⟩
  obtain ⟨found, hfound⟩ := hexists.mpr hseen
  rw [hfound, (Run.Serves.of_run? hstride hfound).unique hserves hseen]

/-- Through the second tap of a window with stride two and padding two, two of four outputs look at
five elements. With stride three and padding four no output looks at two elements: one looks in front
of them and the next one behind them. -/
theorem run?_serves_strided :
    0 < 2 ∧ Run.Serves ⟨1, 2, 1⟩ 4 5 1 2 2 ∧
      0 < 3 ∧ ¬ ∃ run, run? 9 2 0 3 4 = some run := by
  have hrun : run? 4 5 1 2 2 = some ⟨1, 2, 1⟩ := rfl
  have hnone : run? 9 2 0 3 4 = none := rfl
  refine ⟨by decide, (((run?_serves 4 5 1 2 2 (by decide)).2 _).mp hrun).2, by decide, ?_⟩
  rw [(run?_serves 9 2 0 3 4 (by decide)).1]
  rintro ⟨output, -, hfront, hbehind⟩
  omega

/-- Less padding than the window is long leaves something of the input in every window: an output
either starts inside the input already, or has a tap at the first element. -/
theorem exists_tap_sees {inputs size stride padding outputs output : Nat}
    (h : outputLength? inputs size stride padding = some outputs) (hinputs : 0 < inputs)
    (hpadding : padding < size) (houtput : output < outputs) :
    ∃ tap < size, Sees inputs tap stride padding output := by
  unfold outputLength? at h
  split at h
  · cases h
  · split at h
    · cases h
    · rename_i hstride hsize
      cases h
      have hlast : output * stride ≤ inputs + 2 * padding - size :=
        (Nat.le_div_iff_mul_le (Nat.pos_of_ne_zero hstride)).mp (Nat.le_of_lt_succ houtput)
      by_cases hfront : output * stride < padding
      · exact ⟨padding - output * stride, by omega, by omega, by omega⟩
      · exact ⟨0, by omega, by omega, by omega⟩

end TensorBench.Window
