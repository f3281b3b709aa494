import TensorBench.Proofs.KernelGraph.Meaning

/-!
Execution by counted loops. The loops fill the output from its first position on; the invariant is
that the positions passed have their final values and the others still the old ones. Sums start from
zero, and a matrix without rows is no exception here. Refused are the products whose size wrapped
around, since their loops leave the buffer, and rows that are longer than their wrapped width.
-/
namespace TensorBench.Execution

variable {α : Type}

/-- The steps that cannot be executed by counted loops. -/
def RefusedByLoops (step : Step) : Prop :=
  match step.operation with
  | .linear .. => ¬ Exact step
  | .combine .. => False
  | .concat parts =>
      let width := Words.wrap (rowWidth parts)
      width = 0 ∨ width < rowWidth parts ∧ width ≤ step.output.length
  | .transform .. => False

instance : (step : Step) → Decidable (RefusedByLoops step)
  | ⟨.linear inner x w, output⟩ => inferInstanceAs (Decidable
      (¬ w.length = inner * (output.length / (x.length / inner))))
  | ⟨.combine .., _⟩ => inferInstanceAs (Decidable False)
  | ⟨.concat parts, output⟩ => inferInstanceAs (Decidable (Words.wrap (rowWidth parts) = 0 ∨
      Words.wrap (rowWidth parts) < rowWidth parts ∧
        Words.wrap (rowWidth parts) ≤ output.length))
  | ⟨.transform .., _⟩ => inferInstanceAs (Decidable False)

theorem loop?_succ {σ : Type} (bound : Nat) (state : σ) (body : σ → Nat → Option σ) :
    loop? (bound + 1) state body = (loop? bound state body).bind fun before => body before bound := by
  unfold loop?
  rw [List.range_succ, List.foldlM_append]
  simp

/-- A loop follows a sequence of states when its body takes each one to the next. -/
theorem loop?_eq_some {σ : Type} {bound : Nat} {state : σ} {body : σ → Nat → Option σ}
    (states : Nat → σ) (hstart : states 0 = state)
    (h : ∀ i < bound, body (states i) i = some (states (i + 1))) :
    loop? bound state body = some (states bound) := by
  subst hstart
  induction bound with
  | zero => rfl
  | succ bound ih =>
    rw [loop?_succ, ih fun i hi => h i (Nat.lt_succ_of_lt hi), Option.bind_some,
      h bound (Nat.lt_succ_self bound)]

/-- A loop ends early when its body cannot pass one of the indices. -/
theorem loop?_eq_none {σ : Type} {bound : Nat} {state : σ} {body : σ → Nat → Option σ} (i : Nat)
    (hi : i < bound) (h : ∀ before, loop? i state body = some before → body before i = none) :
    loop? bound state body = none := by
  induction bound with
  | zero => cases hi
  | succ bound ih =>
    rw [loop?_succ]
    rcases Nat.lt_or_eq_of_le (Nat.le_of_lt_succ hi) with hlt | rfl
    · rw [ih hlt, Option.bind_none]
    · cases hfront : loop? i state body with
      | none => rfl
      | some before => exact h before hfront

/-! ### Filling an array -/

/-- New values at the first positions, the old ones behind them. -/
def filled (f : Nat → α) (out : Array α) (count : Nat) : Array α :=
  out.mapIdx fun i before => if i < count then f i else before

@[simp] theorem size_filled (f : Nat → α) (out : Array α) (count : Nat) :
    (filled f out count).size = out.size := by
  simp [filled]

theorem filled_zero (f : Nat → α) (out : Array α) : filled f out 0 = out := by
  apply Array.ext_getElem?
  simp [filled]

theorem put?_filled (f : Nat → α) (out : Array α) (count : Nat) (h : count < out.size) :
    put? (filled f out count) count (f count) = some (filled f out (count + 1)) := by
  rw [put?, size_filled, if_pos h]
  congr 1
  apply Array.ext_getElem?
  intro i
  rw [Array.getElem?_setIfInBounds]
  by_cases hi : count = i
  · subst hi
    simp [filled, h]
  · have hlt : i < count ↔ i < count + 1 := by omega
    simp [filled, hi, hlt]

theorem loop?_filled {body : Array α → Nat → Option (Array α)} (f : Nat → α) (out : Array α)
    (first count : Nat) (hbound : first + count ≤ out.size)
    (h : ∀ i < count, ∀ before, body before i = put? before (first + i) (f (first + i))) :
    loop? count (filled f out first) body = some (filled f out (first + count)) := by
  refine loop?_eq_some (fun i => filled f out (first + i)) rfl fun i hi => ?_
  rw [h i hi, put?_filled f out (first + i) (by omega), Nat.add_assoc]

/-- A loop that puts one value at each position fills the whole array. -/
theorem loop?_fills {body : Array α → Nat → Option (Array α)} (f : Nat → α) (out : Array α)
    (h : ∀ i < out.size, ∀ before, body before i = put? before i (f i)) :
    loop? out.size out body = some (filled f out out.size) := by
  refine loop?_eq_some (filled f out) (filled_zero f out) fun i hi => ?_
  rw [h i hi, put?_filled f out i hi]

/-- A loop that puts values side by side keeps the size of the array and stays inside of it. -/
theorem size_of_loop? {body : Array α → Nat → Option (Array α)} {out after : Array α}
    {base count : Nat} (hbase : base ≤ out.size)
    (h : ∀ before i next, body before i = some next →
      ∃ value, put? before (base + i) value = some next)
    (hloop : loop? count out body = some after) :
    after.size = out.size ∧ base + count ≤ out.size := by
  induction count generalizing after with
  | zero =>
    cases hloop
    exact ⟨rfl, hbase⟩
  | succ count ih =>
    rw [loop?_succ, Option.bind_eq_some_iff] at hloop
    obtain ⟨before, hfront, hlast⟩ := hloop
    obtain ⟨hsize, -⟩ := ih hfront
    obtain ⟨value, hput⟩ := h before count after hlast
    simp only [put?, Option.ite_none_right_eq_some, Option.some.injEq] at hput
    obtain ⟨hinside, rfl⟩ := hput
    rw [Array.size_setIfInBounds]
    exact ⟨hsize, hsize ▸ hinside⟩

variable [Scalar α]

/-- An output filled as far as the step reaches. -/
theorem toList_filled_contents (start : α) (data : Array α) (step : Step) (old : List α)
    (hold : Blank step old) (hreach : reach step ≤ step.output.length) :
    (filled (valueAt start data step.operation) old.toArray (reach step)).toList =
      contents start data step := by
  rw [← hold.overlay_eq hreach]
  have hle : reach step ≤ old.length := hold.length_eq ▸ hreach
  apply List.ext_getElem?
  intro i
  by_cases hi : i < reach step
  · rw [overlay, List.getElem?_append_left (by simpa using hi)]
    simp [filled, hi, Nat.lt_of_lt_of_le hi hle]
  · have hbeyond := Nat.le_of_not_lt hi
    simp [filled, overlay, hi, List.getElem?_append_right, hbeyond]

theorem dotAt?_eq_some (data : Array α) (x w count : Nat) (hx : x + count ≤ data.size)
    (hw : w + count ≤ data.size) : dotAt? data x w count =
      some (sumOfProducts Scalar.zero (window data x count) (window data w count)) := by
  refine loop?_eq_some (fun i => sumOfProducts Scalar.zero (window data x i) (window data w i))
    rfl fun i hi => ?_
  rw [getElem?_eq_element data _ (by omega), getElem?_eq_element data _ (by omega)]
  simp [sumOfProducts, window, List.range_succ, List.zipWith_append]

theorem executeIndexed_linear (inner : Nat) (x w output : Slice) (data : Array α)
    (old : List α) (hsound : Sound ⟨.linear inner x w, output⟩ data.size)
    (hold : Blank ⟨.linear inner x w, output⟩ old) (hexact : Exact ⟨.linear inner x w, output⟩) :
    executeIndexed ⟨.linear inner x w, output⟩ data old =
      some (contents Scalar.zero data ⟨.linear inner x w, output⟩) := by
  obtain ⟨batch, outer, hinner, hbatch, hx, -, houtput, hxin, hwin⟩ := hsound.linear
  have hlength : old.length = output.length := hold.length_eq
  have hrows : x.length / inner = batch := by rw [hx, Nat.mul_div_cancel _ hinner]
  have hcolumns : output.length / batch = outer := by
    rw [houtput, Nat.mul_div_cancel_left _ hbatch]
  have hw : w.length = outer * inner := by
    rw [Nat.mul_comm, ← hcolumns, ← hrows]
    exact hexact
  have hwrows : w.length / inner = outer := by rw [hw, Nat.mul_div_cancel _ hinner]
  have hpositive : ¬ (inner = 0 ∨ batch = 0) := by omega
  rw [← toList_filled_contents _ _ _ _ hold hsound.reach_le]
  simp only [executeIndexed, hrows, List.size_toArray, hlength, hcolumns, if_neg hpositive,
    Option.bind_eq_bind, reach, hwrows]
  rw [loop?_eq_some fun row =>
    filled (valueAt Scalar.zero data (.linear inner x w)) old.toArray (row * outer)]
  · rfl
  · rw [Nat.zero_mul, filled_zero]
  · intro row hrow
    have hfull : (row + 1) * outer ≤ batch * outer := Nat.mul_le_mul_right outer hrow
    have hxrow : (row + 1) * inner ≤ x.length := hx ▸ Nat.mul_le_mul_right inner hrow
    rw [Nat.succ_mul] at hfull hxrow ⊢
    refine loop?_filled _ _ _ _ (by simp only [List.size_toArray]; omega) fun unit hunit out => ?_
    have hwrow : (unit + 1) * inner ≤ w.length := hw ▸ Nat.mul_le_mul_right inner hunit
    rw [Nat.succ_mul] at hwrow
    rw [dotAt?_eq_some data _ _ _ (by omega) (by omega), Option.bind_some,
      valueAt_linear _ data inner x w outer row unit hwrows hunit]

/-- A product whose size wrapped around has more factors than the buffer has elements. -/
theorem executeIndexed_wrapped (inner : Nat) (x w output : Slice) (data : Array α)
    (old : List α) (hsound : Sound ⟨.linear inner x w, output⟩ data.size)
    (hlength : old.length = output.length) (hsize : data.size < Words.limit)
    (hwrapped : ¬ Exact ⟨.linear inner x w, output⟩) :
    executeIndexed ⟨.linear inner x w, output⟩ data old = none := by
  obtain ⟨batch, outer, hinner, hbatch, hx, hw, houtput, hxin, hwin⟩ := hsound.linear
  have hrows : x.length / inner = batch := by rw [hx, Nat.mul_div_cancel _ hinner]
  have hcolumns : output.length / batch = outer := by
    rw [houtput, Nat.mul_div_cancel_left _ hbatch]
  have hpositive : ¬ (inner = 0 ∨ batch = 0) := by omega
  have hmany : data.size < outer * inner := by
    refine Nat.lt_of_lt_of_le hsize (Nat.le_of_not_lt fun hword => hwrapped ?_)
    simp only [Exact, hrows, hcolumns, hw, Words.wrap_of_lt hword, Nat.mul_comm inner]
  simp only [executeIndexed, hrows, List.size_toArray, hlength, hcolumns, if_neg hpositive,
    Option.bind_eq_bind]
  -- the weight at the size of the buffer is asked for in the first row
  have hunit : data.size / inner < outer :=
    Nat.div_lt_of_lt_mul (Nat.mul_comm outer inner ▸ hmany)
  have hweight : ∀ start, dotAt? data start (w.start + data.size / inner * inner) inner = none := by
    refine fun start => loop?_eq_none (data.size % inner) (Nat.mod_lt _ hinner) fun sum _ => ?_
    have hsplit := Nat.div_add_mod' data.size inner
    have hbeyond : data[w.start + data.size / inner * inner + data.size % inner]? = none :=
      Array.getElem?_eq_none (by omega)
    rw [hbeyond]
    cases data[start + data.size % inner]? <;> rfl
  rw [loop?_eq_none 0 hbatch fun _ _ => loop?_eq_none _ hunit fun _ _ => by rw [hweight]; rfl]
  rfl

theorem executeIndexed_combine (function : BinaryFunction) (x b output : Slice)
    (data : Array α) (old : List α) (hsound : Sound ⟨.combine function x b, output⟩ data.size)
    (hold : Blank ⟨.combine function x b, output⟩ old) :
    executeIndexed ⟨.combine function x b, output⟩ data old =
      some (contents Scalar.zero data ⟨.combine function x b, output⟩) := by
  obtain ⟨hx, hb, hxin, hbin⟩ := hsound.combine
  have hsize : old.toArray.size = output.length := hold.length_eq
  rw [← toList_filled_contents _ _ _ _ hold hsound.reach_le]
  simp only [executeIndexed, Option.bind_eq_bind]
  rw [loop?_fills (valueAt Scalar.zero data (.combine function x b)), hsize]
  · rfl
  · intro i hi out
    have hlength : i < output.length := by rwa [hsize] at hi
    have hperiod : 0 < b.length := Nat.pos_of_dvd_of_pos hb (Nat.zero_lt_of_lt hlength)
    have hright : i % b.length < b.length := Nat.mod_lt i hperiod
    rw [getElem?_eq_element data _ (by omega), Option.bind_some, if_neg (Nat.ne_of_gt hperiod),
      getElem?_eq_element data _ (by omega)]
    rfl

theorem executeIndexed_transform (function : UnaryFunction) (x output : Slice)
    (data : Array α) (old : List α) (hsound : Sound ⟨.transform function x, output⟩ data.size)
    (hold : Blank ⟨.transform function x, output⟩ old) :
    executeIndexed ⟨.transform function x, output⟩ data old =
      some (contents Scalar.zero data ⟨.transform function x, output⟩) := by
  obtain ⟨hx, hxin⟩ := hsound.transform
  have hsize : old.toArray.size = output.length := hold.length_eq
  rw [← toList_filled_contents _ _ _ _ hold hsound.reach_le]
  simp only [executeIndexed, Option.bind_eq_bind]
  rw [loop?_fills (valueAt Scalar.zero data (.transform function x)), hsize]
  · rfl
  · intro i hi out
    rw [hsize] at hi
    rw [getElem?_eq_element data _ (by omega)]
    rfl

/-! ### Concatenations -/

/-- The parts fill the columns of a row from a base position on. -/
theorem foldlM_parts (data : Array α) (f : Nat → α) (out : Array α) (rows row : Nat)
    (hrow : row < rows) (parts : List (Slice × Nat))
    (hparts : ∀ part ∈ parts, part.1.length = rows * part.2 ∧
      part.1.start + part.1.length ≤ data.size) (base : Nat)
    (hbound : base + rowWidth parts ≤ out.size)
    (hf : ∀ column < rowWidth parts, f (base + column) = element data (sourceOf row parts column)) :
    (parts.foldlM (fun (out, base) (slice, share) => do
      let out ← loop? share out fun out i => do
        put? out (base + i) (← data[slice.start + row * share + i]?)
      some (out, base + share)) (filled f out base, base) : Option (Array α × Nat)) =
      some (filled f out (base + rowWidth parts), base + rowWidth parts) := by
  induction parts generalizing base with
  | nil => rfl
  | cons part rest ih =>
    obtain ⟨slice, share⟩ := part
    rw [rowWidth] at hbound hf ⊢
    dsimp only at hbound hf ⊢
    obtain ⟨hlength, hend⟩ := hparts _ List.mem_cons_self
    have hlast : (row + 1) * share ≤ slice.length := hlength ▸ Nat.mul_le_mul_right share hrow
    rw [Nat.succ_mul] at hlast
    dsimp only at hend
    rw [List.foldlM_cons]
    dsimp only
    rw [loop?_filled f out base share (by omega)]
    · rw [Option.bind_eq_bind, Option.bind_eq_bind, Option.bind_some, Option.bind_some]
      have hrest := ih (fun p hp => hparts p (List.mem_cons_of_mem _ hp)) (base + share) (by omega)
      rw [Nat.add_assoc] at hrest
      refine hrest fun column hcolumn => ?_
      rw [Nat.add_assoc, hf (share + column) (by omega), sourceOf, if_neg (by dsimp only; omega),
        Nat.add_sub_cancel_left]
    · intro i hi before
      rw [getElem?_eq_element data _ (by omega), hf i (by omega), sourceOf, if_pos hi]
      rw [Nat.add_assoc]
      rfl

omit [Scalar α] in
/-- Parts that can be put into a row have room there. -/
theorem size_of_parts (data : Array α) (row : Nat) (parts : List (Slice × Nat))
    {out after : Array α} {base last : Nat} (hbase : base ≤ out.size)
    (h : (parts.foldlM (fun (out, base) (slice, share) => do
      let out ← loop? share out fun out i => do
        put? out (base + i) (← data[slice.start + row * share + i]?)
      some (out, base + share)) (out, base) : Option (Array α × Nat)) = some (after, last)) :
    base + rowWidth parts ≤ out.size := by
  induction parts generalizing out base with
  | nil => exact hbase
  | cons part rest ih =>
    rw [List.foldlM_cons, Option.bind_eq_bind, Option.bind_eq_some_iff] at h
    obtain ⟨⟨next, stop⟩, hpart, hrest⟩ := h
    obtain ⟨filled, hloop, hnext⟩ := Option.bind_eq_some_iff.mp hpart
    cases hnext
    obtain ⟨hsize, hroom⟩ := size_of_loop? hbase (fun before i next hnext => by
      obtain ⟨value, -, hput⟩ := Option.bind_eq_some_iff.mp hnext
      exact ⟨value, hput⟩) hloop
    rw [rowWidth, ← Nat.add_assoc, ← hsize]
    exact ih (hsize ▸ hroom) hrest

theorem executeIndexed_concat (parts : List (Slice × Nat)) (output : Slice) (data : Array α)
    (old : List α) (hsound : Sound ⟨.concat parts, output⟩ data.size)
    (hold : Blank ⟨.concat parts, output⟩ old)
    (hrefused : ¬ RefusedByLoops ⟨.concat parts, output⟩) :
    executeIndexed ⟨.concat parts, output⟩ data old =
      some (contents Scalar.zero data ⟨.concat parts, output⟩) := by
  obtain ⟨rows, hwidth, -, hrows, -, hparts⟩ := hsound.concat_rows
  have hlength : old.length = output.length := hold.length_eq
  simp only [RefusedByLoops, not_or, not_and, Nat.not_le] at hrefused
  obtain ⟨hpos, hfew⟩ := hrefused
  rw [← toList_filled_contents _ _ _ _ hold hsound.reach_le]
  simp only [executeIndexed, rowTotal_eq_rowWidth, if_neg hpos, List.size_toArray, hlength, reach,
    Option.bind_eq_bind]
  rcases Nat.lt_or_eq_of_le (Words.wrap_le (rowWidth parts)) with hlt | heq
  · -- the output is shorter than one row, and none is written
    have hless : output.length < rowWidth parts := Nat.lt_trans (hfew hlt) hlt
    rw [Nat.div_eq_of_lt (hfew hlt), Nat.div_eq_of_lt hless, Nat.zero_mul, filled_zero]
    rfl
  · rw [heq, loop?_eq_some fun row =>
      filled (valueAt Scalar.zero data (.concat parts)) old.toArray (row * rowWidth parts)]
    · rfl
    · rw [Nat.zero_mul, filled_zero]
    · intro row hrow
      have hfull : (row + 1) * rowWidth parts ≤ output.length :=
        (Nat.le_div_iff_mul_le hwidth).mp hrow
      rw [Nat.succ_mul] at hfull ⊢
      have hrow' := foldlM_parts data (valueAt Scalar.zero data (.concat parts)) old.toArray rows row
        (Nat.lt_of_lt_of_le hrow hrows) parts hparts (row * rowWidth parts)
        (by simp only [List.size_toArray]; omega)
        fun column hcolumn => valueAt_concat _ data parts row column hcolumn
      simp only [Option.bind_eq_bind] at hrow'
      rw [hrow', Option.bind_some]

/-- The first row has no room for all parts. -/
theorem executeIndexed_long_rows (parts : List (Slice × Nat)) (output : Slice) (data : Array α)
    (old : List α) (hsound : Sound ⟨.concat parts, output⟩ data.size)
    (hlength : old.length = output.length) (hrefused : RefusedByLoops ⟨.concat parts, output⟩) :
    executeIndexed ⟨.concat parts, output⟩ data old = none := by
  obtain ⟨-, -, -, -, hlimit, -⟩ := hsound.concat_rows
  simp only [RefusedByLoops] at hrefused
  simp only [executeIndexed, rowTotal_eq_rowWidth]
  by_cases hzero : Words.wrap (rowWidth parts) = 0
  · rw [if_pos hzero]
  · obtain ⟨hlt, hle⟩ := hrefused.resolve_left hzero
    have hlong : output.length < rowWidth parts := by
      refine Nat.lt_of_lt_of_le hlimit (Nat.le_of_not_lt fun hword => ?_)
      exact Nat.ne_of_lt hlt (Words.wrap_of_lt hword)
    rw [← hlength] at hle
    have hfirst : 0 < old.toArray.size / Words.wrap (rowWidth parts) :=
      Nat.div_pos hle (Nat.pos_of_ne_zero hzero)
    rw [if_neg hzero, Option.bind_eq_bind, loop?_eq_none 0 hfirst]
    · rfl
    · intro before hbefore
      obtain rfl : old.toArray = before := Option.some.inj hbefore
      rw [Nat.zero_mul, Option.bind_eq_bind, Option.bind_eq_none_iff]
      rintro ⟨after, last⟩ hparts
      have hroom := size_of_parts data 0 parts (Nat.zero_le _) hparts
      rw [Nat.zero_add, List.size_toArray, hlength] at hroom
      exact absurd hroom (Nat.not_le.mpr hlong)

/-! ### All steps -/

/-- A sound step gives its output the contents it means, with sums from zero. -/
theorem executeIndexed_eq_contents (step : Step) (data : Array α) (old : List α)
    (hsound : Sound step data.size) (hold : Blank step old) (hrefused : ¬ RefusedByLoops step) :
    executeIndexed step data old = some (contents Scalar.zero data step) := by
  obtain ⟨operation, output⟩ := step
  cases operation with
  | linear inner x w =>
    exact executeIndexed_linear inner x w output data old hsound hold (not_not.mp hrefused)
  | combine function x b => exact executeIndexed_combine function x b output data old hsound hold
  | concat parts => exact executeIndexed_concat parts output data old hsound hold hrefused
  | transform function x => exact executeIndexed_transform function x output data old hsound hold

theorem executeIndexed_eq_none (step : Step) (data : Array α) (old : List α)
    (hsound : Sound step data.size) (hsize : data.size < Words.limit) (hold : Blank step old)
    (hrefused : RefusedByLoops step) : executeIndexed step data old = none := by
  obtain ⟨operation, output⟩ := step
  cases operation with
  | linear inner x w =>
    exact executeIndexed_wrapped inner x w output data old hsound hold.length_eq hsize hrefused
  | combine function x b => exact hrefused.elim
  | concat parts =>
    exact executeIndexed_long_rows parts output data old hsound hold.length_eq hrefused
  | transform function x => exact hrefused.elim

end TensorBench.Execution
