import Mathlib.Data.List.Pairwise
import TensorBench.Layout.Check
import TensorBench.Proofs.NameTable

/-!
What the consistency checks of a layout accept. Each check is restated as a condition on the layout.
The comparison of neighbouring ranges carries over to all pairs, because every range that takes part
holds at least one byte.
-/
namespace TensorBench

/-- An extent of whole elements, as far as it is known. -/
def Extent.Whole (extent : Extent) : Prop :=
  ∀ bytes, extent = .value bytes → Words.elementSize ∣ bytes

theorem Extent.whole_value {bytes : Nat} (h : Words.elementSize ∣ bytes) :
    (Extent.value bytes).Whole := by
  rintro _ ⟨⟩
  exact h

namespace Layout

open Sequencing

theorem checkAligned_eq_ok_iff (what : String) (bytes : Nat) :
    checkAligned what bytes = .ok () ↔ Words.elementSize ∣ bytes := by
  unfold checkAligned
  by_cases h : bytes % Words.elementSize = 0
  · simp [h, Nat.dvd_of_mod_eq_zero h]
  · have hdvd : ¬ Words.elementSize ∣ bytes := fun hd => h (Nat.mod_eq_zero_of_dvd hd)
    simp [h, hdvd]

theorem checkKey_eq_ok_iff (key name : String) : checkKey key name = .ok () ↔ key = name := by
  unfold checkKey
  by_cases h : key = name <;> simp [h]

theorem checkedEnd_eq_ok_iff (name : String) (offset size stop : Nat) :
    checkedEnd name offset size = .ok stop ↔
      offset + size < Words.limit ∧ stop = offset + size := by
  unfold checkedEnd Words.add?
  by_cases h : offset + size < Words.limit <;> simp [h, eq_comm]

/-- The rules for one static allocation in a static part of the given size. -/
structure StaticFits (regionSize : Nat) (key : String) (allocation : StaticAllocation) : Prop where
  key_eq : key = allocation.name
  offset_aligned : Words.elementSize ∣ allocation.offset
  size_aligned : Words.elementSize ∣ allocation.size
  stop_lt : allocation.offset + allocation.size < Words.limit
  stop_le : allocation.offset + allocation.size ≤ regionSize

theorem checkStatic_eq_ok_iff (regionSize : Nat) (entry : String × StaticAllocation) :
    checkStatic regionSize entry = .ok () ↔ StaticFits regionSize entry.1 entry.2 := by
  unfold checkStatic
  simp only [check_bind_eq_ok_iff, checkKey_eq_ok_iff, checkAligned_eq_ok_iff]
  simp only [bind_eq_ok_iff, checkedEnd_eq_ok_iff, throw_unless_eq_ok_iff, Nat.not_lt]
  constructor
  · rintro ⟨hkey, hoffset, hsize, stop, ⟨hlt, rfl⟩, hle⟩
    exact ⟨hkey, hoffset, hsize, hlt, hle⟩
  · intro h
    exact ⟨h.key_eq, h.offset_aligned, h.size_aligned, _, ⟨h.stop_lt, rfl⟩, h.stop_le⟩

/-! ### Static allocations share no byte -/

/-- Ranges one of which ends before the other begins. -/
def Span.Apart (a b : Span) : Prop := a.stop ≤ b.start ∨ b.stop ≤ a.start

/-- Comparing neighbours is enough when every range is inhabited: the start of each range is also
past the ends of all earlier ones. -/
theorem pairwise_stop_le_of_checkNeighbours (spans : List Span)
    (hinhabited : ∀ span ∈ spans, span.start < span.stop) (h : checkNeighbours spans = .ok ()) :
    spans.Pairwise fun a b => a.stop ≤ b.start := by
  induction spans with
  | nil => exact List.Pairwise.nil
  | cons first rest ih =>
    cases rest with
    | nil => exact List.pairwise_singleton _ _
    | cons second rest =>
      by_cases hlt : second.start < first.stop
      · simp [checkNeighbours, hlt] at h
      · have hrest : checkNeighbours (second :: rest) = .ok () := by
          simpa [checkNeighbours, hlt] using h
        have htail := ih (fun span hmem => hinhabited span (List.mem_cons_of_mem first hmem)) hrest
        refine List.pairwise_cons.mpr ⟨fun span hmem => ?_, htail⟩
        rcases List.mem_cons.mp hmem with rfl | hmem
        · omega
        · have hsecond := hinhabited second (by simp)
          have hspan := (List.pairwise_cons.mp htail).1 span hmem
          omega

theorem mem_spans_iff (region : StaticRegion) (span : Span) :
    span ∈ spans region ↔ ∃ entry ∈ region.allocations.entries, 0 < entry.2.size ∧
      span = ⟨entry.2.offset, entry.2.offset + entry.2.size, entry.2.name⟩ := by
  simp only [spans, List.mem_filterMap, Option.ite_none_right_eq_some, Option.some.injEq]
  simp only [eq_comm]

theorem spans_pairwise_apart (region : StaticRegion) (h : checkStaticOverlap region = .ok ()) :
    (spans region).Pairwise Span.Apart := by
  have hperm := List.mergeSort_perm (spans region) Span.le
  have hsorted : ((spans region).mergeSort Span.le).Pairwise Span.Apart := by
    refine (pairwise_stop_le_of_checkNeighbours _ (fun span hmem => ?_) h).imp Or.inl
    obtain ⟨entry, -, hsize, rfl⟩ := (mem_spans_iff region span).mp (hperm.mem_iff.mp hmem)
    exact Nat.lt_add_of_pos_right hsize
  exact (hperm.pairwise_iff fun hab => Or.symm hab).mp hsorted

/-- Two static allocations of different names share no byte. -/
theorem static_apart (region : StaticRegion) (h : checkStaticOverlap region = .ok ())
    {a b : String × StaticAllocation} (ha : a ∈ region.allocations.entries)
    (hb : b ∈ region.allocations.entries) (hne : a.1 ≠ b.1)
    (hasize : 0 < a.2.size) (hbsize : 0 < b.2.size) :
    a.2.offset + a.2.size ≤ b.2.offset ∨ b.2.offset + b.2.size ≤ a.2.offset := by
  have hpairs := List.pairwise_filterMap.mp (spans_pairwise_apart region h)
  let R := fun a b : String × StaticAllocation => 0 < a.2.size → 0 < b.2.size →
    a.2.offset + a.2.size ≤ b.2.offset ∨ b.2.offset + b.2.size ≤ a.2.offset
  have hR : region.allocations.entries.Pairwise R := by
    refine hpairs.imp fun {a b} hab hasize hbsize => ?_
    exact hab ⟨a.2.offset, _, a.2.name⟩ (by simp [hasize]) ⟨b.2.offset, _, b.2.name⟩
      (by simp [hbsize])
  have hsymm : Std.Symm R := ⟨fun _ _ hab hb ha => (hab ha hb).symm⟩
  exact hR.forall ha hb (fun heq => hne (congrArg Prod.fst heq)) hasize hbsize

/-! Conversely, ranges that lie apart pass the comparison once they are sorted by their starts. -/

theorem Span.le_trans (a b c : Span) (hfirst : Span.le a b = true) (hsecond : Span.le b c = true) :
    Span.le a c = true := by
  unfold Span.le at *
  split_ifs at * <;> simp only [decide_eq_true_eq] at * <;> try omega
  exact String.le_trans hfirst hsecond

theorem Span.le_total (a b : Span) : (Span.le a b || Span.le b a) = true := by
  have hnames := String.le_total a.name b.name
  unfold Span.le
  rw [Bool.or_eq_true]
  split_ifs <;> simp only [decide_eq_true_eq] <;> omega

theorem Span.start_le {a b : Span} (hordered : Span.le a b = true) : a.start ≤ b.start := by
  unfold Span.le at hordered
  split_ifs at hordered <;> simp only [decide_eq_true_eq] at hordered <;> omega

theorem checkNeighbours_of_apart (spans : List Span)
    (hinhabited : ∀ span ∈ spans, span.start < span.stop)
    (hsorted : spans.Pairwise fun a b => Span.le a b = true) (hapart : spans.Pairwise Span.Apart) :
    checkNeighbours spans = .ok () := by
  induction spans with
  | nil => rfl
  | cons first rest ih =>
    cases rest with
    | nil => rfl
    | cons second rest =>
      have hordered := Span.start_le ((List.pairwise_cons.mp hsorted).1 second (by simp))
      have hdisjoint : first.Apart second := (List.pairwise_cons.mp hapart).1 second (by simp)
      have hnonempty := hinhabited second (by simp)
      have hseparate : ¬ second.start < first.stop := by
        simp only [Span.Apart] at hdisjoint
        omega
      rw [checkNeighbours, if_neg hseparate]
      exact ih (fun span hmem => hinhabited span (List.mem_cons_of_mem first hmem))
        (List.pairwise_cons.mp hsorted).2 (List.pairwise_cons.mp hapart).2

/-- Static allocations that share no byte pass the comparison of neighbours. -/
theorem checkStaticOverlap_of_apart (region : StaticRegion)
    (hapart : ∀ a ∈ region.allocations.entries, ∀ b ∈ region.allocations.entries, a.1 ≠ b.1 →
      0 < a.2.size → 0 < b.2.size →
        a.2.offset + a.2.size ≤ b.2.offset ∨ b.2.offset + b.2.size ≤ a.2.offset) :
    checkStaticOverlap region = .ok () := by
  have hperm := List.mergeSort_perm (spans region) Span.le
  have hdisjoint : (spans region).Pairwise Span.Apart := by
    refine List.pairwise_filterMap.mpr (region.allocations.ascending.imp_of_mem ?_)
    intro a b hleft hright hordered first hfirst second hsecond
    have hnames : a.1 ≠ b.1 := fun hsame => String.lt_irrefl _ (hsame ▸ hordered)
    rw [Option.ite_none_right_eq_some, Option.some.injEq] at hfirst hsecond
    rw [← hfirst.2, ← hsecond.2]
    exact hapart a hleft b hright hnames hfirst.1 hsecond.1
  refine checkNeighbours_of_apart _ (fun span hmem => ?_)
    (List.pairwise_mergeSort Span.le_trans Span.le_total (spans region))
    ((hperm.pairwise_iff fun hab => Or.symm hab).mpr hdisjoint)
  obtain ⟨entry, -, hinhabited, rfl⟩ := (mem_spans_iff region span).mp (hperm.mem_iff.mp hmem)
  exact Nat.lt_add_of_pos_right hinhabited

/-! ### Dynamic allocations -/

theorem checkExtent_eq_ok_iff (what : String) (extent : Extent) :
    checkExtent what extent = .ok () ↔ extent.Whole := by
  cases extent with
  | value bytes => simp [checkExtent, Extent.value?, Extent.Whole, checkAligned_eq_ok_iff]
  | placeholder expr => simp [checkExtent, Extent.value?, Extent.Whole]

/-- The end of an allocation is looked at where its extents and the size of the part are known. -/
theorem checkDynamicEnd_eq_ok_iff (region : Extent) (key : String)
    (allocation : DynamicAllocation) :
    checkDynamicEnd region.value? key allocation = .ok () ↔
      ∀ offset size bytes, allocation.offset = .value offset → allocation.size = .value size →
        region = .value bytes → offset + size < Words.limit ∧ offset + size ≤ bytes := by
  obtain ⟨name, offset, size⟩ := allocation
  cases offset with
  | placeholder expr => simp [checkDynamicEnd, Extent.value?]
  | value offset =>
    cases size with
    | placeholder expr => simp [checkDynamicEnd, Extent.value?]
    | value size =>
      cases region with
      | placeholder expr => simp [checkDynamicEnd, Extent.value?]
      | value bytes =>
        simp only [checkDynamicEnd, Extent.value?, bind_eq_ok_iff, checkedEnd_eq_ok_iff,
          throw_unless_eq_ok_iff, Nat.not_lt, Extent.value.injEq]
        constructor
        · rintro ⟨stop, ⟨hword, rfl⟩, hinside⟩ _ _ _ rfl rfl rfl
          exact ⟨hword, hinside⟩
        · intro hknown
          obtain ⟨hword, hinside⟩ := hknown offset size bytes rfl rfl rfl
          exact ⟨offset + size, ⟨hword, rfl⟩, hinside⟩

theorem checkDynamic_eq_ok_iff (layout : Layout) (entry : String × DynamicAllocation) :
    checkDynamic layout entry = .ok () ↔
      entry.1 = entry.2.name ∧ layout.fixed.allocations.get? entry.1 = none ∧
      entry.2.offset.Whole ∧ entry.2.size.Whole ∧
      ∀ offset size bytes, entry.2.offset = .value offset → entry.2.size = .value size →
        layout.floating.size = .value bytes →
          offset + size < Words.limit ∧ offset + size ≤ bytes := by
  simp only [checkDynamic, check_bind_eq_ok_iff, throw_unless_bind_eq_ok_iff, checkKey_eq_ok_iff,
    checkExtent_eq_ok_iff, checkDynamicEnd_eq_ok_iff, Bool.not_eq_true,
    NameTable.contains_eq_false_iff]

/-- The rules for a dynamic allocation of known extents in a dynamic part of known size. -/
structure DynamicFits (layout : Layout) (regionSize : Nat) (key name : String)
    (offset size : Nat) : Prop where
  key_eq : key = name
  not_static : layout.fixed.allocations.get? key = none
  offset_aligned : Words.elementSize ∣ offset
  size_aligned : Words.elementSize ∣ size
  stop_le : offset + size ≤ regionSize

theorem dynamicFits_of_checkDynamic (layout : Layout) (regionSize : Nat) (key name : String)
    (offset size : Nat) (hregion : layout.floating.size = .value regionSize)
    (h : checkDynamic layout (key, ⟨name, .value offset, .value size⟩) = .ok ()) :
    DynamicFits layout regionSize key name offset size := by
  obtain ⟨hkey, hstatic, hoffset, hsize, hend⟩ := (checkDynamic_eq_ok_iff layout _).mp h
  exact ⟨hkey, hstatic, hoffset offset rfl, hsize size rfl, (hend _ _ _ rfl rfl hregion).2⟩

/-- Checking a layout means checking each part of it. -/
theorem check_eq_ok_iff (layout : Layout) :
    layout.check = .ok () ↔
      Words.elementSize ∣ layout.fixed.size ∧
      (∀ entry ∈ layout.fixed.allocations.entries, StaticFits layout.fixed.size entry.1 entry.2) ∧
      checkStaticOverlap layout.fixed = .ok () ∧
      checkExtent "dynamic.size" layout.floating.size = .ok () ∧
      ∀ entry ∈ layout.floating.allocations.entries, checkDynamic layout entry = .ok () := by
  unfold check
  simp only [check_bind_eq_ok_iff, checkAligned_eq_ok_iff, forM_eq_ok_iff,
    checkStatic_eq_ok_iff]

theorem validate_eq_ok_iff (layout : Layout) :
    layout.validate = .ok () ↔ layout.check = .ok () := by
  unfold validate
  cases h : layout.check <;> simp

end Layout

end TensorBench
