import TensorBench.Proofs.Layout.Placement

/-!
The layouts that validation accepts, described without the order of the checks and without the
sorting of ranges. Extents that are not known yet are under no condition, and an allocation of no
bytes may lie anywhere inside its part. One sum of the checks is not itself checked; it is always a
word when its turn comes.
-/
namespace TensorBench

/-- The bytes of the static part that belong to an allocation. -/
def StaticAllocation.Covers (allocation : StaticAllocation) (byte : Nat) : Prop :=
  allocation.offset ≤ byte ∧ byte < allocation.offset + allocation.size

namespace Layout

open Sequencing

/-- The rules of a layout, for all of its allocations at once. Sums are those of natural numbers. -/
structure Consistent (layout : Layout) : Prop where
  static_names : ∀ entry ∈ layout.fixed.allocations.entries, entry.1 = entry.2.name
  dynamic_names : ∀ entry ∈ layout.floating.allocations.entries, entry.1 = entry.2.name
  one_part : ∀ name ∈ layout.floating.allocations.names, name ∉ layout.fixed.allocations.names
  static_whole : Words.elementSize ∣ layout.fixed.size
  statics_whole : ∀ entry ∈ layout.fixed.allocations.entries,
    Words.elementSize ∣ entry.2.offset ∧ Words.elementSize ∣ entry.2.size
  dynamic_whole : layout.floating.size.Whole
  dynamics_whole : ∀ entry ∈ layout.floating.allocations.entries,
    entry.2.offset.Whole ∧ entry.2.size.Whole
  statics_inside : ∀ entry ∈ layout.fixed.allocations.entries,
    entry.2.offset + entry.2.size ≤ layout.fixed.size
  statics_disjoint : ∀ a ∈ layout.fixed.allocations.entries,
    ∀ b ∈ layout.fixed.allocations.entries, a.1 ≠ b.1 → 0 < a.2.size → 0 < b.2.size →
      ∀ byte, ¬ (a.2.Covers byte ∧ b.2.Covers byte)
  dynamics_inside : ∀ entry ∈ layout.floating.allocations.entries, ∀ offset size region,
    entry.2.offset = .value offset → entry.2.size = .value size →
      layout.floating.size = .value region → offset + size ≤ region

/-! ### Shared bytes -/

/-- Allocations of at least one byte lie apart exactly if they share no byte. -/
theorem apart_iff_disjoint (a b : StaticAllocation) (ha : 0 < a.size) (hb : 0 < b.size) :
    (a.offset + a.size ≤ b.offset ∨ b.offset + b.size ≤ a.offset) ↔
      ∀ byte, ¬ (a.Covers byte ∧ b.Covers byte) := by
  simp only [StaticAllocation.Covers]
  constructor
  · intro hapart byte
    omega
  · intro hdisjoint
    -- allocations that overlap share the later one of their first bytes
    have hlater := hdisjoint (max a.offset b.offset)
    omega

theorem checkStaticOverlap_eq_ok_iff (region : StaticRegion) :
    checkStaticOverlap region = .ok () ↔
      ∀ a ∈ region.allocations.entries, ∀ b ∈ region.allocations.entries, a.1 ≠ b.1 →
        0 < a.2.size → 0 < b.2.size → ∀ byte, ¬ (a.2.Covers byte ∧ b.2.Covers byte) := by
  constructor
  · intro hchecked a hleft b hright hnames ha hb
    exact (apart_iff_disjoint a.2 b.2 ha hb).mp
      (static_apart region hchecked hleft hright hnames ha hb)
  · intro hdisjoint
    refine checkStaticOverlap_of_apart region fun a hleft b hright hnames ha hb => ?_
    exact (apart_iff_disjoint a.2 b.2 ha hb).mpr (hdisjoint a hleft b hright hnames ha hb)

/-! ### Sums on a machine -/

/-- The ranges of the allocations that hold at least one byte, nothing if the end of one of them is
no word. -/
def spans? (region : StaticRegion) : Option (List Span) :=
  (region.allocations.entries.filter fun entry => 0 < entry.2.size).mapM fun entry => do
    let stop ← Words.add? entry.2.offset entry.2.size
    return ⟨entry.2.offset, stop, entry.2.name⟩

/-- The checks in front of the comparison of ranges. -/
def checkStatics (layout : Layout) : Except Violation Unit := do
  checkAligned "static.size" layout.fixed.size
  layout.fixed.allocations.entries.forM (checkStatic layout.fixed.size)

/-- The checks with the ends of the compared ranges added up on a machine: nothing where that sum
leaves the words, which would be a crash. -/
def check? (layout : Layout) : Option (Except Violation Unit) :=
  match layout.checkStatics with
  | .error violation => some (.error violation)
  | .ok () => do
      let ranges ← spans? layout.fixed
      return do
        checkNeighbours (ranges.mergeSort Span.le)
        checkExtent "dynamic.size" layout.floating.size
        layout.floating.allocations.entries.forM (checkDynamic layout)

theorem spans?_eq_some (region : StaticRegion)
    (hwords : ∀ entry ∈ region.allocations.entries,
      entry.2.offset + entry.2.size < Words.limit) :
    spans? region = some (spans region) := by
  rw [spans?, mapM_eq_some _ _ fun entry : String × StaticAllocation =>
    (⟨entry.2.offset, entry.2.offset + entry.2.size, entry.2.name⟩ : Span)]
  · rw [spans, ← List.filterMap_eq_map, List.filterMap_filter]
    simp only [decide_eq_true_eq, Function.comp]
  · intro entry hmem
    have hword := hwords entry (List.mem_of_mem_filter hmem)
    simp [Words.add?, hword]

/-- The checks made first leave only ranges that end at a word. -/
theorem check?_eq_some (layout : Layout) : layout.check? = some layout.check := by
  have hsplit : layout.check = (do
      layout.checkStatics
      checkStaticOverlap layout.fixed
      checkExtent "dynamic.size" layout.floating.size
      layout.floating.allocations.entries.forM (checkDynamic layout)) := by
    simp only [check, checkStatics, bind_assoc]
  rw [hsplit, check?]
  cases hchecked : layout.checkStatics with
  | error violation => rfl
  | ok _ =>
    have hfits := (forM_eq_ok_iff _ _).mp (check_bind_eq_ok_iff.mp hchecked).2
    rw [spans?_eq_some _ fun entry hmem =>
      ((checkStatic_eq_ok_iff _ _).mp (hfits entry hmem)).stop_lt]
    rfl

/-- Validation accepts exactly the layouts that obey the rules, and the sums it does not check are
words in every layout. -/
theorem validate_eq_ok_iff_consistent (layout : Layout)
    (hstaticWord : layout.fixed.size < Words.limit)
    (hdynamicWord : ∀ bytes, layout.floating.size = .value bytes → bytes < Words.limit) :
    (layout.validate = .ok () ↔ layout.Consistent) ∧ layout.check? = some layout.check := by
  refine ⟨?_, check?_eq_some layout⟩
  rw [validate_eq_ok_iff, check_eq_ok_iff, checkStaticOverlap_eq_ok_iff, checkExtent_eq_ok_iff]
  simp only [checkDynamic_eq_ok_iff]
  constructor
  · rintro ⟨hwhole, hfits, hdisjoint, hdynamicWhole, hdynamics⟩
    exact {
      static_names := fun entry hmem => (hfits entry hmem).key_eq
      dynamic_names := fun entry hmem => (hdynamics entry hmem).1
      one_part := fun name hfloating hfixed => by
        obtain ⟨entry, hmem, rfl⟩ := List.mem_map.mp hfloating
        obtain ⟨allocation, hfound⟩ := (NameTable.mem_names_iff _ _).mp hfixed
        cases hfound.symm.trans (hdynamics entry hmem).2.1
      static_whole := hwhole
      statics_whole := fun entry hmem =>
        ⟨(hfits entry hmem).offset_aligned, (hfits entry hmem).size_aligned⟩
      dynamic_whole := hdynamicWhole
      dynamics_whole := fun entry hmem =>
        ⟨(hdynamics entry hmem).2.2.1, (hdynamics entry hmem).2.2.2.1⟩
      statics_inside := fun entry hmem => (hfits entry hmem).stop_le
      statics_disjoint := hdisjoint
      dynamics_inside := fun entry hmem offset size bytes hoffset hsize hbytes =>
        ((hdynamics entry hmem).2.2.2.2 offset size bytes hoffset hsize hbytes).2 }
  · intro hrules
    refine ⟨hrules.static_whole, fun entry hmem => ?_, hrules.statics_disjoint,
      hrules.dynamic_whole, fun entry hmem => ?_⟩
    · obtain ⟨hoffset, hsize⟩ := hrules.statics_whole entry hmem
      have hinside := hrules.statics_inside entry hmem
      exact ⟨hrules.static_names entry hmem, hoffset, hsize, by omega, hinside⟩
    · obtain ⟨hoffset, hsize⟩ := hrules.dynamics_whole entry hmem
      refine ⟨hrules.dynamic_names entry hmem, ?_, hoffset, hsize, ?_⟩
      · have hfresh := hrules.one_part entry.1 (List.mem_map_of_mem hmem)
        rw [NameTable.mem_names_iff, not_exists] at hfresh
        exact Option.eq_none_iff_forall_ne_some.mpr hfresh
      intro offset size bytes hstart hlength hbytes
      have hinside := hrules.dynamics_inside entry hmem offset size bytes hstart hlength hbytes
      have hword := hdynamicWord bytes hbytes
      exact ⟨by omega, hinside⟩

/-- Two static tensors, an empty one inside the first, and a dynamic one for a batch of any size. -/
def crowded (second : Nat) : Layout :=
  ⟨⟨12, .ofList [("b", ⟨"b", second, 4⟩), ("e", ⟨"e", 4, 0⟩), ("w", ⟨"w", 0, 8⟩)]⟩,
    ⟨.placeholder (.named "N"), .ofList [("x", ⟨"x", .value 0, .placeholder (.named "N")⟩)]⟩⟩

theorem validate_eq_ok_iff_consistent_crowded :
    (crowded 8).Consistent ∧ ¬ (crowded 4).Consistent := by
  obtain ⟨hapart, -⟩ := validate_eq_ok_iff_consistent (crowded 8) (by decide) nofun
  obtain ⟨hshared, -⟩ := validate_eq_ok_iff_consistent (crowded 4) (by decide) nofun
  have haccepted : (crowded 8).validate = .ok () := by cbv
  have hrefused : (crowded 4).check = .error (.overlap "w" "b") := by cbv
  refine ⟨hapart.mp haccepted, fun hrules => ?_⟩
  cases hrefused.symm.trans ((validate_eq_ok_iff _).mp (hshared.mpr hrules))

end Layout

end TensorBench
