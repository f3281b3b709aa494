import Mathlib.Data.List.Permutation
import TensorBench.Proofs.Layout.Binding

/-!
Where the allocations of a bound layout lie. Every extent of a bound layout is known, so all its
names can be placed: static allocations inside the static part and apart from each other, dynamic
ones behind it and inside the buffer. Code that reads and writes the buffer without further checks
relies on nothing else.
-/
namespace TensorBench

namespace Placement

/-- The elements of the buffer that belong to an allocation. -/
def Covers (placement : Placement) (i : Nat) : Prop :=
  placement.start ≤ i ∧ i < placement.stop

/-- The allocation consists of whole elements and lies between two positions of the buffer. -/
structure Within (placement : Placement) (low high : Nat) : Prop where
  offset_aligned : Words.elementSize ∣ placement.offset
  size_aligned : Words.elementSize ∣ placement.size
  low_le : low ≤ placement.start
  stop_le : placement.stop ≤ high

end Placement

namespace Layout

open Sequencing

/-- A consistent layout whose extents are all known, with its size in bytes. -/
structure Settled (layout : Layout) (total : Nat) : Prop where
  check_ok : layout.check = .ok ()
  resolved : layout.isResolved = true
  total_ok : layout.totalSize = .ok total

theorem totalSize_eq_ok_iff (layout : Layout) (total : Nat) :
    layout.totalSize = .ok total ↔ ∃ bytes, layout.isResolved = true ∧
      layout.floating.size = .value bytes ∧ layout.fixed.size + bytes < Words.limit ∧
      total = layout.fixed.size + bytes := by
  unfold totalSize
  rw [check_bind_eq_ok_iff, ensureResolved_eq_ok_iff]
  constructor
  · rintro ⟨hresolved, h⟩
    obtain ⟨bytes, hbytes⟩ := ((isResolved_iff layout).mp hresolved).1
    by_cases hlt : layout.fixed.size + bytes < Words.limit
    · simp [hbytes, Extent.value?, Words.add?, hlt, pure, Except.pure] at h
      exact ⟨bytes, hresolved, hbytes, hlt, h.symm⟩
    · simp [hbytes, Extent.value?, Words.add?, hlt, throw, throwThe, MonadExceptOf.throw] at h
  · rintro ⟨bytes, hresolved, hbytes, hlt, rfl⟩
    exact ⟨hresolved, by simp [hbytes, Extent.value?, Words.add?, hlt, pure, Except.pure]⟩

namespace Settled

variable {layout : Layout} {total : Nat}

theorem dynamicSize (h : layout.Settled total) : ∃ bytes, layout.floating.size = .value bytes ∧
    total = layout.fixed.size + bytes ∧ total < Words.limit ∧ Words.elementSize ∣ bytes := by
  obtain ⟨bytes, -, hbytes, hlt, rfl⟩ := (totalSize_eq_ok_iff layout total).mp h.total_ok
  have haligned := ((check_eq_ok_iff layout).mp h.check_ok).2.2.2.1
  simp only [checkExtent, hbytes, Extent.value?, checkAligned_eq_ok_iff] at haligned
  exact ⟨bytes, hbytes, rfl, hlt, haligned⟩

theorem static_aligned (h : layout.Settled total) : Words.elementSize ∣ layout.fixed.size :=
  ((check_eq_ok_iff layout).mp h.check_ok).1

theorem total_aligned (h : layout.Settled total) : Words.elementSize ∣ total := by
  obtain ⟨bytes, -, rfl, -, hbytes⟩ := h.dynamicSize
  exact Nat.dvd_add h.static_aligned hbytes

theorem static_le_total (h : layout.Settled total) :
    layout.fixed.size / Words.elementSize ≤ total / Words.elementSize := by
  obtain ⟨bytes, -, rfl, -, -⟩ := h.dynamicSize
  exact Nat.div_le_div_right (Nat.le_add_right _ _)

/-- A static name is placed inside the static part. -/
theorem placement_static (h : layout.Settled total) {name : String} {allocation : StaticAllocation}
    (hget : layout.fixed.allocations.get? name = some allocation) :
    layout.placement name = .ok ⟨name, .fixed, allocation.offset, allocation.size⟩ ∧
      Placement.Within ⟨name, .fixed, allocation.offset, allocation.size⟩
        0 (layout.fixed.size / Words.elementSize) := by
  have hfits := ((check_eq_ok_iff layout).mp h.check_ok).2.1 (name, allocation)
    ((NameTable.get?_eq_some_iff _ _ _).mp hget)
  refine ⟨?_, hfits.offset_aligned, hfits.size_aligned, Nat.zero_le _, ?_⟩
  · have hname : name = allocation.name := hfits.key_eq
    simp only [placement, hget, ← hname]
  · have hoffset := hfits.offset_aligned
    have hstop := hfits.stop_le
    simp only [Placement.stop, Placement.start, Placement.length, Words.elementSize] at *
    omega

/-- A dynamic name of known extents is placed behind the static part and inside the buffer. -/
theorem placement_known (h : layout.Settled total) {name key : String} {offset size : Nat}
    (hget : layout.floating.allocations.get? name = some ⟨key, .value offset, .value size⟩) :
    layout.placement name = .ok ⟨name, .floating, layout.fixed.size + offset, size⟩ ∧
      Placement.Within ⟨name, .floating, layout.fixed.size + offset, size⟩
        (layout.fixed.size / Words.elementSize) (total / Words.elementSize) := by
  obtain ⟨bytes, hbytes, htotal, hlimit, -⟩ := h.dynamicSize
  have hmem := (NameTable.get?_eq_some_iff _ _ _).mp hget
  have hcheck := ((check_eq_ok_iff layout).mp h.check_ok).2.2.2.2 _ hmem
  have hfits := dynamicFits_of_checkDynamic layout bytes name _ offset size hbytes hcheck
  have hname : name = key := hfits.key_eq
  have hstop := hfits.stop_le
  have hstart : checkedEnd name layout.fixed.size offset = .ok (layout.fixed.size + offset) :=
    (checkedEnd_eq_ok_iff _ _ _ _).mpr ⟨by omega, rfl⟩
  have hlast : checkedEnd name (layout.fixed.size + offset) size =
      .ok (layout.fixed.size + offset + size) :=
    (checkedEnd_eq_ok_iff _ _ _ _).mpr ⟨by omega, rfl⟩
  refine ⟨?_, Nat.dvd_add h.static_aligned hfits.offset_aligned, hfits.size_aligned, ?_, ?_⟩
  · simp only [placement, hfits.not_static, hget, placeDynamic, Extent.value?, hstart, hlast,
      ← hname]
  · exact Nat.div_le_div_right (Nat.le_add_right _ _)
  · have hstatic := h.static_aligned
    have hoffset := hfits.offset_aligned
    simp only [Placement.stop, Placement.start, Placement.length, Words.elementSize] at *
    omega

/-- A dynamic name is placed behind the static part and inside the buffer. -/
theorem placement_dynamic (h : layout.Settled total) {name : String}
    {allocation : DynamicAllocation}
    (hget : layout.floating.allocations.get? name = some allocation) :
    ∃ offset size, layout.placement name =
        .ok ⟨name, .floating, layout.fixed.size + offset, size⟩ ∧
      Placement.Within ⟨name, .floating, layout.fixed.size + offset, size⟩
        (layout.fixed.size / Words.elementSize) (total / Words.elementSize) := by
  obtain ⟨offset, size, hvalues⟩ := ((isResolved_iff layout).mp h.resolved).2 _
    ((NameTable.get?_eq_some_iff _ _ _).mp hget)
  dsimp only at hvalues
  rw [hvalues] at hget
  exact ⟨offset, size, h.placement_known hget⟩

/-- What can be placed at all lies in the part its name belongs to. -/
theorem placement_cases (h : layout.Settled total) {name : String} {placement : Placement}
    (hplace : layout.placement name = .ok placement) :
    (name ∈ layout.fixed.allocations.names ∧
      placement.Within 0 (layout.fixed.size / Words.elementSize)) ∨
    (name ∉ layout.fixed.allocations.names ∧
      placement.Within (layout.fixed.size / Words.elementSize) (total / Words.elementSize)) := by
  cases hstatic : layout.fixed.allocations.get? name with
  | some allocation =>
    obtain ⟨hok, hwithin⟩ := h.placement_static hstatic
    cases hok.symm.trans hplace
    exact Or.inl ⟨(NameTable.mem_names_iff _ _).mpr ⟨_, hstatic⟩, hwithin⟩
  | none =>
    cases hdynamic : layout.floating.allocations.get? name with
    | some allocation =>
      obtain ⟨offset, size, hok, hwithin⟩ := h.placement_dynamic hdynamic
      cases hok.symm.trans hplace
      refine Or.inr ⟨fun hmem => ?_, hwithin⟩
      obtain ⟨value, hvalue⟩ := (NameTable.mem_names_iff _ _).mp hmem
      cases hstatic.symm.trans hvalue
    | none => simp [Layout.placement, hstatic, hdynamic] at hplace

theorem placement_within (h : layout.Settled total) {name : String} {placement : Placement}
    (hplace : layout.placement name = .ok placement) :
    placement.Within 0 (total / Words.elementSize) := by
  rcases h.placement_cases hplace with ⟨-, hw⟩ | ⟨-, hw⟩
  · exact ⟨hw.offset_aligned, hw.size_aligned, hw.low_le, Nat.le_trans hw.stop_le h.static_le_total⟩
  · exact ⟨hw.offset_aligned, hw.size_aligned, Nat.zero_le _, hw.stop_le⟩

/-- A static allocation shares no element with an allocation of another name. -/
theorem static_separated (h : layout.Settled total) {name other : String}
    {placement otherPlacement : Placement} (hmem : name ∈ layout.fixed.allocations.names)
    (hne : name ≠ other) (hplace : layout.placement name = .ok placement)
    (hother : layout.placement other = .ok otherPlacement) (i : Nat) :
    ¬ (placement.Covers i ∧ otherPlacement.Covers i) := by
  rintro ⟨hi, hj⟩
  obtain ⟨a, ha⟩ := (NameTable.mem_names_iff _ _).mp hmem
  obtain ⟨haok, hawithin⟩ := h.placement_static ha
  cases haok.symm.trans hplace
  rcases h.placement_cases hother with ⟨hmem', -⟩ | ⟨-, hbwithin⟩
  · obtain ⟨b, hb⟩ := (NameTable.mem_names_iff _ _).mp hmem'
    obtain ⟨hbok, hbwithin⟩ := h.placement_static hb
    cases hbok.symm.trans hother
    have hoverlap := ((check_eq_ok_iff layout).mp h.check_ok).2.2.1
    have hapart := static_apart layout.fixed hoverlap ((NameTable.get?_eq_some_iff _ _ _).mp ha)
      ((NameTable.get?_eq_some_iff _ _ _).mp hb) hne
    have haligned := hawithin.offset_aligned
    have haligned' := hbwithin.offset_aligned
    simp only [Placement.Covers, Placement.stop, Placement.start, Placement.length,
      Words.elementSize] at *
    omega
  · have hlow := hbwithin.low_le
    have hhigh := hawithin.stop_le
    simp only [Placement.Covers] at hi hj
    omega

end Settled

/-! ### Bound layouts -/

/-- Every name of a bound layout whose size is a word can be placed. Static names lie in the static
part and share no element with each other, dynamic names lie behind it, and all of them consist of
whole elements of the buffer. -/
theorem bind_places_allocations (layout : Layout) (bindings : Bindings) (bound : Layout)
    (total : Nat) (hbind : layout.bind bindings = .ok bound)
    (htotal : bound.totalSize = .ok total) :
    bound.isResolved = true ∧ bound.fixed = layout.fixed ∧
    List.Forall₂ (fun a b => a.1 = b.1 ∧ a.2.name = b.2.name)
      layout.floating.allocations.entries bound.floating.allocations.entries ∧
    Words.elementSize ∣ total ∧
    (∀ name ∈ bound.fixed.allocations.names, ∃ placement,
      bound.placement name = .ok placement ∧ placement.name = name ∧ placement.region = .fixed ∧
        placement.Within 0 (bound.fixed.size / Words.elementSize)) ∧
    (∀ name ∈ bound.floating.allocations.names, ∃ placement,
      bound.placement name = .ok placement ∧ placement.name = name ∧
        placement.region = .floating ∧ placement.Within
          (bound.fixed.size / Words.elementSize) (total / Words.elementSize)) ∧
    bound.fixed.size / Words.elementSize ≤ total / Words.elementSize ∧
    ∀ name ∈ bound.fixed.allocations.names, ∀ other ∈ bound.fixed.allocations.names,
      name ≠ other → ∀ placement otherPlacement, bound.placement name = .ok placement →
        bound.placement other = .ok otherPlacement →
          ∀ i, ¬ (placement.Covers i ∧ otherPlacement.Covers i) := by
  obtain ⟨hcheck, hresolved, hfixed, hnames⟩ := bind_eq_ok layout bindings hbind
  have hsettled : bound.Settled total := ⟨hcheck, hresolved, htotal⟩
  refine ⟨hresolved, hfixed, hnames, hsettled.total_aligned, ?_, ?_, hsettled.static_le_total, ?_⟩
  · intro name hmem
    obtain ⟨allocation, hget⟩ := (NameTable.mem_names_iff _ _).mp hmem
    obtain ⟨hplace, hwithin⟩ := hsettled.placement_static hget
    exact ⟨_, hplace, rfl, rfl, hwithin⟩
  · intro name hmem
    obtain ⟨allocation, hget⟩ := (NameTable.mem_names_iff _ _).mp hmem
    obtain ⟨offset, size, hplace, hwithin⟩ := hsettled.placement_dynamic hget
    exact ⟨_, hplace, rfl, rfl, hwithin⟩
  · intro name hmem other _ hne placement otherPlacement hplace hother
    exact hsettled.static_separated hmem hne hplace hother

/-- Two static tensors and two dynamic ones, whose extents follow the size of a batch. -/
def batchLayout (perBatch shifted total : Extent) : Layout :=
  ((((empty.pushStatic "w" 8).pushStatic "b" 4).pushDynamic "x" (.value 0) perBatch).pushDynamic
    "y" perBatch shifted).setDynamicSize total

/-- The byte count of one element for each sample of the batch. -/
def perBatch : Expr := .binary .mul (.name "N") (.int 4)

theorem bind_places_batch :
    ∃ bound, (batchLayout (.placeholder ⟨"N * 4", perBatch⟩) (.value 8)
        (.placeholder ⟨"N * 4 + 8", .binary .add perBatch (.int 8)⟩)).bind
          (NameTable.empty.insert "N" 3) = .ok bound ∧
      bound.totalSize = .ok 32 ∧ bound.isResolved = true ∧
      (∃ placement, bound.placement "w" = .ok placement ∧ placement.Within 0 3) ∧
      (∃ placement, bound.placement "y" = .ok placement ∧ placement.Within 3 8) ∧
      ∀ placement otherPlacement, bound.placement "w" = .ok placement →
        bound.placement "b" = .ok otherPlacement →
          ∀ i, ¬ (placement.Covers i ∧ otherPlacement.Covers i) := by
  have hbind : (batchLayout (.placeholder ⟨"N * 4", perBatch⟩) (.value 8)
      (.placeholder ⟨"N * 4 + 8", .binary .add perBatch (.int 8)⟩)).bind
        (NameTable.empty.insert "N" 3) =
      .ok (batchLayout (.value 12) (.value 8) (.value 20)) := by cbv
  have htotal : (batchLayout (.value 12) (.value 8) (.value 20)).totalSize = .ok 32 := by cbv
  obtain ⟨hresolved, -, -, -, hstatic, hdynamic, -, hapart⟩ :=
    bind_places_allocations _ _ _ _ hbind htotal
  refine ⟨_, hbind, htotal, hresolved, ?_, ?_, ?_⟩
  · obtain ⟨placement, hplace, -, -, hwithin⟩ := hstatic "w" (by decide)
    exact ⟨placement, hplace, hwithin⟩
  · obtain ⟨placement, hplace, -, -, hwithin⟩ := hdynamic "y" (by decide)
    exact ⟨placement, hplace, hwithin⟩
  · exact hapart "w" (by decide) "b" (by decide) (by decide)

end Layout

end TensorBench
