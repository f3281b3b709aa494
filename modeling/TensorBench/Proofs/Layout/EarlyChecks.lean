import TensorBench.Proofs.Layout.Placement

/-!
Checks before binding. Extents that are not known yet are under no condition, so a layout of which
more is known obeys every rule that one of which less is known is checked for. Checking a layout
before it is bound therefore refuses nothing that could be bound, and where nothing is left to bind
the early verdict is the final one.
-/
namespace TensorBench

/-- Whatever is known of an extent is still known of a later one. -/
def Extent.Extends (extent later : Extent) : Prop :=
  ∀ bytes, extent = .value bytes → later = .value bytes

theorem Extent.Extends.whole {extent later : Extent} (hkept : extent.Extends later)
    (hwhole : later.Whole) : extent.Whole :=
  fun bytes hknown => hwhole bytes (hkept bytes hknown)

theorem Extent.extends_of_resolve {extent : Extent} {bindings : Bindings} {bytes : Nat}
    (hresolved : extent.resolve bindings = .ok bytes) : extent.Extends (.value bytes) := by
  rintro known rfl
  cases hresolved
  rfl

namespace Layout

open Sequencing

/-- A later state of a layout, of which at least as much is known: the static part and the names are
the same, and an extent that is known keeps its value. -/
structure Extends (layout later : Layout) : Prop where
  fixed_eq : later.fixed = layout.fixed
  size_kept : layout.floating.size.Extends later.floating.size
  allocations_kept : List.Forall₂
    (fun a b => a.1 = b.1 ∧ a.2.name = b.2.name ∧ a.2.offset.Extends b.2.offset ∧
      a.2.size.Extends b.2.size)
    layout.floating.allocations.entries later.floating.allocations.entries

theorem Resolves.extends {layout bound : Layout} {bindings : Bindings}
    (h : Resolves bindings layout bound) : layout.Extends bound := by
  refine ⟨h.fixed_eq, ?_, h.allocations_ok.imp fun a b hab => ⟨hab.1, ?_⟩⟩
  · obtain ⟨bytes, hbytes, hsize⟩ := h.size_ok
    rw [hsize]
    exact Extent.extends_of_resolve hbytes
  · obtain ⟨offset, size, hoffset, hsize, hsame⟩ := (bindAllocation_eq_ok_iff _ _ _).mp hab.2
    rw [hsame]
    exact ⟨rfl, Extent.extends_of_resolve hoffset, Extent.extends_of_resolve hsize⟩

/-- A dynamic allocation is checked for less where less is known of it and of the size of its
part. -/
theorem checkDynamic_of_extends {layout later : Layout} (h : layout.Extends later)
    {entry lateEntry : String × DynamicAllocation} (hkeys : entry.1 = lateEntry.1)
    (hnames : entry.2.name = lateEntry.2.name)
    (hoffsets : entry.2.offset.Extends lateEntry.2.offset)
    (hsizes : entry.2.size.Extends lateEntry.2.size)
    (hchecked : checkDynamic later lateEntry = .ok ()) : checkDynamic layout entry = .ok () := by
  rw [checkDynamic_eq_ok_iff] at hchecked ⊢
  obtain ⟨hkey, hfresh, hoffsetWhole, hsizeWhole, hinside⟩ := hchecked
  rw [hkeys, hnames, ← h.fixed_eq]
  refine ⟨hkey, hfresh, hoffsets.whole hoffsetWhole, hsizes.whole hsizeWhole, ?_⟩
  intro offset size bytes hoffset hsize hbytes
  exact hinside offset size bytes (hoffsets _ hoffset) (hsizes _ hsize)
    (h.size_kept _ hbytes)

/-- A layout that is consistent in the end has been so all along. -/
theorem check_of_extends {layout later : Layout} (h : layout.Extends later)
    (hchecked : later.check = .ok ()) : layout.check = .ok () := by
  rw [check_eq_ok_iff, checkExtent_eq_ok_iff] at hchecked ⊢
  obtain ⟨hwhole, hstatics, hdisjoint, hdynamicWhole, hdynamics⟩ := hchecked
  rw [h.fixed_eq] at hwhole hstatics hdisjoint
  refine ⟨hwhole, hstatics, hdisjoint, h.size_kept.whole hdynamicWhole, fun entry hmem => ?_⟩
  obtain ⟨lateEntry, hlateMember, hkeys, hnames, hoffsets, hsizes⟩ :=
    exists_item_of_mem_results h.allocations_kept.flip hmem
  exact checkDynamic_of_extends h hkeys hnames hoffsets hsizes
    (hdynamics lateEntry hlateMember)

/-! ### Nothing left to bind -/

/-- A resolved layout is its own value under any bindings. -/
theorem resolve_of_isResolved {layout : Layout} (h : layout.isResolved = true)
    (bindings : Bindings) : layout.resolve bindings = .ok layout := by
  obtain ⟨⟨bytes, hbytes⟩, hentries⟩ := (isResolved_iff layout).mp h
  have hwalked : layout.floating.allocations.traverse (bindAllocation bindings) =
      .ok layout.floating.allocations := by
    refine NameTable.traverse_eq_self _ _ fun entry hmem => ?_
    obtain ⟨offset, size, hknown⟩ := hentries entry hmem
    exact (bindAllocation_eq_ok_iff _ _ _).mpr
      ⟨offset, size, by rw [hknown]; rfl, by rw [hknown]; rfl, hknown⟩
  have hsized : layout.floating.size.resolve bindings = .ok bytes := by
    rw [hbytes]
    rfl
  rw [resolve, hwalked, hsized]
  show Except.ok (Layout.mk layout.fixed ⟨.value bytes, layout.floating.allocations⟩) = .ok layout
  rw [← hbytes]

/-- A layout that can be bound passes the checks before it is bound. A layout without placeholders
is bound to itself under any bindings if it passes them, and is refused with their failure
otherwise. -/
theorem bind_checks_early (layout : Layout) (bindings : Bindings) :
    (∀ bound, layout.bind bindings = .ok bound → layout.validate = .ok ()) ∧
    (layout.placeholders = [] →
      (layout.validate = .ok () → layout.bind bindings = .ok layout) ∧
      ∀ failure, layout.validate = .error failure →
        layout.bind bindings = .error failure) := by
  constructor
  · intro bound hbind
    obtain ⟨hresolve, hcheck⟩ := (bound_iff _ _ _).mp hbind
    have hextends := (resolves_of_resolve hresolve).extends
    exact (validate_eq_ok_iff layout).mpr (check_of_extends hextends hcheck)
  · intro hnone
    have hresolve := resolve_of_isResolved (isResolved_of_placeholders_eq_nil hnone) bindings
    have hbind : layout.bind bindings = layout.validate >>= fun _ => .ok layout := by
      rw [bind, hresolve]
      rfl
    rw [hbind]
    refine ⟨fun hvalid => ?_, fun failure hinvalid => ?_⟩
    · rw [hvalid]
      rfl
    · rw [hinvalid]
      rfl

/-- Checked while the size of the batch is open, and with all extents known under bindings that do
not matter. -/
theorem bind_checks_early_batch :
    (batchLayout (.placeholder ⟨"N * 4", perBatch⟩) (.value 8)
      (.placeholder ⟨"N * 4 + 8", .binary .add perBatch (.int 8)⟩)).validate = .ok () ∧
    (batchLayout (.value 4) (.value 8) (.value 12)).bind (NameTable.empty.insert "N" 3) =
      .ok (batchLayout (.value 4) (.value 8) (.value 12)) ∧
    (batchLayout (.value 4) (.value 8) (.value 8)).bind (NameTable.empty.insert "N" 3) =
      .error (Violation.outsideDynamic "y" 4 12 8).failure := by
  have hbind : (batchLayout (.placeholder ⟨"N * 4", perBatch⟩) (.value 8)
      (.placeholder ⟨"N * 4 + 8", .binary .add perBatch (.int 8)⟩)).bind
        (NameTable.empty.insert "N" 3) =
      .ok (batchLayout (.value 12) (.value 8) (.value 20)) := by cbv
  have hvalid : (batchLayout (.value 4) (.value 8) (.value 12)).validate = .ok () := by cbv
  have hrefused : (batchLayout (.value 4) (.value 8) (.value 8)).check =
      .error (.outsideDynamic "y" 4 12 8) := by cbv
  have hinvalid : (batchLayout (.value 4) (.value 8) (.value 8)).validate =
      .error (Violation.outsideDynamic "y" 4 12 8).failure := by
    rw [validate, hrefused]
  refine ⟨(bind_checks_early _ _).1 _ hbind, ?_, ?_⟩
  · exact ((bind_checks_early _ _).2 (by rfl)).1 hvalid
  · exact ((bind_checks_early _ _).2 (by rfl)).2 _ hinvalid

end Layout

end TensorBench
