import TensorBench.Layout.Bind
import TensorBench.Proofs.Layout.Consistency

/-!
What binding a layout does. It keeps the static part and all names, puts the value of each extent in
its place, and leaves the verdict to the checks. A layout is resolved if no placeholder is left in it.
-/
namespace TensorBench.Layout

open Sequencing

/-! ### Known extents -/

theorem pendingIn_eq_nil_iff (what : String) (extent : Extent) :
    pendingIn what extent = [] ↔ ∃ bytes, extent = .value bytes := by
  cases extent <;> simp [pendingIn]

theorem isResolved_iff (layout : Layout) :
    layout.isResolved = true ↔ (∃ bytes, layout.floating.size = .value bytes) ∧
      ∀ entry ∈ layout.floating.allocations.entries,
        ∃ offset size, entry.2 = ⟨entry.2.name, .value offset, .value size⟩ := by
  unfold isResolved unresolved
  rw [List.isEmpty_iff, List.append_eq_nil_iff, List.flatMap_eq_nil_iff, pendingIn_eq_nil_iff]
  refine and_congr_right fun _ => forall₂_congr fun entry _ => ?_
  obtain ⟨key, name, offset, size⟩ := entry
  simp [pendingIn_eq_nil_iff]

theorem ensureResolved_eq_ok_iff (layout : Layout) :
    layout.ensureResolved = .ok () ↔ layout.isResolved = true := by
  unfold ensureResolved
  by_cases h : layout.isResolved = true <;> simp [h]

/-- The placeholders of a layout are those of its dynamic part: of its size, and of the offset and
the size of each allocation. -/
theorem mem_placeholders_iff (layout : Layout) (expr : Placeholder) :
    expr ∈ layout.placeholders ↔ layout.floating.size = .placeholder expr ∨
      ∃ entry ∈ layout.floating.allocations.entries,
        entry.2.offset = .placeholder expr ∨ entry.2.size = .placeholder expr := by
  simp only [placeholders, List.mem_append, List.mem_flatMap]
  rw [or_comm]
  refine or_congr ?_ (exists_congr fun entry => and_congr_right fun _ => or_congr ?_ ?_)
  · cases layout.floating.size <;> simp [eq_comm]
  · cases entry.2.offset <;> simp [eq_comm]
  · cases entry.2.size <;> simp [eq_comm]

/-- A layout without placeholders is resolved. -/
theorem isResolved_of_placeholders_eq_nil {layout : Layout} (hnone : layout.placeholders = []) :
    layout.isResolved = true := by
  have hknown (extent : Extent)
      (hlisted : ∀ expr, extent = .placeholder expr → expr ∈ layout.placeholders) :
      ∃ bytes, extent = .value bytes := by
    cases extent with
    | value bytes => exact ⟨bytes, rfl⟩
    | placeholder expr =>
      have hmem := hlisted expr rfl
      rw [hnone] at hmem
      cases hmem
  refine (isResolved_iff layout).mpr ⟨?_, fun entry hmem => ?_⟩
  · exact hknown _ fun expr hsame => (mem_placeholders_iff _ _).mpr (.inl hsame)
  · obtain ⟨offset, hoffset⟩ := hknown entry.2.offset fun expr hsame =>
      (mem_placeholders_iff _ _).mpr (.inr ⟨entry, hmem, .inl hsame⟩)
    obtain ⟨size, hsize⟩ := hknown entry.2.size fun expr hsame =>
      (mem_placeholders_iff _ _).mpr (.inr ⟨entry, hmem, .inr hsame⟩)
    exact ⟨offset, size, by rw [← hoffset, ← hsize]⟩

/-! ### Evaluated extents -/

theorem bindAllocation_eq_ok_iff (bindings : Bindings) (entry : String × DynamicAllocation)
    (bound : DynamicAllocation) :
    bindAllocation bindings entry = .ok bound ↔
      ∃ offset size, entry.2.offset.resolve bindings = .ok offset ∧
        entry.2.size.resolve bindings = .ok size ∧
        bound = ⟨entry.2.name, .value offset, .value size⟩ := by
  unfold bindAllocation
  constructor
  · intro h
    obtain ⟨offset, hoffset, h⟩ := bind_eq_ok_iff.mp h
    obtain ⟨size, hsize, h⟩ := bind_eq_ok_iff.mp h
    cases h
    exact ⟨offset, size, hoffset, hsize, rfl⟩
  · rintro ⟨offset, size, hoffset, hsize, rfl⟩
    rw [hoffset, hsize]
    rfl

/-- The layout that a layout becomes when all of its extents are evaluated. -/
structure Resolves (bindings : Bindings) (layout bound : Layout) : Prop where
  fixed_eq : bound.fixed = layout.fixed
  size_ok : ∃ bytes, layout.floating.size.resolve bindings = .ok bytes ∧
    bound.floating.size = .value bytes
  allocations_ok : List.Forall₂
    (fun a b => a.1 = b.1 ∧ bindAllocation bindings a = .ok b.2)
    layout.floating.allocations.entries bound.floating.allocations.entries

theorem resolves_of_resolve {layout bound : Layout} {bindings : Bindings}
    (h : layout.resolve bindings = .ok bound) : Resolves bindings layout bound := by
  unfold resolve at h
  obtain ⟨allocations, hwalk, h⟩ := bind_eq_ok_iff.mp h
  obtain ⟨size, hsize, h⟩ := bind_eq_ok_iff.mp h
  cases h
  exact ⟨rfl, ⟨size, hsize, rfl⟩, NameTable.traverse_eq_ok _ _ hwalk⟩

theorem Resolves.isResolved {layout bound : Layout} {bindings : Bindings}
    (h : Resolves bindings layout bound) : bound.isResolved = true := by
  obtain ⟨size, -, hsize⟩ := h.size_ok
  refine (isResolved_iff _).mpr ⟨⟨size, hsize⟩, fun entry hmem => ?_⟩
  obtain ⟨before, -, -, hbound⟩ := exists_item_of_mem_results h.allocations_ok hmem
  obtain ⟨offset, size, -, -, hsame⟩ := (bindAllocation_eq_ok_iff _ _ _).mp hbound
  exact ⟨offset, size, by rw [hsame]⟩

/-- Binding evaluates the extents and then checks the layout. -/
theorem bound_iff (layout : Layout) (bindings : Bindings) (bound : Layout) :
    layout.bind bindings = .ok bound ↔
      layout.resolve bindings = .ok bound ∧ bound.check = .ok () := by
  unfold bind
  rw [bind_eq_ok_iff]
  constructor
  · rintro ⟨resolved, hresolve, h⟩
    obtain ⟨hvalid, h⟩ := check_bind_eq_ok_iff.mp h
    cases h
    exact ⟨hresolve, (validate_eq_ok_iff _).mp hvalid⟩
  · rintro ⟨hresolve, hcheck⟩
    refine ⟨bound, hresolve, check_bind_eq_ok_iff.mpr ⟨?_, rfl⟩⟩
    exact (validate_eq_ok_iff _).mpr hcheck

/-- A bound layout has the static part and the names of the layout it comes from, its extents are
known, and the checks accept it. -/
theorem bind_eq_ok (layout : Layout) (bindings : Bindings) {bound : Layout}
    (h : layout.bind bindings = .ok bound) :
    bound.check = .ok () ∧ bound.isResolved = true ∧ bound.fixed = layout.fixed ∧
      List.Forall₂ (fun a b => a.1 = b.1 ∧ a.2.name = b.2.name)
        layout.floating.allocations.entries bound.floating.allocations.entries := by
  obtain ⟨hresolve, hcheck⟩ := (bound_iff _ _ _).mp h
  have hresolves := resolves_of_resolve hresolve
  refine ⟨hcheck, hresolves.isResolved, hresolves.fixed_eq, ?_⟩
  refine hresolves.allocations_ok.imp fun a b hab => ⟨hab.1, ?_⟩
  obtain ⟨offset, size, -, -, hsame⟩ := (bindAllocation_eq_ok_iff _ _ _).mp hab.2
  rw [hsame]

end TensorBench.Layout
