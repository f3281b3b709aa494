import TensorBench.Proofs.Expression.Names
import TensorBench.Proofs.Layout.Placement

/-!
The names a layout depends on. Binding looks up the names of the placeholders, all of them and no
others: bindings that agree there have the same result, an unbound name is always noticed, and bound
ones are never reported as unresolved.
-/
namespace TensorBench

namespace Extent

variable {bindings other : Bindings}

/-- The names that an extent is waiting for. -/
def names : Extent → List String
  | value _ => []
  | placeholder expr => expr.names

theorem resolve_congr (extent : Extent)
    (hagree : ∀ name ∈ extent.names, bindings.get? name = other.get? name) :
    extent.resolve bindings = extent.resolve other := by
  cases extent with
  | value bytes => rfl
  | placeholder expr => rw [resolve, resolve, expr.eval_congr hagree]

theorem bound_of_resolve {extent : Extent} {bytes : Nat}
    (hresolved : extent.resolve bindings = .ok bytes) :
    ∀ name ∈ extent.names, ∃ value, bindings.get? name = some value := by
  cases extent with
  | value bytes => nofun
  | placeholder expr =>
    rw [resolve] at hresolved
    cases hevaluated : expr.eval bindings with
    | error failure => simp [hevaluated] at hresolved
    | ok value => exact Placeholder.bound_of_eval hevaluated

/-- An extent is unresolved only for a name of its own that is not bound. -/
theorem unbound_of_resolve {extent : Extent} {detail : String}
    (hfailed : extent.resolve bindings = .error (.unresolvedPlaceholder detail)) :
    ∃ name ∈ extent.names, bindings.get? name = none := by
  cases extent with
  | value bytes => cases hfailed
  | placeholder expr =>
    rw [resolve] at hfailed
    cases hevaluated : expr.eval bindings with
    | error failure =>
      obtain rfl : failure = .unresolvedPlaceholder detail := by simpa [hevaluated] using hfailed
      exact Placeholder.unbound_of_eval hevaluated
    | ok value =>
      simp only [hevaluated] at hfailed
      split at hfailed <;> cases hfailed

end Extent

namespace Layout

open Sequencing

variable {bindings other : Bindings}

/-- A condition on the names of all placeholders of a layout. -/
def ForNames (layout : Layout) (P : String → Prop) : Prop :=
  ∀ expr ∈ layout.placeholders, ∀ name ∈ expr.names, P name

/-- The extents of a layout have no other names than its placeholders. -/
theorem ForNames.extents {layout : Layout} {P : String → Prop} (h : layout.ForNames P) :
    (∀ name ∈ layout.floating.size.names, P name) ∧
      ∀ entry ∈ layout.floating.allocations.entries,
        (∀ name ∈ entry.2.offset.names, P name) ∧ ∀ name ∈ entry.2.size.names, P name := by
  have hextent (e : Extent) (hlisted : ∀ expr, e = .placeholder expr → expr ∈ layout.placeholders) :
      ∀ name ∈ e.names, P name := by
    cases e with
    | value bytes => nofun
    | placeholder expr => exact h expr (hlisted expr rfl)
  refine ⟨hextent _ fun expr hsame => ?_, fun entry hmem =>
    ⟨hextent _ fun expr hsame => ?_, hextent _ fun expr hsame => ?_⟩⟩
  · exact (mem_placeholders_iff _ _).mpr (.inl hsame)
  · exact (mem_placeholders_iff _ _).mpr (.inr ⟨entry, hmem, .inl hsame⟩)
  · exact (mem_placeholders_iff _ _).mpr (.inr ⟨entry, hmem, .inr hsame⟩)

theorem resolve_congr (layout : Layout)
    (hagree : layout.ForNames fun name => bindings.get? name = other.get? name) :
    layout.resolve bindings = layout.resolve other := by
  obtain ⟨hsize, hallocations⟩ := hagree.extents
  have hwalk : layout.floating.allocations.traverse (bindAllocation bindings) =
      layout.floating.allocations.traverse (bindAllocation other) := by
    refine NameTable.traverse_congr _ fun entry hmem => ?_
    obtain ⟨hoffsetNames, hsizeNames⟩ := hallocations entry hmem
    rw [bindAllocation, bindAllocation, Extent.resolve_congr _ hoffsetNames,
      Extent.resolve_congr _ hsizeNames]
  rw [resolve, resolve, hwalk, Extent.resolve_congr _ hsize]

/-- A layout that is evaluated has all of its names bound. -/
theorem Resolves.bound {layout bound : Layout} (h : Resolves bindings layout bound) :
    layout.ForNames fun name => ∃ value, bindings.get? name = some value := by
  intro expr hmem
  rcases (mem_placeholders_iff _ _).mp hmem with hsame | ⟨entry, hmem, hsame⟩
  · obtain ⟨bytes, hbytes, -⟩ := h.size_ok
    have hnames := Extent.bound_of_resolve hbytes
    rwa [hsame] at hnames
  · obtain ⟨lateEntry, -, -, hbound⟩ := exists_item_of_mem_results h.allocations_ok.flip hmem
    obtain ⟨offset, size, hoffset, hsize, -⟩ := (bindAllocation_eq_ok_iff _ _ _).mp hbound
    rcases hsame with hsame | hsame
    · have hnames := Extent.bound_of_resolve hoffset
      rwa [hsame] at hnames
    · have hnames := Extent.bound_of_resolve hsize
      rwa [hsame] at hnames

/-- Failures other than that of an unresolved placeholder. -/
def IsOther (failure : Failure) : Prop := ∀ detail, failure ≠ .unresolvedPlaceholder detail

theorem resolve_extent_failsAs {extent : Extent}
    (hbound : ∀ name ∈ extent.names, ∃ value, bindings.get? name = some value) :
    FailsAs IsOther (extent.resolve bindings) := by
  rintro failure hfailed detail rfl
  obtain ⟨name, hmem, hmissing⟩ := Extent.unbound_of_resolve hfailed
  obtain ⟨value, hfound⟩ := hbound name hmem
  cases hmissing.symm.trans hfound

theorem validate_failsAs (layout : Layout) : FailsAs IsOther layout.validate := by
  unfold validate
  cases layout.check with
  | ok _ => exact .ok ()
  | error violation => exact .error nofun

theorem bind_failsAs {layout : Layout}
    (hbound : layout.ForNames fun name => ∃ value, bindings.get? name = some value) :
    FailsAs IsOther (layout.bind bindings) := by
  obtain ⟨hsize, hallocations⟩ := hbound.extents
  have hwalk : FailsAs IsOther
      (layout.floating.allocations.traverse (bindAllocation bindings)) := by
    refine NameTable.traverse_failsAs _ fun entry hmem => ?_
    obtain ⟨hoffsetNames, hsizeNames⟩ := hallocations entry hmem
    exact (resolve_extent_failsAs hoffsetNames).bind fun _ =>
      (resolve_extent_failsAs hsizeNames).bind fun _ => .ok _
  have hresolved : FailsAs IsOther (layout.resolve bindings) :=
    hwalk.bind fun _ => (resolve_extent_failsAs hsize).bind fun _ => .ok _
  exact hresolved.bind fun later => (validate_failsAs later).bind fun _ => .ok _

/-- Bindings that agree on the names of the placeholders of a layout, values and absence alike, bind
it with the same result. Binding fails if one of these names is unbound, and where all of them are
bound it does not fail for an unresolved placeholder. -/
theorem bind_determined_by_names (layout : Layout) (bindings : Bindings) :
    (∀ other : Bindings,
      (∀ expr ∈ layout.placeholders, ∀ name ∈ expr.names,
        bindings.get? name = other.get? name) →
      layout.bind bindings = layout.bind other) ∧
    ((∃ expr ∈ layout.placeholders, ∃ name ∈ expr.names, bindings.get? name = none) →
      ∃ failure, layout.bind bindings = .error failure) ∧
    ((∀ expr ∈ layout.placeholders, ∀ name ∈ expr.names,
        ∃ value, bindings.get? name = some value) →
      ∀ detail, layout.bind bindings ≠ .error (.unresolvedPlaceholder detail)) := by
  refine ⟨fun other hagree => ?_, ?_, fun hbound detail hfailed => ?_⟩
  · rw [bind, bind, resolve_congr layout hagree]
  · rintro ⟨expr, hmem, name, hmentioned, hmissing⟩
    cases hresult : layout.bind bindings with
    | error failure => exact ⟨failure, rfl⟩
    | ok later =>
      have hresolves := resolves_of_resolve ((bound_iff _ _ _).mp hresult).1
      obtain ⟨value, hfound⟩ := hresolves.bound expr hmem name hmentioned
      cases hmissing.symm.trans hfound
  · exact bind_failsAs hbound _ hfailed detail rfl

/-- A size that is known to be zero once its name is bound. -/
def idle : Placeholder := ⟨"0 * N", .binary .mul (.int 0) (.name "N")⟩

theorem bind_determined_by_names_idle :
    (∃ failure, (empty.setDynamicSize (.placeholder idle)).bind (NameTable.empty.insert "M" 3) =
      .error failure) ∧
    (empty.setDynamicSize (.placeholder idle)).bind
        ((NameTable.empty.insert "M" 3).insert "N" 5) =
      (empty.setDynamicSize (.placeholder idle)).bind (NameTable.empty.insert "N" 5) ∧
    ∀ detail, (empty.setDynamicSize (.placeholder idle)).bind (NameTable.empty.insert "N" 5) ≠
      .error (.unresolvedPlaceholder detail) := by
  have honly (expr : Placeholder)
      (hmem : expr ∈ (empty.setDynamicSize (.placeholder idle)).placeholders) :
      expr = idle := List.mem_singleton.mp hmem
  have hwaits (name : String) (hmem : name ∈ idle.names) : name = "N" := by
    simpa [Placeholder.mem_names_iff, idle, Expr.names] using hmem
  refine ⟨?_, ?_, ?_⟩
  · refine (bind_determined_by_names _ _).2.1 ⟨idle, by decide, "N", by decide, by decide⟩
  · refine (bind_determined_by_names _ _).1 _ fun expr hmem name hmentioned => ?_
    rw [honly expr hmem] at hmentioned
    rw [hwaits name hmentioned]
    decide
  · refine (bind_determined_by_names _ _).2.2 fun expr hmem name hmentioned => ?_
    rw [honly expr hmem] at hmentioned
    rw [hwaits name hmentioned]
    exact ⟨5, by decide⟩

end Layout

end TensorBench
