import TensorBench.Proofs.Layout.Placement

/-!
Layouts put together one allocation after the other. An allocation pushed to the static part begins
where that part ended before, so the part stays consistent whatever was pushed earlier, under the same
name or another one.
-/
namespace TensorBench.Layout

open Sequencing

/-! ### The static part -/

/-- A consistent static part: its allocations lie inside and share no byte. -/
structure Packed (region : StaticRegion) : Prop where
  aligned : Words.elementSize ∣ region.size
  addressable : region.size < Words.limit
  fits : ∀ entry ∈ region.allocations.entries, StaticFits region.size entry.1 entry.2
  apart : ∀ a ∈ region.allocations.entries, ∀ b ∈ region.allocations.entries, a.1 ≠ b.1 →
    a.2.offset + a.2.size ≤ b.2.offset ∨ b.2.offset + b.2.size ≤ a.2.offset

theorem packed_empty : Packed empty.fixed :=
  ⟨Nat.dvd_zero _, by decide, nofun, nofun⟩

/-- Whole elements may be pushed as long as the part can be addressed. -/
theorem Packed.pushStatic {layout : Layout} (hpacked : Packed layout.fixed) (name : String)
    {size : Nat} (hwhole : Words.elementSize ∣ size)
    (haddressable : layout.fixed.size + size < Words.limit) :
    Packed (layout.pushStatic name size).fixed := by
  have hcases {entry : String × StaticAllocation}
      (hmem : entry ∈ (layout.pushStatic name size).fixed.allocations.entries) :
      entry = (name, ⟨name, layout.fixed.size, size⟩) ∨ entry ∈ layout.fixed.allocations.entries :=
    NameTable.mem_insertEntry hmem
  refine ⟨Nat.dvd_add hpacked.aligned hwhole, haddressable, fun entry hmem => ?_,
    fun a hleft b hright hnames => ?_⟩
  · rcases hcases hmem with rfl | hearlier
    · exact ⟨rfl, hpacked.aligned, hwhole, haddressable, Nat.le_refl _⟩
    · obtain ⟨hkey, hoffset, hsize, hlast, hinside⟩ := hpacked.fits entry hearlier
      exact ⟨hkey, hoffset, hsize, hlast, Nat.le_add_right_of_le hinside⟩
  · rcases hcases hleft with rfl | hleft <;> rcases hcases hright with rfl | hright
    · exact absurd rfl hnames
    · exact .inr (hpacked.fits b hright).stop_le
    · exact .inl (hpacked.fits a hleft).stop_le
    · exact hpacked.apart a hleft b hright hnames

/-! ### The whole layout -/

theorem checkDynamic_eq_ok {layout : Layout} {bytes : Nat}
    (hknown : layout.floating.size = .value bytes) {key name : String} {offset size : Nat}
    (hfits : DynamicFits layout bytes key name offset size)
    (haddressable : bytes < Words.limit) :
    checkDynamic layout (key, ⟨name, .value offset, .value size⟩) = .ok () := by
  obtain ⟨hsame, hfresh, hoffsetAligned, hsizeAligned, hinside⟩ := hfits
  refine (checkDynamic_eq_ok_iff layout _).mpr ⟨hsame, hfresh, Extent.whole_value hoffsetAligned,
    Extent.whole_value hsizeAligned, ?_⟩
  rintro _ _ region ⟨⟩ ⟨⟩ hsize
  cases hknown.symm.trans hsize
  exact ⟨by omega, hinside⟩

/-- A packed static part and a dynamic part of known extents, each inside the part, make a
consistent layout. -/
theorem settled_of_packed {layout : Layout} {bytes : Nat} (hpacked : Packed layout.fixed)
    (hknown : layout.floating.size = .value bytes) (haligned : Words.elementSize ∣ bytes)
    (haddressable : layout.fixed.size + bytes < Words.limit)
    (hfits : ∀ entry ∈ layout.floating.allocations.entries, ∃ offset size,
      entry.2 = ⟨entry.2.name, .value offset, .value size⟩ ∧
        DynamicFits layout bytes entry.1 entry.2.name offset size) :
    layout.Settled (layout.fixed.size + bytes) := by
  have hresolved : layout.isResolved = true := by
    refine (isResolved_iff layout).mpr ⟨⟨bytes, hknown⟩, fun entry hmem => ?_⟩
    obtain ⟨offset, size, hsame, -⟩ := hfits entry hmem
    exact ⟨offset, size, hsame⟩
  refine ⟨(check_eq_ok_iff layout).mpr ⟨hpacked.aligned, hpacked.fits,
    checkStaticOverlap_of_apart _ fun a hleft b hright hnames _ _ =>
      hpacked.apart a hleft b hright hnames, ?_, ?_⟩, hresolved,
    (totalSize_eq_ok_iff layout _).mpr ⟨bytes, hresolved, hknown, haddressable, rfl⟩⟩
  · rw [checkExtent_eq_ok_iff, hknown]
    exact Extent.whole_value haligned
  · intro entry hmem
    obtain ⟨offset, size, hsame, hinside⟩ := hfits entry hmem
    have hchecked := checkDynamic_eq_ok hknown hinside (by omega)
    rwa [← hsame] at hchecked

end TensorBench.Layout
