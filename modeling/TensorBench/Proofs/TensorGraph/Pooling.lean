import TensorBench.Proofs.TensorGraph.Acceptance
import TensorBench.Proofs.TensorGraph.Convolution

/-!
What pooling computes. Each element of the result is the maximum of the elements of the input in its
window, compared in the order of the rows and columns of the window. Where pooling is accepted no
window lies in the padding alone, so no element of the result comes from padding.
-/
namespace TensorBench

variable {α : Type}

namespace KernelPlace

theorem mem_all_iff (size : Nat) (place : KernelPlace) :
    place ∈ all size ↔ place.row < size ∧ place.column < size := by
  obtain ⟨row, column⟩ := place
  simp [all]

/-- The places of a window that lie inside the input, row by row. -/
def inside (size stride padding : Nat) (input : VolumeShape) (row column : Nat) :
    List KernelPlace :=
  (all size).filter fun place => place.Sees stride padding input row column

theorem inside_ne_nil {size stride padding row column : Nat} {input result : VolumeShape}
    (hpools : input.Pools size stride padding result) (hpadding : padding < size)
    (hheight : 0 < input.height) (hwidth : 0 < input.width) (hrow : row < result.height)
    (hcolumn : column < result.width) : inside size stride padding input row column ≠ [] := by
  obtain ⟨tapRow, hlow, hseesRow⟩ :=
    Window.exists_tap_sees hpools.height_eq hheight hpadding hrow
  obtain ⟨tapColumn, hleft, hseesColumn⟩ :=
    Window.exists_tap_sees hpools.width_eq hwidth hpadding hcolumn
  refine List.ne_nil_of_mem (a := ⟨tapRow, tapColumn⟩) (List.mem_filter.mpr ⟨?_, ?_⟩)
  · exact (mem_all_iff size _).mpr ⟨hlow, hleft⟩
  · exact decide_eq_true ⟨hseesRow, hseesColumn⟩

/-- The element of the input behind a place of a window. -/
def element? (x : Volume α) (stride padding channel row column : Nat) (place : KernelPlace) :
    Option α :=
  x.at? channel (row * stride + place.row - padding) (column * stride + place.column - padding)

end KernelPlace

namespace Operator

variable [Scalar α] {x : Volume α} {size stride padding channel row column : Nat}
  {result : VolumeShape}

/-- What the comparison with a tap does to one element of the result. -/
theorem maxWith?_at {output : VolumeShape} {tap : Tap} (hfits : tap.fits stride x.shape = true)
    (hrow : row < output.height) (hcolumn : column < output.width) {values : Array α} {top : α}
    (htop : values[output.position channel row column]? = some top) :
    ∃ next, maxWith? x stride output values tap = some next ∧
      next[output.position channel row column]? = some (if tap.covers row column then
        Scalar.max top (tap.seen stride x channel row column) else top) := by
  unfold maxWith?
  rw [if_pos hfits]
  refine ⟨_, rfl, ?_⟩
  rw [Array.getElem?_mapIdx, htop, Option.map_some, VolumeShape.channelOf_position _ _ hrow hcolumn,
    VolumeShape.rowOf_position _ _ hrow hcolumn, VolumeShape.columnOf_position _ _ _ hcolumn]

/-- The walk over the taps that serve an element is a walk over the places inside the input. -/
theorem foldlM_inside_eq_visible (hstride : 0 < stride) (hrow : row < result.height)
    (hcolumn : column < result.width) (channel : Nat) (start : α) :
    (KernelPlace.inside size stride padding x.shape row column).foldlM (fun top place =>
        (place.element? x stride padding channel row column).map (Scalar.max top)) start =
      (Tap.visible size stride padding x.shape result).foldlM (fun top tap =>
        if tap.covers row column then
          (tap.place.element? x stride padding channel row column).map (Scalar.max top)
        else pure top) start := by
  rw [KernelPlace.inside, ← Tap.places_covering hstride hrow hcolumn, List.foldlM_map,
    List.foldlM_filter]

/-- One tap, at one element of the result. -/
theorem compareTap_at (hx : x.WellFormed) (hpools : x.shape.Pools size stride padding result)
    (hchannel : channel < result.channels) (hrow : row < result.height)
    (hcolumn : column < result.width) {tap : Tap}
    (htap : tap ∈ Tap.visible size stride padding x.shape result) {values : Array α} {top : α}
    (htop : values[result.position channel row column]? = some top) :
    ∃ next after, maxWith? x stride result values tap = some next ∧
      (if tap.covers row column then
        (tap.place.element? x stride padding channel row column).map (Scalar.max top)
        else pure top) = some after ∧
      next[result.position channel row column]? = some after := by
  have hstride := Window.stride_pos hpools.height_eq
  obtain ⟨-, -, hfits⟩ := Tap.visible_inside hstride htap
  obtain ⟨-, -, hrows, hcolumns⟩ := Tap.runs_of_mem_visible htap
  obtain ⟨next, hnext, hat⟩ := maxWith?_at hfits hrow hcolumn htop
  by_cases hcovers : tap.covers row column = true
  · obtain ⟨hseesRow, hseesColumn⟩ :=
      (tap.covers_iff hstride hrow hcolumn hrows hcolumns).mp hcovers
    obtain ⟨value, hvalue⟩ := hx.at?_eq_some (hpools.channels_eq ▸ hchannel)
      hseesRow.source_lt hseesColumn.source_lt
    rw [if_pos hcovers, seen_eq hstride htap hcovers hvalue] at hat
    refine ⟨next, _, hnext, ?_, hat⟩
    rw [if_pos hcovers, KernelPlace.element?, hvalue]
    rfl
  · rw [if_neg hcovers] at hat
    exact ⟨next, top, hnext, if_neg hcovers, hat⟩

/-- Pooling compares an element of the result with the places of its window that lie inside the
input, one after the other. -/
theorem maxPool?_at (hx : x.WellFormed) (hpools : x.shape.Pools size stride padding result)
    (hchannel : channel < result.channels) (hrow : row < result.height)
    (hcolumn : column < result.width) {y : Volume α} (hy : maxPool? x size stride padding = some y) :
    ∃ values, List.Forall₂
        (fun place value => place.element? x stride padding channel row column = some value)
        (KernelPlace.inside size stride padding x.shape row column) values ∧
      y.at? channel row column = some (values.foldl Scalar.max Scalar.negInf) := by
  have hstride := Window.stride_pos hpools.height_eq
  have hshape : windowShape x.shape.channels size stride padding x.shape = result := by
    rw [windowShape_eq hpools.height_eq hpools.width_eq, ← hpools.channels_eq]
  have hstart : (Array.replicate result.size (Scalar.negInf : α))[
      result.position channel row column]? = some Scalar.negInf := by
    rw [Array.getElem?_replicate, if_pos (result.position_lt hchannel hrow hcolumn)]
  obtain ⟨pooled, top, hpooled, htop, hat⟩ := Sequencing.foldlM_together
    (fun (values : Array α) top => values[result.position channel row column]? = some top) _ _ _
    (fun tap htap values top => compareTap_at hx hpools hchannel hrow hcolumn htap) hstart
  rw [← foldlM_inside_eq_visible hstride hrow hcolumn channel] at htop
  obtain ⟨values, hvalues, rfl⟩ := Sequencing.foldlM_map_eq_some _ _ _ htop
  refine ⟨values, hvalues, ?_⟩
  simp only [maxPool?, countable_of_pos hstride, hshape, if_true] at hy
  rw [hpooled] at hy
  cases hy
  unfold Volume.at?
  rw [if_pos ⟨hchannel, hrow, hcolumn⟩]
  exact hat

end Operator

namespace GraphBuilder

variable [Scalar α]

/-- Pooling that a builder accepts for a node of at least one row and column: the new node has a shape
to which every volume of the node's shape is pooled, each window has a place inside the input, and each
element of the result is the maximum, from negative infinity on, of the elements of its channel at
those places of its window that lie inside the input. -/
theorem maxPool_windows (builder after : GraphBuilder α) (name : String)
    (x size stride padding id : Nat) (source : VolumeShape)
    (hsource : builder.shapeOf x = .ok source) (hheight : 1 ≤ source.height)
    (hwidth : 1 ≤ source.width)
    (haccepted : builder.maxPool name x size stride padding = (.ok id, after)) (v : Volume α)
    (hv : v.HasShape source) :
    ∃ result y, after.shapeOf id = .ok result ∧ source.Pools size stride padding result ∧
      Operator.maxPool? v size stride padding = some y ∧ y.HasShape result ∧
      ∀ channel row column, channel < result.channels → row < result.height →
        column < result.width →
        KernelPlace.inside size stride padding source row column ≠ [] ∧
        ∃ values, List.Forall₂
            (fun place value => place.element? v stride padding channel row column = some value)
            (KernelPlace.inside size stride padding source row column) values ∧
          y.at? channel row column = some (values.foldl Scalar.max Scalar.negInf) := by
  have haccepted : builder.perform (.maxPool name x size stride padding) = (.ok id, after) :=
    haccepted
  obtain ⟨result, parameters, hmakes, hroom⟩ := exists_makes_of_perform haccepted
  obtain ⟨node, later, hperform, hnodes, hshape, -⟩ := appends_of_makes hmakes hroom
  cases haccepted.symm.trans hperform
  obtain ⟨hpools, hpadding⟩ : source.Pools size stride padding result ∧ padding < size := by
    cases hmakes with
    | maxPool hx hpools hpadding =>
      cases hsource.symm.trans hx
      exact ⟨hpools, hpadding⟩
  obtain ⟨hv, hcomplete⟩ := hv
  subst hv
  obtain ⟨y, hy, hhas⟩ := Operator.maxPool?_hasShape hpools
  refine ⟨result, y, ?_, hpools, hy, hhas, fun channel row column hchannel hrow hcolumn => ?_⟩
  · exact hshape ▸ knows_pushed hnodes
  · exact ⟨KernelPlace.inside_ne_nil hpools hpadding hheight hwidth hrow hcolumn,
      Operator.maxPool?_at hcomplete hpools hchannel hrow hcolumn hy⟩

/-- A builder whose only node is an input of two rows and columns. -/
def squareInput : GraphBuilder Binary32 := ((ofSeed 0).perform (.input 1 2 2)).2

def minusOne : Binary32 := Scalar.ofBits 0xbf800000

/-- Padding would be zero, and more than the elements. -/
theorem maxPool_windows_corner :
    ∃ y, Operator.maxPool? (Volume.full ⟨1, 2, 2⟩ minusOne) 3 2 1 = some y ∧
      y.at? 0 0 0 = some minusOne := by
  obtain ⟨result, y, -, hpools, hy, -, hat⟩ := maxPool_windows squareInput
    (squareInput.maxPool "pool" 0 3 2 1).2 "pool" 0 3 2 1 1 ⟨1, 2, 2⟩ rfl (by decide) (by decide) rfl
    (Volume.full ⟨1, 2, 2⟩ minusOne) ⟨rfl, Volume.wellFormed_full _ _⟩
  have hrow : 0 < result.height := by
    rw [← Option.some.inj hpools.height_eq]
    decide
  have hcolumn : 0 < result.width := by
    rw [← Option.some.inj hpools.width_eq]
    decide
  obtain ⟨-, values, hvalues, htop⟩ := hat 0 0 0 (hpools.channels_eq ▸ Nat.one_pos) hrow hcolumn
  have hplaces : KernelPlace.inside 3 2 1 ⟨1, 2, 2⟩ 0 0 = [⟨1, 1⟩, ⟨1, 2⟩, ⟨2, 1⟩, ⟨2, 2⟩] := rfl
  have hfour : values = [minusOne, minusOne, minusOne, minusOne] := by
    rw [hplaces] at hvalues
    simpa [List.forall₂_cons_left_iff, KernelPlace.element?, Volume.at?, Volume.full,
      VolumeShape.position, VolumeShape.plane, VolumeShape.size, eq_comm] using hvalues
  have hmax : [minusOne, minusOne, minusOne, minusOne].foldl Scalar.max Scalar.negInf = minusOne := by
    decide +kernel
  exact ⟨y, hy, by rw [htop, hfour, hmax]⟩

end GraphBuilder

end TensorBench
