import TensorBench.Number.Binary32
import TensorBench.Proofs.TensorGraph.Shapes

/-!
What a convolution computes. Each element of the result is a sum of products, one for each kernel
place and input channel through which the element looks at the input itself. Padding contributes no
product, and the products are added in the order of rows, columns and channels of the kernel.
-/
namespace TensorBench

variable {α : Type}

/-- A place of a square kernel. -/
structure KernelPlace where
  row : Nat
  column : Nat

namespace KernelPlace

/-- All places of a kernel, row by row. -/
def all (size : Nat) : List KernelPlace :=
  (List.range size).flatMap fun row => (List.range size).map (KernelPlace.mk row)

/-- The output looks through the place at an element of the input itself. -/
def Sees (place : KernelPlace) (stride padding : Nat) (input : VolumeShape) (row column : Nat) :
    Prop :=
  Window.Sees input.height place.row stride padding row ∧
    Window.Sees input.width place.column stride padding column

instance (place : KernelPlace) (stride padding : Nat) (input : VolumeShape) (row column : Nat) :
    Decidable (place.Sees stride padding input row column) :=
  inferInstanceAs (Decidable (_ ∧ _))

end KernelPlace

/-- A product of a convolution: a weight of the kernel and an input channel. -/
structure Contribution where
  place : KernelPlace
  channel : Nat

namespace Contribution

/-- All products, channel by channel at each place of the kernel. -/
def all (size channels : Nat) : List Contribution :=
  (KernelPlace.all size).flatMap fun place => (List.range channels).map (Contribution.mk place)

theorem filter_all (size channels : Nat) (p : KernelPlace → Bool) :
    (all size channels).filter (fun product => p product.place) =
      ((KernelPlace.all size).filter p).flatMap fun place =>
        (List.range channels).map (Contribution.mk place) := by
  unfold all
  generalize KernelPlace.all size = places
  induction places with
  | nil => rfl
  | cons place rest ih =>
    rw [List.flatMap_cons, List.filter_append, ih, List.filter_cons, List.filter_map]
    by_cases hp : p place = true <;> simp [hp, Function.comp_def]

end Contribution

/-! ### Taps -/

namespace Tap

def place (tap : Tap) : KernelPlace := ⟨tap.row, tap.column⟩

/-- A tap serves an output exactly if the output sees the input through its place. -/
theorem covers_iff (tap : Tap) {stride padding row column : Nat} {input output : VolumeShape}
    (hstride : 0 < stride) (hrow : row < output.height) (hcolumn : column < output.width)
    (hrows : Window.run? output.height input.height tap.row stride padding = some tap.rows)
    (hcolumns : Window.run? output.width input.width tap.column stride padding = some tap.columns) :
    tap.covers row column = true ↔ tap.place.Sees stride padding input row column := by
  rw [covers, Bool.and_eq_true, Window.run?_covers_iff hstride hrows,
    Window.run?_covers_iff hstride hcolumns]
  simp [KernelPlace.Sees, place, hrow, hcolumn]

/-- The taps that serve an output are the places through which it sees the input, in their order. -/
theorem places_covering {size stride padding row column : Nat} {input output : VolumeShape}
    (hstride : 0 < stride) (hrow : row < output.height) (hcolumn : column < output.width) :
    ((visible size stride padding input output).filter (·.covers row column)).map place =
      (KernelPlace.all size).filter fun place => place.Sees stride padding input row column := by
  unfold visible KernelPlace.all
  rw [List.filter_flatMap, List.map_flatMap, List.filter_flatMap]
  refine List.flatMap_congr fun tapRow _ => ?_
  cases hrows : Window.run? output.height input.height tapRow stride padding with
  | none =>
    have hunseen := Window.not_sees_of_run?_eq_none hstride hrows hrow
    simp [KernelPlace.Sees, hunseen]
  | some rows =>
    rw [List.filter_filterMap, List.map_filterMap, ← List.filterMap_eq_filter, List.filterMap_map]
    refine List.filterMap_congr fun tapColumn _ => ?_
    cases hcolumns : Window.run? output.width input.width tapColumn stride padding with
    | none =>
      have hunseen := Window.not_sees_of_run?_eq_none hstride hcolumns hcolumn
      simp [Option.guard, KernelPlace.Sees, hunseen]
    | some columns =>
      have hcovers := covers_iff ⟨tapRow, tapColumn, rows, columns⟩ hstride hrow hcolumn hrows
        hcolumns
      by_cases hsees : KernelPlace.Sees ⟨tapRow, tapColumn⟩ stride padding input row column
      · simp [Option.guard, hsees, hcovers.mpr hsees, place]
      · simp [Option.guard, hsees, mt hcovers.mp hsees]

end Tap

/-! ### Planes -/

namespace Operator

variable [Scalar α]

/-- Add a product to the sum of an element. -/
def contribute? (x : Volume α) (filter : Filter α) (stride padding output row column : Nat)
    (sum : α) (product : Contribution) : Option α := do
  let weight ← filter.at? output product.channel product.place.row product.place.column
  let value ← x.at? product.channel (row * stride + product.place.row - padding)
    (column * stride + product.place.column - padding)
  return Scalar.add sum (Scalar.mul weight value)

/-- The sum of the products through which an element of the result sees the input, from zero on and
from the left to the right. -/
def weightedSum? (x : Volume α) (filter : Filter α) (stride padding output row column : Nat) :
    Option α :=
  ((Contribution.all filter.height x.shape.channels).filter fun product =>
      product.place.Sees stride padding x.shape row column).foldlM
    (contribute? x filter stride padding output row column) Scalar.zero

/-- The same sum, taken over the taps that serve the element. -/
theorem weightedSum?_eq_visible (x : Volume α) (filter : Filter α) {stride padding row column : Nat}
    {output : VolumeShape} (hstride : 0 < stride) (hrow : row < output.height)
    (hcolumn : column < output.width) (channel : Nat) :
    weightedSum? x filter stride padding channel row column =
      (Tap.visible filter.height stride padding x.shape output).foldlM (fun sum tap =>
        if tap.covers row column then
          (List.range x.shape.channels).foldlM (fun sum input =>
            contribute? x filter stride padding channel row column sum ⟨tap.place, input⟩) sum
        else pure sum) Scalar.zero := by
  rw [weightedSum?, Contribution.filter_all _ _ fun place =>
      decide (place.Sees stride padding x.shape row column),
    ← Tap.places_covering hstride hrow hcolumn, Sequencing.foldlM_flatMap, List.foldlM_map,
    List.foldlM_filter]
  simp only [List.foldlM_map]

/-- A covered element sees the input where its window looks. -/
theorem seen_eq {x : Volume α} {stride padding row column channel : Nat} {output : VolumeShape}
    {tap : Tap} {value : α} (hstride : 0 < stride)
    (htap : tap ∈ Tap.visible size stride padding x.shape output)
    (hcovers : tap.covers row column = true)
    (hvalue : x.at? channel (row * stride + tap.row - padding)
      (column * stride + tap.column - padding) = some value) :
    tap.seen stride x channel row column = value := by
  obtain ⟨-, -, hrows, hcolumns⟩ := Tap.runs_of_mem_visible htap
  rw [Tap.covers, Bool.and_eq_true] at hcovers
  rw [Tap.seen, (Window.run?_eq_some hstride hrows).source_eq hcovers.1,
    (Window.run?_eq_some hstride hcolumns).source_eq hcovers.2, hvalue, Option.getD_some]

/-- What adding an input channel does to one element of a plane. -/
theorem addScaled?_at {x : Volume α} {stride row column : Nat} {output : VolumeShape} {tap : Tap}
    (hfits : tap.fits stride x.shape = true) (hrow : row < output.height)
    (hcolumn : column < output.width) (channel : Nat) (weight : α) {plane : Array α} {sum : α}
    (hsum : plane[output.position 0 row column]? = some sum) :
    ∃ next, addScaled? x stride output tap channel weight plane = some next ∧
      next[output.position 0 row column]? = some (if tap.covers row column then
        Scalar.add sum (Scalar.mul weight (tap.seen stride x channel row column)) else sum) := by
  unfold addScaled?
  rw [if_pos hfits]
  refine ⟨_, rfl, ?_⟩
  rw [Array.getElem?_mapIdx, hsum, Option.map_some, VolumeShape.rowOf_position _ _ hrow hcolumn,
    VolumeShape.columnOf_position _ _ _ hcolumn]

variable {x : Volume α} {filter : Filter α} {stride padding channel row column : Nat}
  {result : VolumeShape}

/-- One tap of the kernel and one input channel, at one element of a plane. -/
theorem addChannel_at (h : filter.Convolves stride padding x.shape result)
    (hchannel : channel < filter.outputs) (hrow : row < result.height)
    (hcolumn : column < result.width) {tap : Tap}
    (htap : tap ∈ Tap.visible filter.height stride padding x.shape result) {input : Nat}
    (hinput : input ∈ List.range x.shape.channels) {plane : Array α} {sum : α}
    (hsum : plane[result.position 0 row column]? = some sum) :
    ∃ weight next, filter.at? channel input tap.row tap.column = some weight ∧
      addScaled? x stride result tap input weight plane = some next ∧
      next[result.position 0 row column]? = some (if tap.covers row column then
        Scalar.add sum (Scalar.mul weight (tap.seen stride x input row column)) else sum) := by
  obtain ⟨htapRow, htapColumn, hfits⟩ := Tap.visible_inside (Window.stride_pos h.height_eq) htap
  obtain ⟨weight, hweight⟩ :=
    h.at?_eq_some hchannel (List.mem_range.mp hinput) htapRow htapColumn
  obtain ⟨next, hnext, hat⟩ := addScaled?_at hfits hrow hcolumn input weight hsum
  exact ⟨weight, next, hweight, hnext, hat⟩

/-- One tap of the kernel over all input channels, at one element of a plane. -/
theorem addChannels_at (h : filter.Convolves stride padding x.shape result) (hx : x.WellFormed)
    (hchannel : channel < filter.outputs) (hrow : row < result.height)
    (hcolumn : column < result.width) {tap : Tap}
    (htap : tap ∈ Tap.visible filter.height stride padding x.shape result) {plane : Array α}
    {sum : α} (hsum : plane[result.position 0 row column]? = some sum) :
    ∃ next after,
      (List.range x.shape.channels).foldlM (fun plane input => do
        let weight ← filter.at? channel input tap.row tap.column
        addScaled? x stride result tap input weight plane) plane = some next ∧
      (if tap.covers row column then
        (List.range x.shape.channels).foldlM (fun sum input =>
          contribute? x filter stride padding channel row column sum ⟨tap.place, input⟩) sum
        else pure sum) = some after ∧
      next[result.position 0 row column]? = some after := by
  have hstride := Window.stride_pos h.height_eq
  by_cases hcovers : tap.covers row column = true
  · obtain ⟨-, -, hrows, hcolumns⟩ := Tap.runs_of_mem_visible htap
    obtain ⟨hseesRow, hseesColumn⟩ :=
      (tap.covers_iff hstride hrow hcolumn hrows hcolumns).mp hcovers
    rw [if_pos hcovers]
    refine Sequencing.foldlM_together (fun plane sum =>
      plane[result.position 0 row column]? = some sum) _ _ _ ?_ hsum
    intro input hinput plane sum hsum
    obtain ⟨weight, next, hweight, hnext, hat⟩ :=
      addChannel_at h hchannel hrow hcolumn htap hinput hsum
    obtain ⟨value, hvalue⟩ :=
      hx.at?_eq_some (List.mem_range.mp hinput) hseesRow.source_lt hseesColumn.source_lt
    rw [Tap.place] at hvalue
    rw [if_pos hcovers, seen_eq hstride htap hcovers hvalue] at hat
    refine ⟨next, _, by simp [hweight, hnext], ?_, hat⟩
    simp [contribute?, Tap.place, hweight, hvalue]
  · have hstep : ∀ input ∈ List.range x.shape.channels, ∀ plane : Array α,
        plane[result.position 0 row column]? = some sum →
        ∃ next, (do
          let weight ← filter.at? channel input tap.row tap.column
          addScaled? x stride result tap input weight plane) = some next ∧
          next[result.position 0 row column]? = some sum := by
      intro input hinput plane hsum
      obtain ⟨weight, next, hweight, hnext, hat⟩ :=
        addChannel_at h hchannel hrow hcolumn htap hinput hsum
      rw [if_neg hcovers] at hat
      exact ⟨next, by simp [hweight, hnext], hat⟩
    obtain ⟨next, hnext, hat⟩ := Sequencing.foldlM_invariant _ _ _ hstep plane hsum
    exact ⟨next, sum, hnext, if_neg hcovers, hat⟩

theorem convolvePlane?_at (h : filter.Convolves stride padding x.shape result) (hx : x.WellFormed)
    (hchannel : channel < filter.outputs) (hrow : row < result.height)
    (hcolumn : column < result.width) :
    ∃ plane value, convolvePlane? x filter stride padding result channel = some plane ∧
      weightedSum? x filter stride padding channel row column = some value ∧
      plane[result.position 0 row column]? = some value := by
  have hplace : result.position 0 row column < result.plane := by
    rw [VolumeShape.position, Nat.zero_mul, Nat.zero_add]
    exact mul_add_lt hrow hcolumn
  rw [weightedSum?_eq_visible x filter (Window.stride_pos h.height_eq) hrow hcolumn channel]
  refine Sequencing.foldlM_together (fun plane sum =>
    plane[result.position 0 row column]? = some sum) _ _ _
    (fun tap htap plane sum => addChannels_at h hx hchannel hrow hcolumn htap) ?_
  rw [Array.getElem?_replicate, if_pos hplace]

/-- A convolution whose kernel fits into the padded input has a whole volume of the computed height
and width as its result, and each element is the sum of the products behind it. -/
theorem conv2d?_eq_weightedSum (x : Volume α) (filter : Filter α) (stride padding : Nat)
    (parallel : Bool) (hx : x.WellFormed) (hinputs : filter.inputs = x.shape.channels)
    (hsquare : filter.width = filter.height)
    (hfilter : filter.values.size =
      filter.outputs * filter.inputs * filter.height * filter.width)
    (hstride : 0 < stride) (hheight : filter.height ≤ x.shape.height + 2 * padding)
    (hwidth : filter.height ≤ x.shape.width + 2 * padding) :
    ∃ y, conv2d? x filter stride padding parallel = some y ∧ y.WellFormed ∧
      y.shape.channels = filter.outputs ∧
      Window.outputLength? x.shape.height filter.height stride padding = some y.shape.height ∧
      Window.outputLength? x.shape.width filter.height stride padding = some y.shape.width ∧
      ∀ channel row column, channel < y.shape.channels → row < y.shape.height →
        column < y.shape.width →
        ∃ value, y.at? channel row column = some value ∧
          weightedSum? x filter stride padding channel row column = some value := by
  have hconvolves : filter.Convolves stride padding x.shape
      ⟨filter.outputs, (x.shape.height + 2 * padding - filter.height) / stride + 1,
        (x.shape.width + 2 * padding - filter.height) / stride + 1⟩ :=
    ⟨hinputs, hsquare, hfilter, Window.outputLength?_of_le hstride hheight,
      Window.outputLength?_of_le hstride hwidth, rfl⟩
  generalize hresult : (⟨filter.outputs, _, _⟩ : VolumeShape) = result at hconvolves
  obtain ⟨y, hy, hshape⟩ := conv2d?_hasShape hconvolves parallel
  obtain rfl := Option.some.inj (hy.symm.trans (conv2d?_eq_planes hconvolves parallel))
  refine ⟨_, hy, hshape.complete, hconvolves.outputs_eq, hconvolves.height_eq, hconvolves.width_eq,
    fun channel row column hchannel hrow hcolumn => ?_⟩
  have hchannel' : channel < filter.outputs := hconvolves.outputs_eq ▸ hchannel
  obtain ⟨plane, value, hplane, hsum, hat⟩ := convolvePlane?_at hconvolves hx hchannel' hrow hcolumn
  refine ⟨value, ?_, hsum⟩
  have hplace : row * result.width + column < result.plane := mul_add_lt hrow hcolumn
  unfold Volume.at?
  rw [if_pos ⟨hchannel, hrow, hcolumn⟩, List.getElem?_toArray, VolumeShape.position, Nat.add_assoc,
    getElem?_flatten_of_forall _ _ (length_of_mem_planes hconvolves) _ hplace]
  simpa [planes, hchannel', hplane, VolumeShape.position] using hat

def boxFilter : Filter Binary32 := ⟨1, 1, 3, 3, Array.replicate 9 Scalar.one⟩

/-- Five of the nine places in a corner look at padding. -/
theorem conv2d?_eq_weightedSum_corner :
    ∃ y, conv2d? (Volume.full ⟨1, 2, 2⟩ Scalar.one) boxFilter 2 1 true = some y ∧
      y.at? 0 0 0 = some (Scalar.ofNat 4) := by
  obtain ⟨y, hy, -, hchannels, hheight, hwidth, hat⟩ :=
    conv2d?_eq_weightedSum (Volume.full ⟨1, 2, 2⟩ Scalar.one) boxFilter 2 1 true
      (Volume.wellFormed_full _ _) rfl rfl (by decide) (by decide) (by decide) (by decide)
  have hrow : 0 < y.shape.height := by
    rw [← Option.some.inj hheight]
    decide
  have hcolumn : 0 < y.shape.width := by
    rw [← Option.some.inj hwidth]
    decide
  obtain ⟨value, hvalue, hsum⟩ := hat 0 0 0 (by rw [hchannels]; decide) hrow hcolumn
  have hfour : weightedSum? (Volume.full ⟨1, 2, 2⟩ Scalar.one) boxFilter 2 1 0 0 0 =
      some (Scalar.ofNat 4) := by decide +kernel
  exact ⟨y, hy, hvalue.trans (hsum.symm.trans hfour)⟩

end Operator

end TensorBench
