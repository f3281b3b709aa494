import TensorBench.Proofs.Sequencing
import TensorBench.Proofs.TensorGraph.Windows
import TensorBench.Proofs.Words
import TensorBench.TensorGraph.Operators

/-!
Shapes of results. An operator whose operands have the shapes it is made for reads nothing outside
of them, and its result is a whole volume of the shape that was computed without it.
-/
namespace TensorBench

variable {α : Type}

/-- A whole volume of the shape. -/
structure Volume.HasShape (x : Volume α) (shape : VolumeShape) : Prop where
  shape_eq : x.shape = shape
  complete : x.WellFormed

theorem Volume.HasShape.size_eq {x : Volume α} {shape : VolumeShape} (h : x.HasShape shape) :
    x.values.size = shape.size := by
  rw [h.complete, h.shape_eq]

/-- A filter for volumes of the source shape that makes volumes of the result shape. -/
structure Filter.Convolves (filter : Filter α) (stride padding : Nat)
    (source result : VolumeShape) : Prop where
  inputs_eq : filter.inputs = source.channels
  square : filter.width = filter.height
  complete : filter.values.size = filter.outputs * filter.inputs * filter.height * filter.width
  height_eq :
    Window.outputLength? source.height filter.height stride padding = some result.height
  width_eq : Window.outputLength? source.width filter.height stride padding = some result.width
  outputs_eq : result.channels = filter.outputs

/-- A window that takes volumes of the source shape to volumes of the result shape. -/
structure VolumeShape.Pools (size stride padding : Nat) (source result : VolumeShape) : Prop where
  height_eq : Window.outputLength? source.height size stride padding = some result.height
  width_eq : Window.outputLength? source.width size stride padding = some result.width
  channels_eq : result.channels = source.channels

namespace Window

theorem outputLength?_of_le {input size stride padding : Nat} (hstride : 0 < stride)
    (hsize : size ≤ input + 2 * padding) :
    outputLength? input size stride padding = some ((input + 2 * padding - size) / stride + 1) := by
  unfold outputLength?
  rw [if_neg (Nat.ne_of_gt hstride), if_neg (Nat.not_lt.mpr hsize)]

theorem stride_pos {input size stride padding outputs : Nat}
    (h : outputLength? input size stride padding = some outputs) : 0 < stride := by
  unfold outputLength? at h
  split at h
  · cases h
  · omega

end Window

/-! ### Taps -/

namespace Tap

/-- A visible tap is a tap of the kernel with the outputs that see the input through it. -/
theorem runs_of_mem_visible {size stride padding : Nat} {input output : VolumeShape} {tap : Tap}
    (h : tap ∈ visible size stride padding input output) :
    tap.row < size ∧ tap.column < size ∧
      Window.run? output.height input.height tap.row stride padding = some tap.rows ∧
      Window.run? output.width input.width tap.column stride padding = some tap.columns := by
  unfold visible at h
  obtain ⟨row, hrow, h⟩ := List.mem_flatMap.mp h
  split at h
  · simp at h
  · rename_i rows hrows
    obtain ⟨column, hcolumn, h⟩ := List.mem_filterMap.mp h
    obtain ⟨columns, hcolumns, rfl⟩ := Option.map_eq_some_iff.mp h
    exact ⟨List.mem_range.mp hrow, List.mem_range.mp hcolumn, hrows, hcolumns⟩

/-- Its block lies inside the input. -/
theorem visible_inside {size stride padding : Nat} {input output : VolumeShape} {tap : Tap}
    (hstride : 0 < stride) (h : tap ∈ visible size stride padding input output) :
    tap.row < size ∧ tap.column < size ∧ tap.fits stride input = true := by
  obtain ⟨hrow, hcolumn, hrows, hcolumns⟩ := runs_of_mem_visible h
  have hlastRow := (Window.run?_eq_some hstride hrows).last_lt
  have hlastColumn := (Window.run?_eq_some hstride hcolumns).last_lt
  exact ⟨hrow, hcolumn, by simp [fits, hlastRow, hlastColumn]⟩

end Tap

/-! ### Places in row-major order -/

theorem Filter.Convolves.at?_eq_some {filter : Filter α} {stride padding : Nat}
    {source result : VolumeShape}
    (h : filter.Convolves stride padding source result) {output input row column : Nat}
    (houtput : output < filter.outputs) (hinput : input < source.channels)
    (hrow : row < filter.height) (hcolumn : column < filter.height) :
    ∃ weight, filter.at? output input row column = some weight := by
  rw [← h.inputs_eq] at hinput
  rw [← h.square] at hcolumn
  have hplace := mul_add_lt (mul_add_lt (mul_add_lt houtput hinput) hrow) hcolumn
  rw [← h.complete] at hplace
  unfold Filter.at?
  rw [if_pos ⟨houtput, hinput, hrow, hcolumn⟩]
  exact ⟨_, Array.getElem?_eq_getElem hplace⟩

theorem length_flatten_of_forall {β : Type} (rows : List (List β)) (width : Nat)
    (h : ∀ row ∈ rows, row.length = width) : rows.flatten.length = rows.length * width := by
  induction rows with
  | nil => simp
  | cons row rest ih =>
    obtain ⟨hrow, hrest⟩ := List.forall_mem_cons.mp h
    rw [List.flatten_cons, List.length_append, hrow, ih hrest, List.length_cons, Nat.succ_mul,
      Nat.add_comm]

/-- Rows of one width are found behind each other. -/
theorem getElem?_flatten_of_forall {β : Type} (rows : List (List β)) (width : Nat)
    (h : ∀ row ∈ rows, row.length = width) (row : Nat) {column : Nat} (hcolumn : column < width) :
    rows.flatten[row * width + column]? = rows[row]?.bind (·[column]?) := by
  induction rows generalizing row with
  | nil => simp
  | cons first rest ih =>
    obtain ⟨hfirst, hrest⟩ := List.forall_mem_cons.mp h
    cases row with
    | zero => simp [List.getElem?_append, hfirst, hcolumn]
    | succ row =>
      rw [List.flatten_cons, List.getElem?_append_right (by rw [hfirst, Nat.succ_mul]; omega),
        hfirst, Nat.succ_mul, Nat.add_right_comm, Nat.add_sub_cancel, ih hrest row,
        List.getElem?_cons_succ]

namespace VolumeShape

variable (shape : VolumeShape) {channel row column : Nat}

theorem position_lt (hchannel : channel < shape.channels) (hrow : row < shape.height)
    (hcolumn : column < shape.width) : shape.position channel row column < shape.size := by
  unfold position
  rw [Nat.add_assoc]
  exact mul_add_lt hchannel (mul_add_lt hrow hcolumn)

theorem channelOf_position (channel : Nat) (hrow : row < shape.height)
    (hcolumn : column < shape.width) :
    shape.channelOf (shape.position channel row column) = channel := by
  have hplace : row * shape.width + column < shape.plane := mul_add_lt hrow hcolumn
  unfold channelOf position
  rw [Nat.add_assoc, row_of_position _ _ _ hplace]

theorem rowOf_position (channel : Nat) (hrow : row < shape.height)
    (hcolumn : column < shape.width) : shape.rowOf (shape.position channel row column) = row := by
  have hplace : row * shape.width + column < shape.plane := mul_add_lt hrow hcolumn
  unfold rowOf position
  rw [Nat.add_assoc, column_of_position _ _ _ hplace, row_of_position _ _ _ hcolumn]

theorem columnOf_position (channel row : Nat) (hcolumn : column < shape.width) :
    shape.columnOf (shape.position channel row column) = column := by
  unfold columnOf position plane
  rw [← Nat.mul_assoc, ← Nat.add_mul, column_of_position _ _ _ hcolumn]

end VolumeShape

theorem Volume.WellFormed.at?_eq_some {x : Volume α} (h : x.WellFormed) {channel row column : Nat}
    (hchannel : channel < x.shape.channels) (hrow : row < x.shape.height)
    (hcolumn : column < x.shape.width) : ∃ value, x.at? channel row column = some value := by
  have hplace := x.shape.position_lt hchannel hrow hcolumn
  rw [← h] at hplace
  unfold Volume.at?
  rw [if_pos ⟨hchannel, hrow, hcolumn⟩]
  exact ⟨_, Array.getElem?_eq_getElem hplace⟩

namespace Operator

variable [Scalar α]

theorem windowShape_eq {channels size stride padding height width : Nat} {input : VolumeShape}
    (hheight : Window.outputLength? input.height size stride padding = some height)
    (hwidth : Window.outputLength? input.width size stride padding = some width) :
    windowShape channels size stride padding input = ⟨channels, height, width⟩ := by
  simp [windowShape, hheight, hwidth]

theorem countable_of_pos {size stride padding : Nat} {input : VolumeShape} (h : 0 < stride) :
    countable size stride padding input = true := by
  have hne : stride ≠ 0 := by omega
  simp [countable, hne]

/-! ### Convolution -/

theorem addScaled?_eq_some (x : Volume α) (stride : Nat) (output : VolumeShape) (tap : Tap)
    (channel : Nat) (weight : α) (plane : Array α) (h : tap.fits stride x.shape = true) :
    ∃ next, addScaled? x stride output tap channel weight plane = some next ∧
      next.size = plane.size := by
  unfold addScaled?
  rw [if_pos h]
  exact ⟨_, rfl, Array.size_mapIdx⟩

theorem convolvePlane?_eq_some {x : Volume α} {filter : Filter α} {stride padding : Nat}
    {result : VolumeShape} (h : filter.Convolves stride padding x.shape result)
    (output : VolumeShape) {channel : Nat} (hchannel : channel < filter.outputs) :
    ∃ plane, convolvePlane? x filter stride padding output channel = some plane ∧
      plane.size = output.plane := by
  have hstride := Window.stride_pos h.height_eq
  unfold convolvePlane?
  refine Sequencing.foldlM_invariant (fun plane : Array α => plane.size = output.plane) _ _ ?_ _
    Array.size_replicate
  intro tap htap plane hplane
  obtain ⟨hrow, hcolumn, hfits⟩ := Tap.visible_inside hstride htap
  refine Sequencing.foldlM_invariant (fun plane : Array α => plane.size = output.plane) _ _ ?_ _
    hplane
  intro input hinput plane hplane
  obtain ⟨weight, hweight⟩ :=
    h.at?_eq_some hchannel (List.mem_range.mp hinput) hrow hcolumn
  obtain ⟨next, hnext, hsize⟩ := addScaled?_eq_some x stride output tap input weight plane hfits
  exact ⟨next, by simp [hweight, hnext], hsize.trans hplane⟩

/-- Tasks compute the same planes. -/
theorem conv2d?_parallel (x : Volume α) (filter : Filter α) (stride padding : Nat)
    (parallel : Bool) :
    conv2d? x filter stride padding parallel = conv2d? x filter stride padding false := by
  cases parallel <;> simp [conv2d?, Tasks.map_eq]

/-- The planes of a convolution, one for each output channel. -/
def planes (x : Volume α) (filter : Filter α) (stride padding : Nat) (result : VolumeShape) :
    List (List α) :=
  (List.range filter.outputs).map fun channel =>
    ((convolvePlane? x filter stride padding result channel).getD #[]).toList

theorem length_of_mem_planes {x : Volume α} {filter : Filter α} {stride padding : Nat}
    {result : VolumeShape} (h : filter.Convolves stride padding x.shape result) :
    ∀ plane ∈ planes x filter stride padding result, plane.length = result.plane := by
  simp only [planes, List.mem_map, List.mem_range]
  rintro _ ⟨channel, hchannel, rfl⟩
  obtain ⟨plane, hplane, hsize⟩ := convolvePlane?_eq_some h result hchannel
  rw [hplane, Option.getD_some, Array.length_toList, hsize]

theorem conv2d?_eq_planes {x : Volume α} {filter : Filter α} {stride padding : Nat}
    {result : VolumeShape} (h : filter.Convolves stride padding x.shape result) (parallel : Bool) :
    conv2d? x filter stride padding parallel =
      some ⟨result, (planes x filter stride padding result).flatten.toArray⟩ := by
  have hplanes : ((List.range filter.outputs).map
      (convolvePlane? x filter stride padding result)).mapM id =
      some ((List.range filter.outputs).map fun channel =>
        (convolvePlane? x filter stride padding result channel).getD #[]) := by
    rw [List.mapM_map]
    refine Sequencing.mapM_eq_some _ _ _ fun channel hchannel => ?_
    obtain ⟨plane, hplane, -⟩ := convolvePlane?_eq_some h result (List.mem_range.mp hchannel)
    simp [hplane]
  have hshape : windowShape filter.outputs filter.height stride padding x.shape = result := by
    rw [windowShape_eq h.height_eq h.width_eq, ← h.outputs_eq]
  rw [conv2d?_parallel]
  simp only [conv2d?, countable_of_pos (Window.stride_pos h.height_eq), hshape, if_true,
    Bool.false_eq_true, if_false]
  rw [hplanes]
  simp [planes, Function.comp_def]

theorem conv2d?_hasShape {x : Volume α} {filter : Filter α} {stride padding : Nat}
    {result : VolumeShape} (h : filter.Convolves stride padding x.shape result) (parallel : Bool) :
    ∃ y, conv2d? x filter stride padding parallel = some y ∧ y.HasShape result := by
  refine ⟨_, conv2d?_eq_planes h parallel, rfl, ?_⟩
  simp only [Volume.WellFormed, List.size_toArray]
  rw [length_flatten_of_forall _ _ (length_of_mem_planes h), planes, List.length_map,
    List.length_range, VolumeShape.size, h.outputs_eq]

/-! ### Pooling -/

theorem maxPool?_hasShape {x : Volume α} {size stride padding : Nat} {result : VolumeShape}
    (h : x.shape.Pools size stride padding result) :
    ∃ y, maxPool? x size stride padding = some y ∧ y.HasShape result := by
  have hstride := Window.stride_pos h.height_eq
  have hshape : windowShape x.shape.channels size stride padding x.shape = result := by
    rw [windowShape_eq h.height_eq h.width_eq, ← h.channels_eq]
  obtain ⟨values, hvalues, hsize⟩ := Sequencing.foldlM_invariant
    (fun values : Array α => values.size = result.size)
    (Tap.visible size stride padding x.shape result) (maxWith? x stride result) (by
      intro tap htap values hvalues
      obtain ⟨-, -, hfits⟩ := Tap.visible_inside hstride htap
      unfold maxWith?
      rw [if_pos hfits]
      exact ⟨_, rfl, Array.size_mapIdx.trans hvalues⟩)
    (Array.replicate result.size Scalar.negInf) Array.size_replicate
  refine ⟨⟨result, values⟩, ?_, rfl, hsize⟩
  simp only [maxPool?, countable_of_pos hstride, hshape, if_true]
  rw [hvalues]
  rfl

theorem globalAveragePool_hasShape (x : Volume α) :
    (globalAveragePool x).HasShape ⟨x.shape.channels, 1, 1⟩ := by
  constructor <;>
    simp [globalAveragePool, Volume.ofVector, Volume.WellFormed, VolumeShape.size,
      VolumeShape.plane]

/-! ### Element by element -/

theorem batchNorm_hasShape {x : Volume α} {shape : VolumeShape} (h : x.HasShape shape)
    (scale shift : Array α) : (batchNorm x scale shift).HasShape shape :=
  ⟨h.shape_eq, Array.size_mapIdx.trans h.complete⟩

theorem relu_hasShape {x : Volume α} {shape : VolumeShape} (h : x.HasShape shape) :
    (relu x).HasShape shape :=
  ⟨h.shape_eq, Array.size_map.trans h.complete⟩

theorem add?_hasShape {x y : Volume α} {shape : VolumeShape} (hx : x.HasShape shape)
    (hy : y.HasShape shape) : ∃ z, add? x y = some z ∧ z.HasShape shape := by
  unfold add?
  rw [if_pos (hx.shape_eq.trans hy.shape_eq.symm)]
  refine ⟨_, rfl, hx.shape_eq, ?_⟩
  rw [Volume.WellFormed, Array.size_zipWith, hx.size_eq, hy.size_eq, hx.shape_eq, Nat.min_self]

/-! ### Fully connected layers -/

theorem addVectors?_eq_some (a b : List α) (h : a.length = b.length) :
    ∃ sums, addVectors? a b = some sums ∧ sums.length = a.length := by
  unfold addVectors?
  split
  · exact ⟨_, rfl, by rw [List.length_map, h]⟩
  · exact ⟨_, rfl, List.length_map ..⟩
  · rw [if_pos h]
    exact ⟨_, rfl, by rw [List.length_zipWith, h, Nat.min_self]⟩

theorem dense?_hasShape {x : Volume α} {weights : Matrix2 α} {bias : Array α}
    (hcolumns : weights.columns = x.values.size) (hbias : bias.size = weights.rows) :
    ∃ y, dense? x weights bias = some y ∧ y.HasShape ⟨weights.rows, 1, 1⟩ := by
  unfold dense?
  rw [if_pos hcolumns]
  obtain ⟨sums, hsums, hlength⟩ := addVectors?_eq_some
    ((List.range weights.rows).map fun row => Rows.sumByEight (List.zipWith Scalar.mul
      (weights.values.extract (row * weights.columns) ((row + 1) * weights.columns)).toList
      x.values.toList)) bias.toList (by simp [hbias])
  rw [List.length_map, List.length_range] at hlength
  refine ⟨.ofVector sums.toArray, ?_, ?_, ?_⟩
  · simp only [hsums]
    rfl
  · simp [Volume.ofVector, hlength]
  · simp [Volume.ofVector, Volume.WellFormed, VolumeShape.size, VolumeShape.plane]

end Operator

end TensorBench
