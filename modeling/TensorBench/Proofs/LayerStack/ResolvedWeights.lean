import TensorBench.Proofs.Engine
import TensorBench.Proofs.LayerStack.Predictions
import TensorBench.Proofs.LayerStack.SeparateActivations

/-!
Where the weights of a model come from. What the layers need follows from their descriptions and the
shape of the inputs; each weight is read from the range of the first entry under its names, if that
entry has the right shape and length and its range lies inside the buffer. Nothing else of a table
has an influence, so weights can be stored anywhere and in any order.
-/
namespace TensorBench

variable {α : Type}

/-! ### Entries of a table -/

/-- A weight that a layer needs, with the shape that it has to have. -/
structure Demand where
  layer : String
  weight : String
  shape : List Nat

namespace WeightTable

/-- The elements in the range of an entry. -/
def slice (table : WeightTable α) (entry : WeightEntry) : List α :=
  (table.buffer.extract entry.offset (entry.offset + entry.length)).toList

theorem length_slice {table : WeightTable α} {entry : WeightEntry}
    (hinside : entry.offset + entry.length ≤ table.buffer.size) :
    (table.slice entry).length = entry.length := by
  rw [slice, Array.length_toList, Array.size_extract]
  omega

theorem getElem?_slice (table : WeightTable α) (entry : WeightEntry) {i : Nat}
    (hbound : i < entry.length) : (table.slice entry)[i]? = table.buffer[entry.offset + i]? := by
  have hbefore : entry.offset + i < entry.offset + entry.length := by omega
  rw [slice, Array.getElem?_toList, Array.getElem?_extract]
  by_cases hheld : entry.offset + i < table.buffer.size
  · rw [if_pos (by omega)]
  · rw [if_neg (by omega), Array.getElem?_eq_none (by omega)]

end WeightTable

namespace Demand

/-- The entry stands for the weight: it is the first one under the two names, it has the shape, its
length is the product of the shape without overflow, and its range lies inside the buffer. -/
structure Resolves (demand : Demand) (table : WeightTable α) (entry : WeightEntry) : Prop where
  layer_eq : entry.layer = demand.layer
  weight_eq : entry.weight = demand.weight
  first : ∃ before after, table.entries = before ++ entry :: after ∧
    ∀ other ∈ before, ¬ (other.layer = demand.layer ∧ other.weight = demand.weight)
  shape_eq : entry.shape = demand.shape
  counted : Words.product? demand.shape = some entry.length
  inside : entry.offset + entry.length ≤ table.buffer.size

/-- Two tables hold the same elements for a weight, wherever they are stored. -/
def Agrees (demand : Demand) (table other : WeightTable α) : Prop :=
  ∃ entry moved, demand.Resolves table entry ∧ demand.Resolves other moved ∧
    ∀ i < entry.length, other.buffer[moved.offset + i]? = table.buffer[entry.offset + i]?

def read (demand : Demand) (table : WeightTable α) : Except Failure (List α) :=
  table.get demand.layer demand.weight demand.shape

theorem find?_eq_some_iff (demand : Demand) (table : WeightTable α) (entry : WeightEntry) :
    table.find? demand.layer demand.weight = some entry ↔
      (entry.layer = demand.layer ∧ entry.weight = demand.weight) ∧
        ∃ before after, table.entries = before ++ entry :: after ∧
          ∀ other ∈ before, ¬ (other.layer = demand.layer ∧ other.weight = demand.weight) := by
  rw [WeightTable.find?, List.find?_eq_some_iff_append]
  simp only [Bool.and_eq_true, beq_iff_eq, Bool.not_eq_eq_eq_not, Bool.not_true, ← Bool.not_eq_true]

/-- A weight is read from the entry that stands for it, and only if there is one. -/
theorem read_eq_ok_iff (demand : Demand) (table : WeightTable α) (values : List α) :
    demand.read table = .ok values ↔
      ∃ entry, demand.Resolves table entry ∧ values = table.slice entry := by
  unfold read WeightTable.get
  constructor
  · intro hfound
    split at hfound
    · cases hfound
    · rename_i entry hlisted
      obtain ⟨⟨hlayer, hweight⟩, hfirst⟩ := (demand.find?_eq_some_iff table entry).mp hlisted
      split at hfound
      · cases hfound
      · rename_i hshape
        split at hfound
        · cases hfound
        · rename_i hcounted
          split at hfound
          · cases hfound
          · rename_i hinside
            cases hfound
            exact ⟨entry, ⟨hlayer, hweight, hfirst, not_not.mp hshape, not_not.mp hcounted,
              Nat.le_of_not_lt hinside⟩, rfl⟩
  · intro ⟨entry, hresolves, hsame⟩
    have hlisted := (demand.find?_eq_some_iff table entry).mpr
      ⟨⟨hresolves.layer_eq, hresolves.weight_eq⟩, hresolves.first⟩
    simp only [hlisted]
    rw [if_neg (not_not.mpr hresolves.shape_eq), if_neg (not_not.mpr hresolves.counted),
      if_neg (Nat.not_lt.mpr hresolves.inside), hsame]
    rfl

theorem readable_iff (demand : Demand) (table : WeightTable α) :
    (∃ values, demand.read table = .ok values) ↔ ∃ entry, demand.Resolves table entry := by
  simp only [read_eq_ok_iff]
  constructor
  · intro ⟨_, entry, hresolves, _⟩
    exact ⟨entry, hresolves⟩
  · intro ⟨entry, hresolves⟩
    exact ⟨_, entry, hresolves, rfl⟩

theorem Agrees.read_eq {demand : Demand} {table other : WeightTable α}
    (hagrees : demand.Agrees table other) : demand.read other = demand.read table := by
  obtain ⟨entry, moved, hresolves, hresolvesOther, hsame⟩ := hagrees
  have hlengths : moved.length = entry.length :=
    Option.some.inj (hresolvesOther.counted.symm.trans hresolves.counted)
  have hslices : other.slice moved = table.slice entry := by
    apply List.ext_getElem?
    intro i
    by_cases hbound : i < entry.length
    · rw [other.getElem?_slice moved (by omega), table.getElem?_slice entry hbound, hsame i hbound]
    · rw [List.getElem?_eq_none, List.getElem?_eq_none]
      · rw [WeightTable.length_slice hresolves.inside]
        omega
      · rw [WeightTable.length_slice hresolvesOther.inside]
        omega
  rw [(demand.read_eq_ok_iff table _).mpr ⟨entry, hresolves, rfl⟩,
    (demand.read_eq_ok_iff other _).mpr ⟨moved, hresolvesOther, rfl⟩, hslices]

end Demand

/-! ### What layers need -/

/-- The weights that a layer needs for inputs of a shape and the shape of its outputs, if it can be
made for such inputs. -/
def LayerSpec.plan? (shape : List Nat) : LayerSpec → Option (List Demand × List Nat)
  | .flatten _ => some ([], [Words.wrap (Words.product shape)])
  | .globalAveragePooling _ =>
      match shape with
      | [_, _, channels] => some ([], [channels])
      | _ => none
  | .dense name units _ =>
      match shape with
      | [inputs] =>
          if Model.addressable [inputs, units] then
            some ([⟨name, "kernel", [inputs, units]⟩, ⟨name, "bias", [units]⟩], [units])
          else none
      | _ => none
  | .batchNormalization name _ =>
      shape.getLast?.map fun channels =>
        (["gamma", "beta", "moving_mean", "moving_variance"].map (⟨name, ·, [channels]⟩), shape)
  | .activation _ _ => some ([], shape)
  | .dropout _ _ => some ([], shape)

/-- The weights that all layers need, from an input shape on. -/
def demandsFrom? (shape : List Nat) : List LayerSpec → Option (List Demand)
  | [] => some []
  | spec :: rest => do
      let (demands, next) ← spec.plan? shape
      return demands ++ (← demandsFrom? next rest)

namespace Model

open Sequencing

/-! ### Units -/

/-- Rows and biases of units from a buffer, in which the kernel and the biases begin at offsets. The
kernel has a row for each input. -/
structure UnitsFrom (buffer : Array α) (kernel bias inputs units : Nat) (rows : List (List α))
    (biases : List α) : Prop where
  rows_length : rows.length = units
  biases_length : biases.length = units
  row : ∀ unit < units, ∃ row, rows[unit]? = some row ∧ row.length = inputs ∧
    ∀ input < inputs, row[input]? = buffer[kernel + input * units + unit]?
  bias : ∀ unit < units, biases[unit]? = buffer[bias + unit]?

theorem filterMap_range_getElem? (f : Nat → Option α) (count : Nat)
    (hpresent : ∀ i < count, (f i).isSome) :
    ((List.range count).filterMap f).length = count ∧
      ∀ i < count, ((List.range count).filterMap f)[i]? = f i := by
  induction count with
  | zero => exact ⟨rfl, fun i hbound => absurd hbound (Nat.not_lt_zero i)⟩
  | succ count ih =>
    obtain ⟨hlength, helements⟩ := ih fun i hbound => hpresent i (Nat.lt_succ_of_lt hbound)
    obtain ⟨last, hfound⟩ := Option.isSome_iff_exists.mp (hpresent count (Nat.lt_succ_self count))
    have hextended : (List.range (count + 1)).filterMap f =
        (List.range count).filterMap f ++ [last] := by
      rw [List.range_succ, List.filterMap_append, List.filterMap_cons_some hfound,
        List.filterMap_nil]
    rw [hextended]
    refine ⟨by rw [List.length_append, hlength]; rfl, ?_⟩
    intro i hbound
    by_cases hearlier : i < count
    · rw [List.getElem?_append_left (by omega), helements i hearlier]
    · have hhere : i = count := by omega
      rw [List.getElem?_append_right (by omega), hlength, hhere, Nat.sub_self, hfound]
      rfl

/-- The row of a unit is its column of the kernel. -/
theorem getElem?_unitRows {inputs units : Nat} {kernel : List α}
    (hwhole : kernel.length = inputs * units) {unit : Nat} (hbound : unit < units) :
    ∃ row, (unitRows inputs units kernel)[unit]? = some row ∧ row.length = inputs ∧
      ∀ input < inputs, row[input]? = kernel[input * units + unit]? := by
  have hpresent : ∀ input < inputs, (kernel.toArray[input * units + unit]?).isSome := by
    intro input hknown
    have hinside : input * units + unit < inputs * units := mul_add_lt hknown hbound
    simp only [List.getElem?_toArray, isSome_getElem?]
    omega
  obtain ⟨hlength, helements⟩ := filterMap_range_getElem? _ inputs hpresent
  refine ⟨_, by rw [unitRows, List.getElem?_map, List.getElem?_range hbound]; rfl, hlength, ?_⟩
  intro input hknown
  rw [helements input hknown, List.getElem?_toArray]

/-- The rows and biases of a dense layer are those in the ranges of its entries. -/
theorem unitsFrom_of_resolves {table : WeightTable α} {name : String} {inputs units : Nat}
    {kernel bias : WeightEntry}
    (hweights : (⟨name, "kernel", [inputs, units]⟩ : Demand).Resolves table kernel)
    (hbiases : (⟨name, "bias", [units]⟩ : Demand).Resolves table bias) :
    UnitsFrom table.buffer kernel.offset bias.offset inputs units
      (unitRows inputs units (table.slice kernel)) (table.slice bias) := by
  have hkernelLength : kernel.length = inputs * units := by
    rw [Words.product?_eq_some _ hweights.counted]
    exact congrArg (inputs * ·) (Nat.mul_one units)
  have hbiasLength : bias.length = units := by
    rw [Words.product?_eq_some _ hbiases.counted]
    exact Nat.mul_one units
  have hwhole := (WeightTable.length_slice hweights.inside).trans hkernelLength
  refine ⟨length_unitRows _ _ _, (WeightTable.length_slice hbiases.inside).trans hbiasLength,
    ?_, ?_⟩
  · intro unit hbound
    obtain ⟨row, hplaced, hlength, helements⟩ := getElem?_unitRows hwhole hbound
    refine ⟨row, hplaced, hlength, ?_⟩
    intro input hknown
    have hinside : input * units + unit < kernel.length :=
      hkernelLength ▸ mul_add_lt hknown hbound
    rw [helements input hknown, table.getElem?_slice kernel hinside, Nat.add_assoc]
  · intro unit hbound
    exact table.getElem?_slice bias (by omega)

variable [Scalar α]

/-- Both ways of computing a dense layer take for each unit the product of its row with the input
and add its bias. -/
theorem apply_dense {inputs units : Nat} {rows : List (List α)} {biases x : List α}
    (hrowed : rows.length = units) (hbiased : biases.length = units) (hfed : x.length = inputs)
    (function : Activation) (complain : String → Stop) (parallel : Bool) :
    (Layer.dense inputs rows biases function).apply complain parallel ⟨[inputs], x⟩ =
      .ok ⟨[units], function.apply
        (List.zipWith Scalar.add (rows.map fun row => Layer.dot row x) biases)⟩ := by
  have heven : biases.length = rows.length := hbiased.trans hrowed.symm
  have hserial : Layer.product? inputs rows biases x =
      some (List.zipWith Scalar.add (rows.map fun row => Layer.dot row x) biases) :=
    if_pos ⟨hfed, heven⟩
  have hunitwise := Layer.unitwise?_eq_product? hfed heven
  rw [Layer.apply, Layer.applyDense, ← hrowed]
  cases parallel with
  | true => simp only [if_true, hunitwise, hserial]
  | false => simp only [Bool.false_eq_true, if_false, hserial]

/-! ### One layer -/

omit [Scalar α] in
/-- What a dense layer that was built consists of. -/
theorem exists_reads_of_buildDense {table : WeightTable α} {shape next : List Nat} {name : String}
    {units : Nat} {function : Activation} {layer : Layer α}
    (hbuilt : buildDense table shape name units function = .ok (layer, next)) :
    ∃ inputs kernel bias, shape = [inputs] ∧ next = [units] ∧
      addressable [inputs, units] = true ∧
      (⟨name, "kernel", [inputs, units]⟩ : Demand).read table = .ok kernel ∧
      (⟨name, "bias", [units]⟩ : Demand).read table = .ok bias ∧
      layer = .dense inputs (unitRows inputs units kernel) bias function := by
  unfold buildDense at hbuilt
  split at hbuilt
  · rename_i inputs
    obtain ⟨kernel, hweights, hbuilt⟩ := bind_eq_ok_iff.mp hbuilt
    obtain ⟨bias, hbiases, hbuilt⟩ := bind_eq_ok_iff.mp hbuilt
    obtain ⟨hsized, hbuilt⟩ := throw_unless_bind_eq_ok_iff.mp hbuilt
    cases hbuilt
    exact ⟨inputs, kernel, bias, rfl, rfl, by simpa using hsized, hweights, hbiases, rfl⟩
  · cases hbuilt

theorem exists_plan_of_buildLayer {table : WeightTable α} {shape next : List Nat} {spec : LayerSpec}
    {layer : Layer α} (hbuilt : buildLayer table shape spec = .ok (layer, next)) :
    ∃ demands, spec.plan? shape = some (demands, next) := by
  cases spec with
  | flatten name =>
    cases hbuilt
    exact ⟨[], rfl⟩
  | globalAveragePooling name =>
    obtain ⟨-, height, width, channels, rfl, rfl⟩ := buildPooling_fits hbuilt
    exact ⟨[], rfl⟩
  | dense name units function =>
    obtain ⟨inputs, kernel, bias, rfl, rfl, hsized, -⟩ := exists_reads_of_buildDense hbuilt
    exact ⟨_, if_pos hsized⟩
  | batchNormalization name epsilon =>
    change buildNormalization table shape name epsilon = _ at hbuilt
    unfold buildNormalization at hbuilt
    split at hbuilt
    · cases hbuilt
    · rename_i channels hlast
      obtain ⟨gamma, -, hbuilt⟩ := bind_eq_ok_iff.mp hbuilt
      obtain ⟨beta, -, hbuilt⟩ := bind_eq_ok_iff.mp hbuilt
      obtain ⟨mean, -, hbuilt⟩ := bind_eq_ok_iff.mp hbuilt
      obtain ⟨variance, -, hbuilt⟩ := bind_eq_ok_iff.mp hbuilt
      cases hbuilt
      exact ⟨_, by rw [LayerSpec.plan?, hlast]; rfl⟩
  | activation name function =>
    cases hbuilt
    exact ⟨[], rfl⟩
  | dropout name rate =>
    cases hbuilt
    exact ⟨[], rfl⟩

/-- A dense layer from its weights in the order of its plan. Lists of other lengths do not occur. -/
def denseOf (inputs units : Nat) (function : Activation) : List (List α) → Layer α
  | [kernel, bias] => .dense inputs (unitRows inputs units kernel) bias function
  | _ => .identity

/-- A normalization from its weights in the order of its plan. -/
def normalizationOf (epsilon : α) : List (List α) → Layer α
  | [gamma, beta, mean, variance] =>
      let folded := foldStatistics epsilon gamma beta mean variance
      .normalization folded.1 folded.2
  | _ => .identity

/-- A layer is made of the weights that its description and the shape before it call for, read in
order, and of nothing else in the table. -/
theorem exists_make_of_plan {spec : LayerSpec} {shape next : List Nat} {demands : List Demand}
    (hplanned : spec.plan? shape = some (demands, next)) :
    ∃ make : List (List α) → Layer α, ∀ table : WeightTable α, buildLayer table shape spec =
      (demands.mapM fun demand : Demand => demand.read table).map
        fun values => (make values, next) := by
  -- only dense layers and normalizations read anything
  cases spec with
  | flatten name =>
    cases hplanned
    exact ⟨fun _ => .flatten, fun _ => rfl⟩
  | globalAveragePooling name =>
    simp only [LayerSpec.plan?] at hplanned
    split at hplanned
    · cases hplanned
      exact ⟨fun _ => .globalAveragePooling, fun _ => rfl⟩
    · cases hplanned
  | dense name units function =>
    simp only [LayerSpec.plan?] at hplanned
    split at hplanned
    · rename_i inputs
      obtain ⟨hsized, hsame⟩ := Option.ite_none_right_eq_some.mp hplanned
      cases hsame
      refine ⟨denseOf inputs units function, fun table => ?_⟩
      change buildDense table [inputs] name units function = _
      simp only [buildDense, hsized, List.mapM_cons, List.mapM_nil, Demand.read]
      cases table.get name "kernel" [inputs, units] with
      | error failure => rfl
      | ok kernel => cases table.get name "bias" [units] <;> rfl
    · cases hplanned
  | batchNormalization name epsilon =>
    obtain ⟨channels, hlast, hsame⟩ := Option.map_eq_some_iff.mp hplanned
    cases hsame
    refine ⟨normalizationOf (Scalar.ofBits epsilon.bits), fun table => ?_⟩
    change buildNormalization table shape name epsilon = _
    simp only [buildNormalization, hlast, List.map_cons, List.map_nil, List.mapM_cons,
      List.mapM_nil, Demand.read]
    cases table.get name "gamma" [channels] with
    | error failure => rfl
    | ok gamma =>
      cases table.get name "beta" [channels] with
      | error failure => rfl
      | ok beta =>
        cases table.get name "moving_mean" [channels] with
        | error failure => rfl
        | ok mean => cases table.get name "moving_variance" [channels] <;> rfl
  | activation name function =>
    cases hplanned
    exact ⟨fun _ => .activation function, fun _ => rfl⟩
  | dropout name rate =>
    cases hplanned
    exact ⟨fun _ => .identity, fun _ => rfl⟩

/-- A layer can be built for inputs of a shape if it is made for them and its weights can be
read. -/
theorem buildLayer_eq_ok_iff (table : WeightTable α) (spec : LayerSpec) (shape next : List Nat) :
    (∃ layer, buildLayer table shape spec = .ok (layer, next)) ↔
      ∃ demands, spec.plan? shape = some (demands, next) ∧
        ∀ demand ∈ demands, ∃ values, demand.read table = .ok values := by
  constructor
  · intro ⟨layer, hbuilt⟩
    obtain ⟨demands, hplanned⟩ := exists_plan_of_buildLayer hbuilt
    obtain ⟨make, hmade⟩ := exists_make_of_plan (α := α) hplanned
    rw [hmade] at hbuilt
    refine ⟨demands, hplanned, fun demand hmem => ?_⟩
    cases hvalues : demands.mapM fun demand : Demand => demand.read table with
    | error failure =>
      rw [hvalues] at hbuilt
      cases hbuilt
    | ok all =>
      obtain ⟨value, -, hfound⟩ :=
        exists_item_of_mem_results ((mapM_eq_ok_iff _ _ _).mp hvalues).flip hmem
      exact ⟨value, hfound⟩
  · intro ⟨demands, hplanned, hfound⟩
    obtain ⟨make, hmade⟩ := exists_make_of_plan (α := α) hplanned
    obtain ⟨values, hall⟩ := exists_mapM_eq_ok demands (fun demand => demand.read table) hfound
    exact ⟨make values, by rw [hmade, hall]; rfl⟩

/-- Building a layer reads nothing but its own weights. -/
theorem buildLayer_congr {table other : WeightTable α} {spec : LayerSpec} {shape next : List Nat}
    {demands : List Demand} (hplanned : spec.plan? shape = some (demands, next))
    (hsame : ∀ demand ∈ demands, demand.read other = demand.read table) :
    buildLayer other shape spec = buildLayer table shape spec := by
  obtain ⟨make, hmade⟩ := exists_make_of_plan (α := α) hplanned
  rw [hmade, hmade, mapM_congr demands hsame]

/-! ### All layers -/

theorem buildLayers_eq_ok_iff (table : WeightTable α) (specs : List LayerSpec) (shape : List Nat) :
    (∃ built, buildLayers table shape specs = .ok built) ↔
      ∃ demands, demandsFrom? shape specs = some demands ∧
        ∀ demand ∈ demands, ∃ values, demand.read table = .ok values := by
  induction specs generalizing shape with
  | nil => simp [buildLayers, demandsFrom?]
  | cons spec rest ih =>
    constructor
    · intro hbuildable
      obtain ⟨built, hall⟩ := hbuildable
      obtain ⟨⟨layer, next⟩, hfirst, hall⟩ := bind_eq_ok_iff.mp hall
      obtain ⟨others, hremaining, -⟩ := bind_eq_ok_iff.mp hall
      obtain ⟨own, hplanned, hfound⟩ :=
        (buildLayer_eq_ok_iff table spec shape next).mp ⟨layer, hfirst⟩
      obtain ⟨later, hfollows, hfoundLater⟩ := (ih next).mp ⟨others, hremaining⟩
      refine ⟨own ++ later, ?_, List.forall_mem_append.mpr ⟨hfound, hfoundLater⟩⟩
      simp only [demandsFrom?, hplanned, hfollows, Option.bind_eq_bind, Option.bind_some,
        Option.pure_def]
    · intro hreadable
      obtain ⟨demands, hfollows, hfound⟩ := hreadable
      obtain ⟨⟨own, next⟩, hplanned, hfollows⟩ := Option.bind_eq_some_iff.mp hfollows
      obtain ⟨later, hremaining, hfollows⟩ := Option.bind_eq_some_iff.mp hfollows
      cases hfollows
      obtain ⟨hfound, hfoundLater⟩ := List.forall_mem_append.mp hfound
      obtain ⟨layer, hfirst⟩ :=
        (buildLayer_eq_ok_iff table spec shape next).mpr ⟨own, hplanned, hfound⟩
      obtain ⟨others, hrest⟩ := (ih next).mpr ⟨later, hremaining, hfoundLater⟩
      rw [buildLayers_cons_of_ok hfirst, hrest]
      exact ⟨_, rfl⟩

theorem buildLayers_congr {table other : WeightTable α} {specs : List LayerSpec} {shape : List Nat}
    {demands : List Demand} (hfollows : demandsFrom? shape specs = some demands)
    (hsame : ∀ demand ∈ demands, demand.read other = demand.read table) :
    buildLayers other shape specs = buildLayers table shape specs := by
  -- a layer that cannot be built for one table cannot be built for the other, for the same reason
  induction specs generalizing shape demands with
  | nil => rfl
  | cons spec rest ih =>
    obtain ⟨⟨own, next⟩, hplanned, hfollows⟩ := Option.bind_eq_some_iff.mp hfollows
    obtain ⟨later, hremaining, hfollows⟩ := Option.bind_eq_some_iff.mp hfollows
    cases hfollows
    obtain ⟨hsame, hsameLater⟩ := List.forall_mem_append.mp hsame
    have hfirst := buildLayer_congr hplanned hsame
    cases hbuilt : buildLayer table shape spec with
    | error failure =>
      rw [buildLayers_cons_of_error hbuilt, buildLayers_cons_of_error (hfirst.trans hbuilt)]
    | ok pair =>
      obtain ⟨layer, after⟩ := pair
      obtain ⟨_, hplanned', -⟩ := (buildLayer_eq_ok_iff table spec shape after).mp ⟨layer, hbuilt⟩
      cases hplanned.symm.trans hplanned'
      rw [buildLayers_cons_of_ok hbuilt, buildLayers_cons_of_ok (hfirst.trans hbuilt),
        ih hremaining hsameLater]

/-- Each layer is built from its description, for inputs of some shape. -/
theorem getElem?_of_buildLayers {table : WeightTable α} {specs : List LayerSpec}
    {shape last : List Nat} {layers : List (String × Layer α)}
    (hbuilt : buildLayers table shape specs = .ok (layers, last)) {position : Nat}
    {spec : LayerSpec} (hdescribed : specs[position]? = some spec) :
    ∃ before layer after, buildLayer table before spec = .ok (layer, after) ∧
      layers[position]? = some (spec.name, layer) := by
  induction specs generalizing shape layers position with
  | nil => cases hdescribed
  | cons head rest ih =>
    obtain ⟨⟨layer, next⟩, hfirst, hbuilt⟩ := bind_eq_ok_iff.mp hbuilt
    obtain ⟨⟨others, final⟩, hremaining, hbuilt⟩ := bind_eq_ok_iff.mp hbuilt
    cases hbuilt
    cases position with
    | zero =>
      cases hdescribed
      exact ⟨shape, layer, next, hfirst, rfl⟩
    | succ position => exact ih hremaining hdescribed

/-! ### Models -/

theorem build_eq_ok_iff (topology : Topology) (table : WeightTable α) (inputShape : List Nat) :
    (∃ model, build topology table inputShape = .ok model) ↔
      ∃ demands, demandsFrom? inputShape topology.layers = some demands ∧
        ∀ demand ∈ demands, ∃ entry, demand.Resolves table entry := by
  have hlayered : (∃ model, build topology table inputShape = .ok model) ↔
      ∃ layers, buildLayers table inputShape topology.layers = .ok layers := by
    constructor
    · intro hbuildable
      obtain ⟨model, hbuilt⟩ := hbuildable
      obtain ⟨layers, hbuilt, -⟩ := bind_eq_ok_iff.mp hbuilt
      exact ⟨layers, hbuilt⟩
    · intro hbuildable
      obtain ⟨layers, hbuilt⟩ := hbuildable
      exact ⟨_, bind_eq_ok_iff.mpr ⟨layers, hbuilt, rfl⟩⟩
  rw [hlayered, buildLayers_eq_ok_iff]
  simp only [Demand.readable_iff]

/-- The layers of a model are those of its description. -/
theorem getElem?_of_build {topology : Topology} {table : WeightTable α} {inputShape : List Nat}
    {model : Model α} (hbuilt : build topology table inputShape = .ok model) {position : Nat}
    {spec : LayerSpec} (hdescribed : topology.layers[position]? = some spec) :
    ∃ before layer after, buildLayer table before spec = .ok (layer, after) ∧
      model.layers[position]? = some (spec.name, layer) := by
  obtain ⟨⟨layers, last⟩, hlayered, hbuilt⟩ := bind_eq_ok_iff.mp hbuilt
  cases hbuilt
  exact getElem?_of_buildLayers hlayered hdescribed

/-- A model can be built exactly if each weight that its layers need has an entry that stands for it,
and it is the setup that fails otherwise. Each dense layer then takes its weights from the range of
its kernel, one row for each input, and its biases from theirs, however it is computed. And nothing
else of a table matters: one that holds the same elements for the weights, at any place and among any
other entries, gives the same model, and so the same predictions. -/
theorem build_uses_resolved_slices (topology : Topology) (table : WeightTable α)
    (inputShape : List Nat) :
    ((∃ model, build topology table inputShape = .ok model) ↔
      ∃ demands, demandsFrom? inputShape topology.layers = some demands ∧
        ∀ demand ∈ demands, ∃ entry, demand.Resolves table entry) ∧
    (∀ failure, build topology table inputShape = .error failure → failure.OfSetup) ∧
    (∀ model, build topology table inputShape = .ok model →
      ∀ (position : Nat) (name : String) (units : Nat) (function : Activation),
        topology.layers[position]? = some (.dense name units function) →
        ∃ inputs kernel bias rows biases,
          (⟨name, "kernel", [inputs, units]⟩ : Demand).Resolves table kernel ∧
          (⟨name, "bias", [units]⟩ : Demand).Resolves table bias ∧
          model.layers[position]? = some (name, .dense inputs rows biases function) ∧
          UnitsFrom table.buffer kernel.offset bias.offset inputs units rows biases ∧
          ∀ complain parallel x, x.length = inputs →
            (Layer.dense inputs rows biases function).apply complain parallel ⟨[inputs], x⟩ =
              .ok ⟨[units], function.apply
                (List.zipWith Scalar.add (rows.map fun row => Layer.dot row x) biases)⟩) ∧
    ∀ demands other, demandsFrom? inputShape topology.layers = some demands →
      (∀ demand ∈ demands, demand.Agrees table other) →
      ∃ model, build topology table inputShape = .ok model ∧
        build topology other inputShape = .ok model := by
  refine ⟨build_eq_ok_iff topology table inputShape, ?_, ?_, ?_⟩
  · exact FailsAs.bind (buildLayers_failsAs table topology.layers inputShape) fun _ => .ok _
  · intro model hbuilt position name units function hdescribed
    obtain ⟨before, layer, after, hbuilt, hplaced⟩ := getElem?_of_build hbuilt hdescribed
    obtain ⟨inputs, weights, biases, -, -, -, hweightsRead, hbiasesRead, rfl⟩ :=
      exists_reads_of_buildDense hbuilt
    obtain ⟨kernel, hkernelResolves, rfl⟩ := (Demand.read_eq_ok_iff _ _ _).mp hweightsRead
    obtain ⟨bias, hbiasResolves, rfl⟩ := (Demand.read_eq_ok_iff _ _ _).mp hbiasesRead
    have htaken := unitsFrom_of_resolves hkernelResolves hbiasResolves
    refine ⟨inputs, kernel, bias, _, _, hkernelResolves, hbiasResolves, hplaced, htaken, ?_⟩
    intro complain parallel x hfed
    exact apply_dense htaken.rows_length htaken.biases_length hfed function complain parallel
  · intro demands other hfollows hagrees
    have hresolved : ∀ demand ∈ demands, ∃ entry, demand.Resolves table entry := by
      intro demand hmem
      obtain ⟨entry, -, hresolves, -⟩ := hagrees demand hmem
      exact ⟨entry, hresolves⟩
    obtain ⟨model, hbuilt⟩ := (build_eq_ok_iff _ _ _).mpr ⟨demands, hfollows, hresolved⟩
    refine ⟨model, hbuilt, ?_⟩
    rw [← hbuilt, build, build,
      buildLayers_congr hfollows fun demand hmem => (hagrees demand hmem).read_eq]

/-- One layer of two units for two inputs. -/
def headTopology : Topology := ⟨"head", [.dense "head" 2 .linear]⟩

def headTable : WeightTable Binary32 :=
  ⟨#[⟨1⟩, ⟨2⟩, ⟨3⟩, ⟨4⟩, ⟨5⟩, ⟨6⟩], [⟨"head", "kernel", 0, 4, [2, 2]⟩, ⟨"head", "bias", 4, 2, [2]⟩]⟩

/-- The same weights behind one another in the other order, with an entry at the end that is not
looked at. -/
def movedTable : WeightTable Binary32 :=
  ⟨#[⟨5⟩, ⟨6⟩, ⟨0⟩, ⟨1⟩, ⟨2⟩, ⟨3⟩, ⟨4⟩], [⟨"head", "bias", 0, 2, [2]⟩,
    ⟨"head", "kernel", 3, 4, [2, 2]⟩, ⟨"head", "kernel", 9, 1, [3]⟩]⟩

theorem build_uses_resolved_slices_moved :
    demandsFrom? [2] headTopology.layers =
      some [⟨"head", "kernel", [2, 2]⟩, ⟨"head", "bias", [2]⟩] ∧
    (⟨"head", "kernel", [2, 2]⟩ : Demand).Agrees headTable movedTable ∧
    (⟨"head", "bias", [2]⟩ : Demand).Agrees headTable movedTable ∧
    ∃ model, build headTopology headTable [2] = .ok model ∧
      build headTopology movedTable [2] = .ok model := by
  have hdemands : demandsFrom? [2] headTopology.layers =
      some [⟨"head", "kernel", [2, 2]⟩, ⟨"head", "bias", [2]⟩] := rfl
  have hkernel : (⟨"head", "kernel", [2, 2]⟩ : Demand).Agrees headTable movedTable := by
    refine ⟨⟨"head", "kernel", 0, 4, [2, 2]⟩, ⟨"head", "kernel", 3, 4, [2, 2]⟩,
      ⟨rfl, rfl, ⟨[], _, rfl, nofun⟩, rfl, by decide, by decide⟩,
      ⟨rfl, rfl, ⟨[⟨"head", "bias", 0, 2, [2]⟩], _, rfl, ?_⟩, rfl, by decide, by decide⟩, by decide⟩
    intro other hbefore
    rw [List.mem_singleton.mp hbefore]
    decide
  have hbias : (⟨"head", "bias", [2]⟩ : Demand).Agrees headTable movedTable := by
    refine ⟨⟨"head", "bias", 4, 2, [2]⟩, ⟨"head", "bias", 0, 2, [2]⟩,
      ⟨rfl, rfl, ⟨[⟨"head", "kernel", 0, 4, [2, 2]⟩], _, rfl, ?_⟩, rfl, by decide, by decide⟩,
      ⟨rfl, rfl, ⟨[], _, rfl, nofun⟩, rfl, by decide, by decide⟩, by decide⟩
    intro other hbefore
    rw [List.mem_singleton.mp hbefore]
    decide
  obtain ⟨-, -, -, hmoves⟩ := build_uses_resolved_slices headTopology headTable [2]
  refine ⟨hdemands, hkernel, hbias, hmoves _ movedTable hdemands ?_⟩
  intro demand hmem
  rcases List.mem_pair.mp hmem with hsame | hsame
  · exact hsame ▸ hkernel
  · exact hsame ▸ hbias

end Model

end TensorBench
