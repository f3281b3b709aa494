import TensorBench.KernelGraph.Basic
import TensorBench.Proofs.Expression.Reading
import TensorBench.Proofs.Json.Decoding

/-!
Kernel graphs read from JSON and written again. Every part of a graph that was read in some form is
read from the form it is written in, hence so is the graph.
-/
namespace TensorBench

open Sequencing Decode

/-! ### Layouts -/

namespace Placeholder

theorem ofJson_eq_ok_iff (json : Json) (placeholder : Placeholder) :
    ofJson json = .ok placeholder ↔
      ∃ fields source, Decode.record "PlaceholderRepr" ["eval"] json = .ok fields ∧
        fields.required "eval" Decode.string = .ok source ∧ parse source = .ok placeholder := by
  unfold ofJson
  simp only [bind_eq_ok_iff]
  constructor
  · rintro ⟨fields, hfound, source, hsourceRead, hread⟩
    refine ⟨fields, source, hfound, hsourceRead, ?_⟩
    split at hread
    · rename_i other hparsed
      cases hread
      exact hparsed
    · cases hread
  · rintro ⟨fields, source, hfound, hsourceRead, hparsed⟩
    exact ⟨fields, hfound, source, hsourceRead, by rw [hparsed]⟩

theorem kept_iff (placeholder : Placeholder) :
    Kept ofJson toJson placeholder ↔ parse placeholder.source = .ok placeholder := by
  refine (ofJson_eq_ok_iff _ _).trans ⟨?_, fun hparsed => ⟨_, _, rfl, rfl, hparsed⟩⟩
  rintro ⟨fields, source, hfound, hsourceRead, hparsed⟩
  rwa [((parse_eq_ok_iff source placeholder).mp hparsed).1]

theorem faithful : Faithful ofJson toJson := by
  rintro placeholder ⟨json, hread⟩
  obtain ⟨fields, source, -, -, hparsed⟩ := (ofJson_eq_ok_iff json placeholder).mp hread
  refine (kept_iff placeholder).mpr ?_
  rwa [((parse_eq_ok_iff source placeholder).mp hparsed).1]

end Placeholder

namespace Extent

theorem ofJson_of_size {json : Json} {bytes : Nat} (hnumber : Decode.size json = .ok bytes) :
    ofJson json = .ok (.value bytes) := by
  simp only [ofJson, hnumber]

theorem ofJson_of_expr {json : Json} {fault : DecodeFault} {expr : Placeholder}
    (hnumber : Decode.size json = .error fault) (hread : Placeholder.ofJson json = .ok expr) :
    ofJson json = .ok (.placeholder expr) := by
  simp only [ofJson, hnumber, hread]

theorem kept_value_iff (bytes : Nat) : Kept ofJson toJson (.value bytes) ↔ bytes < Words.limit := by
  refine Iff.trans ?_ (kept_size_iff bytes)
  obtain ⟨fault, hnumber⟩ : ∃ fault, Placeholder.ofJson (.nat bytes) = .error fault := by
    unfold Placeholder.ofJson Decode.record Json.nat
    exact ⟨_, rfl⟩
  rw [Kept, Kept, ofJson, toJson, hnumber]
  cases Decode.size (.nat bytes) <;> simp

/-- A placeholder is written as an object, which is never mistaken for a number of bytes. -/
theorem kept_placeholder_iff (expr : Placeholder) :
    Kept ofJson toJson (.placeholder expr) ↔ Kept Placeholder.ofJson Placeholder.toJson expr := by
  have hnumber : Decode.size expr.toJson = .error (.wrongType expr.toJson "usize") := rfl
  rw [Kept, Kept, ofJson, toJson, hnumber]
  cases Placeholder.ofJson expr.toJson <;> simp

theorem faithful : Faithful ofJson toJson := by
  rintro extent ⟨json, hread⟩
  cases hnumber : Decode.size json with
  | ok bytes =>
    rw [ofJson_of_size hnumber] at hread
    cases hread
    exact ofJson_of_size (faithful_size _ ⟨json, hnumber⟩)
  | error fault =>
    cases hdecoded : Placeholder.ofJson json with
    | ok expr =>
      rw [ofJson_of_expr hnumber hdecoded] at hread
      cases hread
      exact ofJson_of_expr rfl (Placeholder.faithful _ ⟨json, hdecoded⟩)
    | error fault =>
      simp only [ofJson, hnumber, hdecoded] at hread
      cases hread

end Extent

namespace StaticAllocation

theorem kept_iff (allocation : StaticAllocation) : Kept ofJson toJson allocation ↔
    Kept Decode.size .nat allocation.offset ∧ Kept Decode.size .nat allocation.size := by
  -- the fields are found in the same way whatever reads them
  obtain ⟨decode, hsame⟩ : ∃ decode, decode = Decode.size := ⟨_, rfl⟩
  unfold ofJson
  rw [← hsame]
  exact kept_pair_iff (StaticAllocation.mk allocation.name)
    (fun _ _ _ _ hsame => by simpa using hsame) rfl

theorem faithful : Faithful ofJson toJson := by
  rintro allocation ⟨json, hread⟩
  obtain ⟨fields, -, hread⟩ := bind_eq_ok_iff.mp hread
  obtain ⟨name, -, hread⟩ := bind_eq_ok_iff.mp hread
  obtain ⟨offset, hoffsetRead, hread⟩ := bind_eq_ok_iff.mp hread
  obtain ⟨size, hsizeRead, hread⟩ := bind_eq_ok_iff.mp hread
  cases hread
  exact (kept_iff _).mpr ⟨faithful_size _ (Fields.readable_of_required hoffsetRead),
    faithful_size _ (Fields.readable_of_required hsizeRead)⟩

end StaticAllocation

namespace DynamicAllocation

theorem kept_iff (allocation : DynamicAllocation) : Kept ofJson toJson allocation ↔
    Kept Extent.ofJson Extent.toJson allocation.offset ∧
      Kept Extent.ofJson Extent.toJson allocation.size := by
  exact kept_pair_iff (DynamicAllocation.mk allocation.name)
    (fun _ _ _ _ hsame => by simpa using hsame) rfl

theorem faithful : Faithful ofJson toJson := by
  rintro allocation ⟨json, hread⟩
  obtain ⟨fields, -, hread⟩ := bind_eq_ok_iff.mp hread
  obtain ⟨name, -, hread⟩ := bind_eq_ok_iff.mp hread
  obtain ⟨offset, hoffsetRead, hread⟩ := bind_eq_ok_iff.mp hread
  obtain ⟨size, hsizeRead, hread⟩ := bind_eq_ok_iff.mp hread
  cases hread
  exact (kept_iff _).mpr ⟨Extent.faithful _ (Fields.readable_of_required hoffsetRead),
    Extent.faithful _ (Fields.readable_of_required hsizeRead)⟩

end DynamicAllocation

namespace StaticRegion

theorem kept_iff (region : StaticRegion) : Kept ofJson toJson region ↔
    Kept Decode.size .nat region.size ∧
      Kept (Decode.table StaticAllocation.ofJson) (NameTable.toJson StaticAllocation.toJson)
        region.allocations := by
  obtain ⟨decode, hsame⟩ : ∃ decode, decode = Decode.size := ⟨_, rfl⟩
  unfold ofJson
  rw [← hsame]
  exact kept_pair_iff StaticRegion.mk (fun _ _ _ _ hsame => by simpa using hsame) rfl

theorem faithful : Faithful ofJson toJson := by
  rintro region ⟨json, hread⟩
  obtain ⟨fields, -, hread⟩ := bind_eq_ok_iff.mp hread
  obtain ⟨size, hsizeRead, hread⟩ := bind_eq_ok_iff.mp hread
  obtain ⟨allocations, hallocationsRead, hread⟩ := bind_eq_ok_iff.mp hread
  cases hread
  exact (kept_iff _).mpr ⟨faithful_size _ (Fields.readable_of_required hsizeRead),
    StaticAllocation.faithful.table _
      (Fields.readable_of_defaulted readable_empty hallocationsRead)⟩

end StaticRegion

namespace DynamicRegion

theorem kept_iff (region : DynamicRegion) : Kept ofJson toJson region ↔
    Kept Extent.ofJson Extent.toJson region.size ∧
      Kept (Decode.table DynamicAllocation.ofJson) (NameTable.toJson DynamicAllocation.toJson)
        region.allocations := by
  exact kept_pair_iff DynamicRegion.mk (fun _ _ _ _ hsame => by simpa using hsame) rfl

theorem faithful : Faithful ofJson toJson := by
  rintro region ⟨json, hread⟩
  obtain ⟨fields, -, hread⟩ := bind_eq_ok_iff.mp hread
  obtain ⟨size, hsizeRead, hread⟩ := bind_eq_ok_iff.mp hread
  obtain ⟨allocations, hallocationsRead, hread⟩ := bind_eq_ok_iff.mp hread
  cases hread
  have hzero : Readable Extent.ofJson (.value 0) := ⟨.int 0, Extent.ofJson_of_size rfl⟩
  exact (kept_iff _).mpr ⟨Extent.faithful _ (Fields.readable_of_defaulted hzero hsizeRead),
    DynamicAllocation.faithful.table _
      (Fields.readable_of_defaulted readable_empty hallocationsRead)⟩

end DynamicRegion

namespace Layout

theorem kept_iff (layout : Layout) : Kept ofJson toJson layout ↔
    Kept StaticRegion.ofJson StaticRegion.toJson layout.fixed ∧
      Kept DynamicRegion.ofJson DynamicRegion.toJson layout.floating := by
  obtain ⟨decode, hsame⟩ : ∃ decode, decode = StaticRegion.ofJson := ⟨_, rfl⟩
  unfold ofJson
  rw [← hsame]
  exact kept_pair_iff Layout.mk (fun _ _ _ _ hsame => by simpa using hsame) rfl

theorem faithful : Faithful ofJson toJson := by
  rintro layout ⟨json, hread⟩
  obtain ⟨fields, -, hread⟩ := bind_eq_ok_iff.mp hread
  obtain ⟨fixed, hfixedRead, hread⟩ := bind_eq_ok_iff.mp hread
  obtain ⟨floating, hfloatingRead, hread⟩ := bind_eq_ok_iff.mp hread
  cases hread
  exact (kept_iff _).mpr ⟨StaticRegion.faithful _ (Fields.readable_of_required hfixedRead),
    DynamicRegion.faithful _ (Fields.readable_of_defaulted ⟨.obj [], rfl⟩ hfloatingRead)⟩

end Layout

/-! ### Kernels -/

namespace Kernel

theorem exists_fields {json : Json} {kernel : Kernel} (hread : ofJson json = .ok kernel) :
    ∃ type fields, ofFields type fields = .ok kernel := by
  unfold ofJson at hread
  split at hread
  · split at hread
    · obtain ⟨⟨type, names⟩, -, hread⟩ := bind_eq_ok_iff.mp hread
      obtain ⟨fields, -, hread⟩ := bind_eq_ok_iff.mp hread
      exact ⟨type, fields, hread⟩
    · cases hread
    · cases hread
  · obtain ⟨⟨type, names⟩, -, hread⟩ := bind_eq_ok_iff.mp hread
    obtain ⟨fields, -, hread⟩ := bind_eq_ok_iff.mp hread
    exact ⟨type, fields, hread⟩
  · cases hread
  · cases hread

/-- The fields of a kernel are read by the name that is written first. -/
theorem ofJson_toJson (kernel : Kernel) :
    ofJson kernel.toJson = ofFields kernel.name ⟨kernel.members, false⟩ := by
  cases kernel with
  | unary function x y => cases function <;> rfl
  | _ => rfl

theorem kept_linear_iff (x w y : String) (inFeatures : Option Nat) :
    Kept ofJson toJson (.linear x w y inFeatures) ↔
      Kept (Decode.optional Decode.size) (Json.ofOption .nat) inFeatures := by
  rw [Kept, ofJson_toJson]
  constructor
  · intro hread
    obtain ⟨x, -, hread⟩ := bind_eq_ok_iff.mp hread
    obtain ⟨w, -, hread⟩ := bind_eq_ok_iff.mp hread
    obtain ⟨y, -, hread⟩ := bind_eq_ok_iff.mp hread
    obtain ⟨width, hwidthRead, hread⟩ := bind_eq_ok_iff.mp hread
    cases hread
    exact hwidthRead
  · intro hwidth
    refine bind_eq_ok_iff.mpr ⟨x, rfl, bind_eq_ok_iff.mpr ⟨w, rfl, bind_eq_ok_iff.mpr ⟨y, rfl, ?_⟩⟩⟩
    exact bind_eq_ok_iff.mpr ⟨inFeatures, hwidth, rfl⟩

theorem kept_concat_iff (xs : List String) (y : String) (axis : Nat) (shapes : List (List Nat)) :
    Kept ofJson toJson (.concat xs y axis shapes) ↔
      Kept Decode.size .nat axis ∧
        Kept (Decode.list (Decode.list Decode.size))
          (fun shapes => .arr (shapes.map fun shape => .arr (shape.map .nat))) shapes := by
  rw [Kept, ofJson_toJson]
  constructor
  · intro hread
    obtain ⟨xs, -, hread⟩ := bind_eq_ok_iff.mp hread
    obtain ⟨y, -, hread⟩ := bind_eq_ok_iff.mp hread
    obtain ⟨axis, haxisRead, hread⟩ := bind_eq_ok_iff.mp hread
    obtain ⟨shapes, hshapesRead, hread⟩ := bind_eq_ok_iff.mp hread
    cases hread
    exact ⟨haxisRead, hshapesRead⟩
  · rintro ⟨hplace, hsizes⟩
    have hnames : Kept (Decode.list Decode.string) (fun texts => .arr (texts.map .str)) xs :=
      (kept_list_iff xs).mpr fun _ _ => rfl
    refine bind_eq_ok_iff.mpr ⟨xs, hnames, bind_eq_ok_iff.mpr ⟨y, rfl, ?_⟩⟩
    exact bind_eq_ok_iff.mpr ⟨axis, hplace, bind_eq_ok_iff.mpr ⟨shapes, hsizes, rfl⟩⟩

theorem faithful : Faithful ofJson toJson := by
  rintro kernel ⟨json, hread⟩
  obtain ⟨type, fields, hread⟩ := exists_fields hread
  unfold ofFields at hread
  split at hread
  · obtain ⟨x, -, hread⟩ := bind_eq_ok_iff.mp hread
    obtain ⟨w, -, hread⟩ := bind_eq_ok_iff.mp hread
    obtain ⟨y, -, hread⟩ := bind_eq_ok_iff.mp hread
    obtain ⟨inFeatures, hwidthRead, hread⟩ := bind_eq_ok_iff.mp hread
    cases hread
    exact (kept_linear_iff _ _ _ _).mpr
      (faithful_size.optional nofun _ (Fields.readable_of_defaulted ⟨.null, rfl⟩ hwidthRead))
  · obtain ⟨x, -, hread⟩ := bind_eq_ok_iff.mp hread
    obtain ⟨b, -, hread⟩ := bind_eq_ok_iff.mp hread
    obtain ⟨y, -, hread⟩ := bind_eq_ok_iff.mp hread
    cases hread
    rfl
  · obtain ⟨x0, -, hread⟩ := bind_eq_ok_iff.mp hread
    obtain ⟨x1, -, hread⟩ := bind_eq_ok_iff.mp hread
    obtain ⟨y, -, hread⟩ := bind_eq_ok_iff.mp hread
    cases hread
    rfl
  · obtain ⟨x0, -, hread⟩ := bind_eq_ok_iff.mp hread
    obtain ⟨x1, -, hread⟩ := bind_eq_ok_iff.mp hread
    obtain ⟨y, -, hread⟩ := bind_eq_ok_iff.mp hread
    cases hread
    rfl
  · obtain ⟨xs, -, hread⟩ := bind_eq_ok_iff.mp hread
    obtain ⟨y, -, hread⟩ := bind_eq_ok_iff.mp hread
    obtain ⟨axis, haxisRead, hread⟩ := bind_eq_ok_iff.mp hread
    obtain ⟨shapes, hshapesRead, hread⟩ := bind_eq_ok_iff.mp hread
    cases hread
    exact (kept_concat_iff _ _ _ _).mpr
      ⟨faithful_size _ (Fields.readable_of_required haxisRead),
        faithful_size.list.list _ (Fields.readable_of_required hshapesRead)⟩
  · split at hread
    · rename_i function _
      obtain ⟨x, -, hread⟩ := bind_eq_ok_iff.mp hread
      obtain ⟨y, -, hread⟩ := bind_eq_ok_iff.mp hread
      cases hread
      cases function <;> rfl
    · cases hread

end Kernel

/-! ### Graphs -/

namespace KernelGraph

/-- The names of the inputs and outputs and the encoding are read from their texts in any case. -/
theorem kept_iff (graph : KernelGraph) : Kept ofJson toJson graph ↔
    Kept Layout.ofJson Layout.toJson graph.layout ∧
      Kept (Decode.list Kernel.ofJson) (fun kernels => .arr (kernels.map Kernel.toJson))
        graph.kernels ∧
      Kept Bindings.ofJson Bindings.toJson graph.bindings := by
  constructor
  · intro hkept
    obtain ⟨fields, hfound, hread⟩ := bind_eq_ok_iff.mp hkept
    obtain ⟨layout, hlayoutRead, hread⟩ := bind_eq_ok_iff.mp hread
    obtain ⟨encoding, -, hread⟩ := bind_eq_ok_iff.mp hread
    obtain ⟨inputs, -, hread⟩ := bind_eq_ok_iff.mp hread
    obtain ⟨outputs, -, hread⟩ := bind_eq_ok_iff.mp hread
    obtain ⟨kernels, hkernelsRead, hread⟩ := bind_eq_ok_iff.mp hread
    obtain ⟨bindings, hbindingsRead, hread⟩ := bind_eq_ok_iff.mp hread
    cases hread
    cases hfound
    exact ⟨hlayoutRead, hkernelsRead, hbindingsRead⟩
  · rintro ⟨hlayout, hkernels, hbindings⟩
    have hnames (texts : List String) :
        Kept (Decode.list Decode.string) (fun texts => .arr (texts.map .str)) texts :=
      (kept_list_iff texts).mpr fun _ _ => rfl
    refine bind_eq_ok_iff.mpr ⟨⟨[("memory_layout", graph.layout.toJson),
      ("weight_encoding", .str graph.encoding), ("inputs", .arr (graph.inputs.map .str)),
      ("outputs", .arr (graph.outputs.map .str)),
      ("kernels", .arr (graph.kernels.map Kernel.toJson)),
      ("placeholders", Bindings.toJson graph.bindings)], false⟩, rfl, ?_⟩
    refine bind_eq_ok_iff.mpr ⟨graph.layout, hlayout, ?_⟩
    refine bind_eq_ok_iff.mpr ⟨graph.encoding, rfl, ?_⟩
    refine bind_eq_ok_iff.mpr ⟨graph.inputs, hnames _, ?_⟩
    refine bind_eq_ok_iff.mpr ⟨graph.outputs, hnames _, ?_⟩
    refine bind_eq_ok_iff.mpr ⟨graph.kernels, hkernels, ?_⟩
    exact bind_eq_ok_iff.mpr ⟨graph.bindings, hbindings, rfl⟩

theorem faithful : Faithful ofJson toJson := by
  rintro graph ⟨json, hread⟩
  obtain ⟨fields, -, hread⟩ := bind_eq_ok_iff.mp hread
  obtain ⟨layout, hlayoutRead, hread⟩ := bind_eq_ok_iff.mp hread
  obtain ⟨encoding, -, hread⟩ := bind_eq_ok_iff.mp hread
  obtain ⟨inputs, -, hread⟩ := bind_eq_ok_iff.mp hread
  obtain ⟨outputs, -, hread⟩ := bind_eq_ok_iff.mp hread
  obtain ⟨kernels, hkernelsRead, hread⟩ := bind_eq_ok_iff.mp hread
  obtain ⟨bindings, hbindingsRead, hread⟩ := bind_eq_ok_iff.mp hread
  cases hread
  exact (kept_iff _).mpr ⟨Layout.faithful _ (Fields.readable_of_required hlayoutRead),
    Kernel.faithful.list _ (Fields.readable_of_required hkernelsRead),
    faithful_signed.table _ (Fields.readable_of_defaulted readable_empty hbindingsRead)⟩

/-- A graph that was read from JSON in any form is written as JSON that reads as the same graph: its
layout with the texts of its placeholders, its encoding, its inputs, outputs, kernels and bindings. -/
theorem ofJson_toJson_of_read (json : Json) (graph : KernelGraph)
    (hread : ofJson json = .ok graph) : ofJson graph.toJson = .ok graph :=
  faithful graph ⟨json, hread⟩

/-- A graph in a short form: records as lists, a member that nobody knows, and neither an encoding
nor bindings. -/
def shortForm : Json :=
  .obj [("comment", .str "doubles"),
    ("memory_layout", .arr [
      .arr [.int 4, .obj [("w", .arr [.str "w", .int 0, .int 4])]],
      .arr [.obj [("eval", .str "N * 8")], .obj [
        ("y", .obj [("size", .arr [.str "N*4"]), ("offset", .arr [.str "N * 4"]),
          ("name", .str "y")]),
        ("x", .arr [.str "x", .int 0, .obj [("eval", .str "N*4")]])]]]),
    ("inputs", .arr [.str "x"]), ("outputs", .arr [.str "y"]),
    ("kernels", .arr [.arr [.str "linear", .str "x", .str "w", .str "y"],
      .obj [("x", .str "y"), ("y", .str "y"), ("type", .str "relu")]])]

def doubling : KernelGraph where
  layout := ⟨⟨4, .ofList [("w", ⟨"w", 0, 4⟩)]⟩,
    ⟨.placeholder ⟨"N * 8", .binary .mul (.name "N") (.int 8)⟩, .ofList [
      ("x", ⟨"x", .value 0, .placeholder ⟨"N*4", .binary .mul (.name "N") (.int 4)⟩⟩),
      ("y", ⟨"y", .placeholder ⟨"N * 4", .binary .mul (.name "N") (.int 4)⟩,
        .placeholder ⟨"N*4", .binary .mul (.name "N") (.int 4)⟩⟩)]⟩⟩
  encoding := "raw"
  inputs := ["x"]
  outputs := ["y"]
  kernels := [.linear "x" "w" "y" none, .unary .relu "y" "y"]
  bindings := .empty

theorem ofJson_toJson_doubling :
    ofJson shortForm = .ok doubling ∧ ofJson doubling.toJson = .ok doubling := by
  have hread : ofJson shortForm = .ok doubling := rfl
  exact ⟨hread, ofJson_toJson_of_read shortForm doubling hread⟩

end KernelGraph

end TensorBench
