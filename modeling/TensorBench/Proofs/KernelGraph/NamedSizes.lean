import TensorBench.Proofs.Expression.Writing
import TensorBench.Proofs.KernelGraph.Codec
import TensorBench.Proofs.Layout.Binding

/-!
Sizes that are single names. A placeholder that is made for a name keeps the name as its text, which is
read as an expression later on. It is read as the same placeholder exactly if the name could stand bare
in an expression, and so is a graph whose layout has such sizes.
-/
namespace TensorBench

open Decode Sequencing

namespace Placeholder

/-- The name can stand in an expression as it is. -/
def IsBare (name : String) : Prop := Token.IsWord name.toList ∧ name ≠ Expr.reservedWord

instance (name : String) : Decidable (IsBare name) := inferInstanceAs (Decidable (_ ∧ _))

/-- A text in quotes is longer than what it quotes, so no text reads as the name that it is unless the
name needs no quotes. -/
theorem parse_named_iff (name : String) : parse name = .ok (named name) ↔ IsBare name := by
  rw [parse_eq_ok_iff]
  constructor
  · rintro ⟨-, tokens, hscanned, hderived⟩
    have hspelled := (Token.scan_eq_ok_iff name tokens).mp hscanned
    rcases hderived.token_of_mentions .name with ⟨hmem, hfree⟩ | hmem
    · obtain ⟨lexeme, hlexeme, -⟩ := hspelled.exists_lexeme hmem
      exact ⟨hlexeme.eq_of_ident.2, hfree⟩
    · obtain ⟨lexeme, hlexeme, hshort⟩ := hspelled.exists_lexeme hmem
      obtain ⟨quote, -, -, rfl⟩ := hlexeme.eq_of_str
      rw [List.length_cons, List.length_append, List.length_singleton] at hshort
      omega
  · rintro ⟨hword, hfree⟩
    have hlexeme := Token.Lexeme.ident hword
    rw [String.ofList_toList] at hlexeme
    refine ⟨rfl, [.ident name], (Token.scan_eq_ok_iff name _).mpr hlexeme.spells, ?_⟩
    exact .single (.single (.unsigned (.name hfree)))

end Placeholder

/-! ### Words -/

/-- A number of bytes is a word. -/
def Extent.OfWords (extent : Extent) : Prop := ∀ bytes ∈ extent.value?, bytes < Words.limit

instance (extent : Extent) : Decidable extent.OfWords :=
  inferInstanceAs (Decidable (∀ bytes ∈ extent.value?, bytes < Words.limit))

theorem Extent.kept_iff (extent : Extent) : Kept ofJson toJson extent ↔
    extent.OfWords ∧ ∀ expr, extent = .placeholder expr →
      Kept Placeholder.ofJson Placeholder.toJson expr := by
  cases extent with
  | value bytes => simp [kept_value_iff, OfWords, value?]
  | placeholder expr => simp [kept_placeholder_iff, OfWords, value?]

namespace Layout

/-- The offsets and sizes of a layout are words. -/
structure OfWords (layout : Layout) : Prop where
  static_size : layout.fixed.size < Words.limit
  static_allocation : ∀ entry ∈ layout.fixed.allocations.entries,
    entry.2.offset < Words.limit ∧ entry.2.size < Words.limit
  dynamic_size : layout.floating.size.OfWords
  dynamic_allocation : ∀ entry ∈ layout.floating.allocations.entries,
    entry.2.offset.OfWords ∧ entry.2.size.OfWords

/-- A layout is read from its JSON exactly if its numbers are words and its placeholders are read. -/
theorem kept_iff_placeholders (layout : Layout) : Kept ofJson toJson layout ↔
    layout.OfWords ∧ ∀ expr ∈ layout.placeholders,
      Kept Placeholder.ofJson Placeholder.toJson expr := by
  simp only [mem_placeholders_iff]
  rw [kept_iff, StaticRegion.kept_iff, DynamicRegion.kept_iff]
  simp only [kept_table_iff, StaticAllocation.kept_iff, DynamicAllocation.kept_iff, kept_size_iff,
    Extent.kept_iff]
  constructor
  · rintro ⟨⟨hsize, hfixed⟩, ⟨hbytes, hexprs⟩, hfloating⟩
    refine ⟨⟨hsize, hfixed, hbytes, fun entry hmem => ?_⟩, ?_⟩
    · exact ⟨(hfloating entry hmem).1.1, (hfloating entry hmem).2.1⟩
    · rintro expr (hsame | ⟨entry, hmem, hsame | hsame⟩)
      · exact hexprs expr hsame
      · exact (hfloating entry hmem).1.2 expr hsame
      · exact (hfloating entry hmem).2.2 expr hsame
  · rintro ⟨hwords, hexprs⟩
    refine ⟨⟨hwords.static_size, hwords.static_allocation⟩,
      ⟨hwords.dynamic_size, fun expr hsame => hexprs expr (.inl hsame)⟩, fun entry hmem => ?_⟩
    obtain ⟨hoffset, hsize⟩ := hwords.dynamic_allocation entry hmem
    exact ⟨⟨hoffset, fun expr hsame => hexprs expr (.inr ⟨entry, hmem, .inl hsame⟩)⟩,
      hsize, fun expr hsame => hexprs expr (.inr ⟨entry, hmem, .inr hsame⟩)⟩

end Layout

namespace Kernel

/-- The numbers of a kernel are words. -/
def OfWords : Kernel → Prop
  | linear _ _ _ inFeatures => ∀ width ∈ inFeatures, width < Words.limit
  | concat _ _ axis shapes =>
      axis < Words.limit ∧ ∀ shape ∈ shapes, ∀ length ∈ shape, length < Words.limit
  | _ => True

theorem kept_iff (kernel : Kernel) : Kept ofJson toJson kernel ↔ kernel.OfWords := by
  cases kernel with
  | linear x w y inFeatures =>
    rw [kept_linear_iff, kept_optional_iff nofun]
    simp only [kept_size_iff, OfWords]
  | concat xs y axis shapes =>
    rw [kept_concat_iff, kept_list_iff]
    simp only [kept_list_iff, kept_size_iff, OfWords]
  | unary function x y => cases function <;> exact iff_of_true rfl trivial
  | bias | elementwiseSum | elementwiseMul => exact iff_of_true rfl trivial

end Kernel

namespace KernelGraph

/-- The numbers of a graph are words, those of its bindings signed ones. -/
structure OfWords (graph : KernelGraph) : Prop where
  layout : graph.layout.OfWords
  kernels : ∀ kernel ∈ graph.kernels, kernel.OfWords
  bindings : ∀ entry ∈ graph.bindings.entries, Words.IsSigned entry.2

theorem kept_iff_placeholders (graph : KernelGraph) : Kept ofJson toJson graph ↔
    graph.OfWords ∧ ∀ expr ∈ graph.layout.placeholders,
      Kept Placeholder.ofJson Placeholder.toJson expr := by
  have hbindings : Kept Bindings.ofJson Bindings.toJson graph.bindings ↔
      ∀ entry ∈ graph.bindings.entries, Words.IsSigned entry.2 := by
    refine (kept_table_iff graph.bindings).trans ?_
    simp only [kept_signed_iff]
  rw [kept_iff, Layout.kept_iff_placeholders, kept_list_iff, hbindings]
  simp only [Kernel.kept_iff]
  constructor
  · rintro ⟨⟨hlayout, hexprs⟩, hkernels, hbindings⟩
    exact ⟨⟨hlayout, hkernels, hbindings⟩, hexprs⟩
  · rintro ⟨hwords, hexprs⟩
    exact ⟨⟨hwords.layout, hexprs⟩, hwords.kernels, hwords.bindings⟩

/-- The placeholder of a name is read from its JSON as it was exactly if the name is a word that can
stand bare in an expression. A graph whose layout has only such placeholders is read from its JSON as
it was, hence evaluates as it did, exactly if each of the names is one. -/
theorem ofJson_toJson_named_iff (name : String) :
    (Placeholder.ofJson (Placeholder.named name).toJson = .ok (.named name) ↔
      Placeholder.IsBare name) ∧
    ∀ graph : KernelGraph, graph.OfWords →
      (∀ expr ∈ graph.layout.placeholders, ∃ other, expr = .named other) →
      (ofJson graph.toJson = .ok graph ↔
        ∀ other, .named other ∈ graph.layout.placeholders → Placeholder.IsBare other) := by
  have hbare (name : String) : Kept Placeholder.ofJson Placeholder.toJson (.named name) ↔
      Placeholder.IsBare name :=
    (Placeholder.kept_iff _).trans (Placeholder.parse_named_iff name)
  refine ⟨hbare name, fun graph hwords hnamed => (kept_iff_placeholders graph).trans ?_⟩
  constructor
  · rintro ⟨-, hexprs⟩ other hmem
    exact (hbare other).mp (hexprs _ hmem)
  · refine fun hnames => ⟨hwords, fun expr hmem => ?_⟩
    obtain ⟨other, rfl⟩ := hnamed expr hmem
    exact (hbare other).mpr (hnames other hmem)

/-- A graph that copies a tensor of as many bytes as a name says. -/
def copying (name : String) : KernelGraph where
  layout := ⟨⟨0, .empty⟩, ⟨.value 64, .ofList [
    ("x", ⟨"x", .value 0, .placeholder (.named name)⟩),
    ("y", ⟨"y", .placeholder (.named name), .placeholder (.named name)⟩)]⟩⟩
  encoding := "raw"
  inputs := ["x"]
  outputs := ["y"]
  kernels := [.unary .copy "x" "y"]
  bindings := .ofList [(name, 32)]

theorem ofJson_toJson_copying : (copying "batch_size").OfWords ∧
    (∀ expr ∈ (copying "batch_size").layout.placeholders, ∃ name, expr = .named name) ∧
    ofJson (copying "batch_size").toJson = .ok (copying "batch_size") := by
  have hplaceholders : (copying "batch_size").layout.placeholders =
      [.named "batch_size", .named "batch_size", .named "batch_size"] := rfl
  have hwords : (copying "batch_size").OfWords :=
    { layout := ⟨by decide, by decide, by decide, by decide⟩
      kernels := List.forall_mem_singleton.mpr trivial
      bindings := by decide }
  have hnamed :
    ∀ expr ∈ (copying "batch_size").layout.placeholders, ∃ name, expr = .named name := by
    rw [hplaceholders]
    simp
  refine ⟨hwords, hnamed,
    ((ofJson_toJson_named_iff "batch_size").2 _ hwords hnamed).mpr fun name hmem => ?_⟩
  obtain rfl : name = "batch_size" := by simpa [hplaceholders, Placeholder.named] using hmem
  decide

/-- A name with a hyphen is read as a difference of two other names. -/
theorem hyphenated_name_misread :
    Placeholder.ofJson (Placeholder.named "batch-size").toJson =
        .ok ⟨"batch-size", .binary .sub (.name "batch") (.name "size")⟩ ∧
      (Placeholder.named "batch-size").eval (.ofList [("batch-size", 8)]) = .ok 8 ∧
      (Placeholder.mk "batch-size" (.binary .sub (.name "batch") (.name "size"))).eval
        (.ofList [("batch-size", 8)]) =
        .error (.unresolvedPlaceholder "'batch' is not bound (in 'batch-size')") :=
  ⟨rfl, rfl, rfl⟩

end KernelGraph

end TensorBench
