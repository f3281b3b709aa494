import TensorBench.Proofs.Layout.Pushing
import TensorBench.Proofs.Layout.Validation

/-!
Parts without gaps. The allocations of a part tile it if they lie one behind the other from its
first byte to its last, so that every byte belongs to exactly one of them. What is pushed to the
static part of an empty layout tiles it unless a name is used twice. A name that is used again stands
for what was pushed under it last; the bytes it stood for before are left unused, and nothing else
moves.
-/
namespace TensorBench

/-- The bytes of an allocation, counted from the start of its part. -/
def StaticAllocation.span (allocation : StaticAllocation) : Layout.Span :=
  ⟨allocation.offset, allocation.offset + allocation.size, allocation.name⟩

/-- The bytes of an allocation, if its extents are known. -/
def DynamicAllocation.span? (allocation : DynamicAllocation) : Option Layout.Span := do
  let offset ← allocation.offset.value?
  let size ← allocation.size.value?
  return ⟨offset, offset + size, allocation.name⟩

namespace Layout

/-! ### Spans one behind the other -/

def Span.Covers (span : Span) (byte : Nat) : Prop := span.start ≤ byte ∧ byte < span.stop

/-- The first span begins at the low end, every other one where the one in front of it stops, and
the last one stops at the high end. -/
def Tiles : Nat → List Span → Nat → Prop
  | low, [], high => low = high
  | low, span :: rest, high => span.start = low ∧ low ≤ span.stop ∧ Tiles span.stop rest high

theorem Tiles.low_le {low high : Nat} {spans : List Span} (htiles : Tiles low spans high) :
    low ≤ high := by
  induction spans generalizing low with
  | nil => exact Nat.le_of_eq htiles
  | cons span rest ih =>
    obtain ⟨-, hordered, hothers⟩ := htiles
    have hbehind := ih hothers
    omega

theorem Tiles.start_ge {low high : Nat} {spans : List Span} (htiles : Tiles low spans high)
    {span : Span} (hmem : span ∈ spans) : low ≤ span.start := by
  induction spans generalizing low with
  | nil => cases hmem
  | cons first rest ih =>
    obtain ⟨hbegins, hordered, hothers⟩ := htiles
    rcases List.mem_cons.mp hmem with hsame | hlater
    · rw [hsame, hbegins]
    · have hbehind := ih hothers hlater
      omega

theorem tiles_concat_iff (low high : Nat) (spans : List Span) (last : Span) :
    Tiles low (spans ++ [last]) high ↔
      Tiles low spans last.start ∧ last.start ≤ last.stop ∧ last.stop = high := by
  induction spans generalizing low with
  | nil =>
    simp only [List.nil_append, Tiles]
    constructor
    · intro ⟨hbegins, hordered, hends⟩
      exact ⟨hbegins.symm, hbegins ▸ hordered, hends⟩
    · intro ⟨hbegins, hordered, hends⟩
      exact ⟨hbegins.symm, hbegins ▸ hordered, hends⟩
  | cons first rest ih =>
    simp only [List.cons_append, Tiles, ih, and_assoc]

/-- Every byte between the ends belongs to exactly one span. -/
theorem Tiles.existsUnique_covers {low high : Nat} {spans : List Span}
    (htiles : Tiles low spans high) {byte : Nat} (habove : low ≤ byte) (hbelow : byte < high) :
    ∃! span, span ∈ spans ∧ span.Covers byte := by
  -- a byte in front of the first stop belongs to the first span, any other one to the rest
  induction spans generalizing low with
  | nil =>
    have hnone : low = high := htiles
    omega
  | cons first rest ih =>
    obtain ⟨hbegins, hordered, hothers⟩ := htiles
    by_cases hearly : byte < first.stop
    · refine ⟨first, ⟨List.mem_cons_self, hbegins ▸ habove, hearly⟩, ?_⟩
      intro span ⟨hmem, hcovers⟩
      rcases List.mem_cons.mp hmem with hsame | hlater
      · exact hsame
      · have hbehind := hothers.start_ge hlater
        have hreached := hcovers.1
        omega
    · obtain ⟨span, ⟨hmem, hcovers⟩, hunique⟩ := ih hothers (Nat.le_of_not_lt hearly)
      refine ⟨span, ⟨List.mem_cons_of_mem _ hmem, hcovers⟩, ?_⟩
      intro other ⟨hotherMember, hotherCovers⟩
      rcases List.mem_cons.mp hotherMember with hsame | hlater
      · rw [hsame] at hotherCovers
        exact absurd hotherCovers.2 hearly
      · exact hunique other ⟨hlater, hotherCovers⟩

end Layout

open Layout (Span Tiles)

/-! ### Tiled parts -/

/-- The allocations of these names, in their order, tile the part, and there are no others. -/
def StaticRegion.TiledBy (region : StaticRegion) (names : List String) : Prop :=
  ∃ spans : List Span, spans.map (·.name) = names ∧
    (region.allocations.entries.map fun entry => entry.2.span).Perm spans ∧
    Tiles 0 spans region.size

/-- The same for a dynamic part, all of whose extents are known. -/
def DynamicRegion.TiledBy (region : DynamicRegion) (names : List String) : Prop :=
  ∃ (spans : List Span) (bytes : Nat), spans.map (·.name) = names ∧ region.size = .value bytes ∧
    (region.allocations.entries.map fun entry => entry.2.span?).Perm (spans.map some) ∧
    Tiles 0 spans bytes

theorem StaticAllocation.span_injective : Function.Injective StaticAllocation.span := by
  intro a b hsame
  obtain ⟨name, offset, size⟩ := a
  obtain ⟨otherName, otherOffset, otherSize⟩ := b
  simp only [span, Span.mk.injEq] at hsame
  obtain ⟨rfl, hends, rfl⟩ := hsame
  have hsizes : size = otherSize := by omega
  rw [hsizes]

/-- Every byte of a tiled part belongs to exactly one allocation. -/
theorem StaticRegion.TiledBy.existsUnique_covers {region : StaticRegion} {names : List String}
    (htiled : region.TiledBy names) {byte : Nat} (hinside : byte < region.size) :
    ∃! allocation, allocation ∈ region.allocations.entries.map (·.2) ∧ allocation.Covers byte := by
  obtain ⟨spans, -, hperm, htiles⟩ := htiled
  have hspans : region.allocations.entries.map (fun entry => entry.2.span) =
      (region.allocations.entries.map (·.2)).map StaticAllocation.span := by
    rw [List.map_map]
    rfl
  rw [hspans] at hperm
  obtain ⟨span, ⟨hmem, hcovers⟩, hunique⟩ := htiles.existsUnique_covers (Nat.zero_le byte) hinside
  obtain ⟨allocation, hpresent, rfl⟩ := List.mem_map.mp (hperm.mem_iff.mpr hmem)
  refine ⟨allocation, ⟨hpresent, hcovers⟩, ?_⟩
  intro other ⟨hotherPresent, hotherCovers⟩
  apply StaticAllocation.span_injective
  exact hunique other.span ⟨hperm.mem_iff.mp (List.mem_map_of_mem hotherPresent), hotherCovers⟩

namespace Layout

/-! ### Pushes to an empty layout -/

/-- The layout after allocations of some names and sizes have been pushed to the static part of an
empty one. -/
def ofPushes (pushes : List (String × Nat)) : Layout :=
  pushes.foldl (fun layout push => layout.pushStatic push.1 push.2) empty

/-- The bytes of all pushes together. -/
def pushedBytes : List (String × Nat) → Nat
  | [] => 0
  | (_, size) :: rest => size + pushedBytes rest

theorem ofPushes_concat (front : List (String × Nat)) (last : String × Nat) :
    ofPushes (front ++ [last]) = (ofPushes front).pushStatic last.1 last.2 := by
  rw [ofPushes, List.foldl_append]
  rfl

theorem pushedBytes_append (front back : List (String × Nat)) :
    pushedBytes (front ++ back) = pushedBytes front + pushedBytes back := by
  induction front with
  | nil => exact (Nat.zero_add _).symm
  | cons push rest ih =>
    rw [List.cons_append, pushedBytes, pushedBytes, ih, Nat.add_assoc]

theorem pushedBytes_singleton (push : String × Nat) : pushedBytes [push] = push.2 := rfl

theorem size_ofPushes (pushes : List (String × Nat)) :
    (ofPushes pushes).fixed.size = pushedBytes pushes := by
  induction pushes using List.reverseRecOn with
  | nil => rfl
  | append_singleton front last ih =>
    rw [ofPushes_concat, pushedBytes_append, pushedBytes_singleton, ← ih]
    rfl

theorem floating_ofPushes (pushes : List (String × Nat)) :
    (ofPushes pushes).floating = empty.floating := by
  induction pushes using List.reverseRecOn with
  | nil => rfl
  | append_singleton front last ih =>
    rw [ofPushes_concat, ← ih]
    rfl

/-- A push changes only what its own name stands for. -/
theorem get?_ofPushes_concat (front : List (String × Nat)) (last : String × Nat) (name : String) :
    (ofPushes (front ++ [last])).fixed.allocations.get? name =
      if name = last.1 then some ⟨last.1, pushedBytes front, last.2⟩
      else (ofPushes front).fixed.allocations.get? name := by
  rw [ofPushes_concat, ← size_ofPushes]
  exact NameTable.get?_insert _ _ _ _

/-- Pushes under other names leave an allocation where it is. -/
theorem get?_ofPushes_append (front back : List (String × Nat)) {name : String}
    (hothers : name ∉ back.map (·.1)) :
    (ofPushes (front ++ back)).fixed.allocations.get? name =
      (ofPushes front).fixed.allocations.get? name := by
  induction back using List.reverseRecOn with
  | nil => rw [List.append_nil]
  | append_singleton back last ih =>
    simp only [List.map_append, List.map_singleton, List.mem_append, List.mem_singleton, not_or]
      at hothers
    rw [← List.append_assoc, get?_ofPushes_concat, if_neg hothers.2]
    exact ih hothers.1

/-- A name stands for what was pushed under it last. -/
theorem get?_ofPushes (front back : List (String × Nat)) (name : String) (size : Nat)
    (hlast : name ∉ back.map (·.1)) :
    (ofPushes (front ++ (name, size) :: back)).fixed.allocations.get? name =
      some ⟨name, pushedBytes front, size⟩ := by
  rw [← List.singleton_append, ← List.append_assoc, get?_ofPushes_append _ back hlast,
    get?_ofPushes_concat]
  exact if_pos rfl

/-- The static part is consistent after each push, whatever names were used before. -/
theorem packed_ofPushes {pushes : List (String × Nat)}
    (hwhole : ∀ push ∈ pushes, Words.elementSize ∣ push.2)
    (haddressable : pushedBytes pushes < Words.limit) : Packed (ofPushes pushes).fixed := by
  induction pushes using List.reverseRecOn with
  | nil => exact packed_empty
  | append_singleton front last ih =>
    rw [pushedBytes_append, pushedBytes_singleton] at haddressable
    have hearlier : Packed (ofPushes front).fixed := by
      apply ih
      · intro push hmem
        exact hwhole push (List.mem_append_left _ hmem)
      · omega
    rw [ofPushes_concat]
    apply hearlier.pushStatic
    · exact hwhole last (List.mem_append_right _ (List.mem_singleton_self last))
    · rw [size_ofPushes]
      exact haddressable

theorem validate_ofPushes {pushes : List (String × Nat)}
    (hwhole : ∀ push ∈ pushes, Words.elementSize ∣ push.2)
    (haddressable : pushedBytes pushes < Words.limit) : (ofPushes pushes).validate = .ok () := by
  have hpacked := packed_ofPushes hwhole haddressable
  have hdynamic := floating_ofPushes pushes
  have hsettled : (ofPushes pushes).Settled ((ofPushes pushes).fixed.size + 0) := by
    apply settled_of_packed hpacked
    · rw [hdynamic]
      rfl
    · exact Nat.dvd_zero _
    · rw [size_ofPushes]
      exact haddressable
    · rw [hdynamic]
      exact nofun
  exact (validate_eq_ok_iff _).mpr hsettled.check_ok

/-! ### Tilings by pushes -/

theorem names_ofPushes (pushes : List (String × Nat)) (name : String) :
    name ∈ (ofPushes pushes).fixed.allocations.names ↔ name ∈ pushes.map (·.1) := by
  induction pushes using List.reverseRecOn with
  | nil => rfl
  | append_singleton front last ih =>
    rw [NameTable.mem_names_iff] at ih ⊢
    rw [get?_ofPushes_concat, List.map_append, List.mem_append, ← ih]
    by_cases hsame : name = last.1
    · simp [hsame]
    · simp [hsame]

/-- Pushes of different names leave no gap: each allocation begins where the one before it ends. -/
theorem tiledBy_ofPushes {pushes : List (String × Nat)} (hdistinct : (pushes.map (·.1)).Nodup) :
    (ofPushes pushes).fixed.TiledBy (pushes.map (·.1)) := by
  induction pushes using List.reverseRecOn with
  | nil => exact ⟨[], rfl, .refl _, rfl⟩
  | append_singleton front last ih =>
    obtain ⟨hfresh, hdistinct⟩ := (Sequencing.nodup_map_concat_iff _ _ _).mp hdistinct
    obtain ⟨spans, hnames, hperm, htiles⟩ := ih hdistinct
    let pushed : StaticAllocation := ⟨last.1, (ofPushes front).fixed.size, last.2⟩
    have hentries : (ofPushes (front ++ [last])).fixed.allocations.entries.Perm
        ((last.1, pushed) :: (ofPushes front).fixed.allocations.entries) := by
      rw [ofPushes_concat]
      apply NameTable.perm_insertEntry
      intro hpresent
      exact hfresh ((names_ofPushes front last.1).mp hpresent)
    refine ⟨spans ++ [pushed.span], ?_, ?_, ?_⟩
    · rw [List.map_append, hnames, List.map_append]
      rfl
    · refine (hentries.map _).trans ?_
      rw [List.map_cons]
      exact (hperm.cons _).trans (List.perm_append_singleton _ _).symm
    · rw [tiles_concat_iff, ofPushes_concat]
      exact ⟨htiles, Nat.le_add_right _ _, rfl⟩

/-- Pushing whole elements keeps a layout valid at every step, as long as all of them can be
addressed. What was pushed stays where it is until its name is used again, and the name then stands
for the last push. Where no name is used twice, the allocations tile the static part in the order of
the pushes. -/
theorem ofPushes_stays_valid (pushes : List (String × Nat))
    (hwhole : ∀ push ∈ pushes, Words.elementSize ∣ push.2)
    (haddressable : pushedBytes pushes < Words.limit) :
    (∀ part, part <+: pushes → (ofPushes part).validate = .ok () ∧
      (ofPushes part).fixed.size = pushedBytes part) ∧
    (∀ front back, front ++ back <+: pushes → ∀ name, name ∉ back.map (·.1) →
      (ofPushes (front ++ back)).fixed.allocations.get? name =
        (ofPushes front).fixed.allocations.get? name) ∧
    (∀ front name size back, front ++ (name, size) :: back <+: pushes → name ∉ back.map (·.1) →
      (ofPushes (front ++ (name, size) :: back)).fixed.allocations.get? name =
        some ⟨name, pushedBytes front, size⟩) ∧
    ((pushes.map (·.1)).Nodup →
      (ofPushes pushes).fixed.TiledBy (pushes.map (·.1)) ∧
      ∀ byte < (ofPushes pushes).fixed.size, ∃! allocation,
        allocation ∈ (ofPushes pushes).fixed.allocations.entries.map (·.2) ∧
          allocation.Covers byte) := by
  refine ⟨?_, ?_, ?_, ?_⟩
  · intro part hbegins
    obtain ⟨rest, rfl⟩ := hbegins
    rw [pushedBytes_append] at haddressable
    refine ⟨validate_ofPushes ?_ (by omega), size_ofPushes part⟩
    intro push hmem
    exact hwhole push (List.mem_append_left rest hmem)
  · intro front back _ name hothers
    exact get?_ofPushes_append front back hothers
  · intro front name size back _ hlast
    exact get?_ofPushes front back name size hlast
  · intro hdistinct
    have htiled := tiledBy_ofPushes hdistinct
    exact ⟨htiled, fun byte hinside => htiled.existsUnique_covers hinside⟩

/-- Three pushes, the last one under the name of the first. -/
theorem ofPushes_stays_valid_repeated :
    (∀ push ∈ [("w", 8), ("b", 4), ("w", 16)], Words.elementSize ∣ push.2) ∧
    pushedBytes [("w", 8), ("b", 4), ("w", 16)] < Words.limit ∧
    (ofPushes [("w", 8), ("b", 4), ("w", 16)]).validate = .ok () ∧
    (ofPushes [("w", 8), ("b", 4), ("w", 16)]).fixed.allocations.get? "b" = some ⟨"b", 8, 4⟩ ∧
    (ofPushes [("w", 8), ("b", 4), ("w", 16)]).fixed.allocations.get? "w" = some ⟨"w", 12, 16⟩ ∧
    (ofPushes [("w", 8), ("b", 4)]).fixed.TiledBy ["w", "b"] := by
  have hwhole : ∀ push ∈ [("w", 8), ("b", 4), ("w", 16)], Words.elementSize ∣ push.2 := by decide
  have haddressable : pushedBytes [("w", 8), ("b", 4), ("w", 16)] < Words.limit := by decide
  obtain ⟨hvalid, -, hfound, -⟩ := ofPushes_stays_valid _ hwhole haddressable
  have hbegins : [("w", 8), ("b", 4)] <+: [("w", 8), ("b", 4), ("w", 16)] := ⟨[("w", 16)], rfl⟩
  obtain ⟨-, -, -, htiled⟩ := ofPushes_stays_valid [("w", 8), ("b", 4)]
    (fun push hmem => hwhole push (hbegins.subset hmem)) (by decide)
  refine ⟨hwhole, haddressable, (hvalid _ (List.prefix_refl _)).1, ?_, ?_, (htiled (by decide)).1⟩
  · exact hfound [("w", 8)] "b" 4 [("w", 16)] (List.prefix_refl _) (by decide)
  · exact hfound [("w", 8), ("b", 4)] "w" 16 [] (List.prefix_refl _) (by decide)

end Layout

end TensorBench
