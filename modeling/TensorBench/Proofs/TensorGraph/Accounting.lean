import TensorBench.Proofs.TensorGraph.Slots

/-!
The accounts of a scope. A scope counts the bytes of its occupied slots; a release gives back those
of one slot, and an insertion gives them back before it takes those of the new volume.
-/
namespace TensorBench

variable {α β : Type}

/-! ### Totals over places that may be empty -/

/-- What all places amount to; an empty one amounts to nothing. -/
def totalOf (amount : β → Nat) (places : List (Option β)) : Nat :=
  places.foldr (fun place sum => place.elim 0 amount + sum) 0

theorem totalOf_append (amount : β → Nat) (front back : List (Option β)) :
    totalOf amount (front ++ back) = totalOf amount front + totalOf amount back := by
  induction front with
  | nil => exact (Nat.zero_add _).symm
  | cons place rest ih =>
    change place.elim 0 amount + totalOf amount (rest ++ back) =
      place.elim 0 amount + totalOf amount rest + totalOf amount back
    rw [ih, Nat.add_assoc]

/-- Filling a place anew exchanges what it amounts to. -/
theorem totalOf_set (amount : β → Nat) (places : List (Option β)) (n : Nat) (old new : Option β)
    (h : places[n]? = some old) :
    totalOf amount (places.set n new) + old.elim 0 amount =
      totalOf amount places + new.elim 0 amount := by
  induction places generalizing n with
  | nil => simp at h
  | cons place rest ih =>
    cases n with
    | zero =>
      obtain rfl : place = old := by simpa using h
      change new.elim 0 amount + totalOf amount rest + place.elim 0 amount =
        place.elim 0 amount + totalOf amount rest + new.elim 0 amount
      omega
    | succ n =>
      have hrest := ih n (by simpa using h)
      change place.elim 0 amount + totalOf amount (rest.set n new) + old.elim 0 amount =
        place.elim 0 amount + totalOf amount rest + new.elim 0 amount
      omega

theorem amount_le_totalOf (amount : β → Nat) (places : List (Option β)) (n : Nat) (place : β)
    (h : places[n]? = some (some place)) : amount place ≤ totalOf amount places := by
  have hset := totalOf_set amount places n (some place) none h
  simp only [Option.elim_some, Option.elim_none] at hset
  omega

theorem totalOf_eq_zero (amount : β → Nat) (places : List (Option β))
    (h : ∀ place ∈ places, place = none) : totalOf amount places = 0 := by
  induction places with
  | nil => rfl
  | cons place rest ih =>
    obtain ⟨rfl, hrest⟩ := List.forall_mem_cons.mp h
    exact (Nat.zero_add _).trans (ih hrest)

/-! ### What a scope holds -/

/-- The elements in all slots of a scope. -/
def Scope.elements (scope : Scope α) : Nat :=
  totalOf (fun x : Volume α => x.values.size) scope.slots.toList

/-- The bytes of the volume in a slot. -/
def Scope.bytesAt (scope : Scope α) (id : Nat) : Nat := (scope.held? id).elim 0 Volume.bytes

/-- A scope counts the bytes of the elements it holds. -/
def Scope.Counted (scope : Scope α) : Prop := scope.bytes = Words.elementSize * scope.elements

theorem Scope.counted_ofSlots (slots : Nat) : (ofSlots slots : Scope α).Counted := by
  have hempty : totalOf (fun x : Volume α => x.values.size) (List.replicate slots none) = 0 :=
    totalOf_eq_zero _ _ fun _ hmem => List.eq_of_mem_replicate hmem
  change 0 = 4 * totalOf _ (Array.replicate slots none).toList
  rw [Array.toList_replicate, hempty]

theorem Scope.elements_set (slots : Array (Option (Volume α))) (id before after : Nat)
    (old new : Option (Volume α)) (h : slots[id]? = some old) :
    (Scope.mk (slots.setIfInBounds id new) after).elements + old.elim 0 (·.values.size) =
      (Scope.mk slots before).elements + new.elim 0 (·.values.size) := by
  unfold elements
  rw [Array.toList_setIfInBounds]
  exact totalOf_set _ _ id old new (by rwa [Array.getElem?_toList])

theorem Scope.bytesAt_le {scope : Scope α} (hcounted : scope.Counted) (id : Nat) :
    scope.bytesAt id ≤ scope.bytes := by
  unfold bytesAt
  cases hheld : scope.held? id with
  | none => exact Nat.zero_le _
  | some x =>
    have hslot : scope.slots.toList[id]? = some (some x) := by
      rw [Array.getElem?_toList]
      exact Option.join_eq_some_iff.mp hheld
    have hsize := amount_le_totalOf (fun x : Volume α => x.values.size) _ id x hslot
    rw [hcounted, Nat.mul_comm]
    exact Nat.mul_le_mul_right Words.elementSize hsize

namespace Workspace

/-- The scope counts what it holds, and the tracker counts at least as much. -/
structure Backed (space : Workspace α) : Prop where
  counted : space.scope.Counted
  tracked : space.scope.bytes ≤ space.tracker.live

/-- All that a release does to the counters. -/
theorem release_accounts (space : Workspace α) (id : Nat) (hbacked : space.Backed) :
    (space.release id).scope.Counted ∧
      (space.release id).scope.bytes + space.scope.bytesAt id = space.scope.bytes ∧
      (space.release id).tracker.live + space.scope.bytesAt id = space.tracker.live ∧
      (space.release id).tracker.peak = space.tracker.peak := by
  have hcounted := hbacked.counted
  have htracked := hbacked.tracked
  have hbound := Scope.bytesAt_le hbacked.counted id
  unfold release
  split
  · rename_i x hslot
    have hholds : space.scope.bytesAt id = x.bytes := by
      rw [Scope.bytesAt, Scope.held?, hslot]
      rfl
    let emptied : Scope α :=
      ⟨space.scope.slots.setIfInBounds id none, space.scope.bytes - x.bytes⟩
    have helements : emptied.elements + x.values.size = space.scope.elements + 0 :=
      Scope.elements_set space.scope.slots id _ _ (some x) none hslot
    have hsize : x.bytes = x.values.size * 4 := rfl
    rw [hholds] at hbound ⊢
    refine ⟨?_, Nat.sub_add_cancel hbound, Nat.sub_add_cancel (Nat.le_trans hbound htracked), rfl⟩
    change space.scope.bytes - x.bytes = 4 * emptied.elements
    change space.scope.bytes = 4 * space.scope.elements at hcounted
    omega
  · rename_i hempty
    have hholds : space.scope.bytesAt id = 0 := by
      unfold Scope.bytesAt Scope.held?
      cases hslot : space.scope.slots[id]? with
      | none => rfl
      | some slot =>
        cases slot with
        | none => rfl
        | some x => exact absurd hslot (hempty x)
    rw [hholds]
    exact ⟨hbacked.counted, rfl, rfl, rfl⟩

/-- An insertion fails just outside the slots of the scope. -/
theorem insert_eq_error_iff (space : Workspace α) (id : Nat) (x : Volume α) (failure : Failure) :
    space.insert id x = .error failure ↔
      space.scope.slots.size ≤ id ∧ failure = .notFound s!"tensor slot {id}" := by
  unfold insert
  by_cases hinside : id < space.scope.slots.size
  · rw [if_pos hinside]
    exact ⟨nofun, fun ⟨houtside, _⟩ => absurd hinside (Nat.not_lt.mpr houtside)⟩
  · rw [if_neg hinside, Except.error.injEq]
    exact ⟨fun hsame => ⟨Nat.not_lt.mp hinside, hsame.symm⟩, fun ⟨_, hsame⟩ => hsame.symm⟩

/-- All that an insertion does to the counters: what the slot held is given back first. -/
theorem insert_accounts (space next : Workspace α) (id : Nat) (x : Volume α)
    (hbacked : space.Backed) (hinserted : space.insert id x = .ok next) :
    next.scope.Counted ∧
      next.scope.bytes + space.scope.bytesAt id = space.scope.bytes + x.bytes ∧
      next.tracker.live + space.scope.bytesAt id = space.tracker.live + x.bytes ∧
      next.tracker.peak = max space.tracker.peak next.tracker.live := by
  obtain ⟨hcounted, hbytes, hlive, hpeak⟩ := space.release_accounts id hbacked
  unfold insert at hinserted
  split at hinserted
  · rename_i hinside
    cases hinserted
    let emptied := (space.release id).scope
    let filled : Scope α := ⟨emptied.slots.setIfInBounds id (some x), emptied.bytes + x.bytes⟩
    have hslot : emptied.slots[id]? = some none := by
      have hvacant := space.held?_release id id
      rw [if_pos rfl, Scope.held?] at hvacant
      have hpresent : id < emptied.slots.size := by rwa [size_release]
      rw [Array.getElem?_eq_getElem hpresent] at hvacant ⊢
      exact congrArg some hvacant
    have helements : filled.elements + 0 = emptied.elements + x.values.size :=
      Scope.elements_set emptied.slots id _ _ none (some x) hslot
    have hsize : x.bytes = x.values.size * 4 := rfl
    refine ⟨?_, ?_, ?_, ?_⟩
    · change emptied.bytes + x.bytes = 4 * filled.elements
      change emptied.bytes = 4 * emptied.elements at hcounted
      omega
    · change emptied.bytes + x.bytes + _ = _
      change emptied.bytes + _ = _ at hbytes
      omega
    · change (space.release id).tracker.live + x.bytes + _ = _
      omega
    · change max (space.release id).tracker.peak _ = max space.tracker.peak _
      rw [hpeak]
      rfl
  · cases hinserted

end Workspace

end TensorBench
