import TensorBench.TensorGraph.Memory

/-!
The slots of a scope as a partial map. Releasing empties one slot, and inserting fills one; all
other slots stay as they are.
-/
namespace TensorBench

variable {α : Type}

/-- What a slot holds. -/
def Scope.held? (scope : Scope α) (id : Nat) : Option (Volume α) := (scope.slots[id]?).join

theorem Scope.get_eq_ok_iff (scope : Scope α) (id : Nat) (x : Volume α) :
    scope.get id = .ok x ↔ scope.held? id = some x := by
  unfold get held?
  cases scope.slots[id]? with
  | none => simp
  | some slot => cases slot <;> simp

/-- The slot holds a value. -/
def Scope.Live (scope : Scope α) (id : Nat) : Prop := ∃ x, scope.get id = .ok x

theorem Scope.live_iff (scope : Scope α) (id : Nat) :
    scope.Live id ↔ ∃ x, scope.held? id = some x := by
  simp only [Live, get_eq_ok_iff]

theorem Scope.not_live_iff (scope : Scope α) (id : Nat) :
    ¬ scope.Live id ↔ scope.held? id = none := by
  rw [live_iff, Option.eq_none_iff_forall_ne_some, not_exists]

theorem Scope.held?_set (slots : Array (Option (Volume α))) (bytes : Nat)
    (slot : Option (Volume α)) (id j : Nat) (h : id < slots.size) :
    (Scope.mk (slots.setIfInBounds id slot) bytes).held? j =
      if j = id then slot else (Scope.mk slots bytes).held? j := by
  unfold held?
  rw [Array.getElem?_setIfInBounds]
  by_cases hj : id = j
  · subst hj
    rw [if_pos rfl, if_pos rfl, if_pos h]
    rfl
  · rw [if_neg hj, if_neg (Ne.symm hj)]

namespace Workspace

@[simp] theorem size_release (space : Workspace α) (id : Nat) :
    (space.release id).scope.slots.size = space.scope.slots.size := by
  unfold release
  split
  · exact Array.size_setIfInBounds
  · rfl

theorem held?_release (space : Workspace α) (id j : Nat) :
    (space.release id).scope.held? j = if j = id then none else space.scope.held? j := by
  unfold release
  split
  · rename_i x hx
    exact Scope.held?_set _ _ none id j (Array.getElem?_eq_some_iff.mp hx).1
  · rename_i hempty
    by_cases hj : j = id
    · subst hj
      rw [if_pos rfl]
      cases hheld : space.scope.held? j with
      | none => rfl
      | some x =>
        unfold Scope.held? at hheld
        rw [Option.join_eq_some_iff] at hheld
        exact absurd hheld (hempty x)
    · rw [if_neg hj]

/-- A slot of the scope can be filled whatever it holds. -/
theorem insert_eq_ok (space : Workspace α) (id : Nat) (x : Volume α)
    (h : id < space.scope.slots.size) :
    ∃ next, space.insert id x = .ok next ∧
      next.scope.slots.size = space.scope.slots.size ∧
      ∀ j, next.scope.held? j = if j = id then some x else space.scope.held? j := by
  unfold insert
  rw [if_pos h]
  refine ⟨_, rfl, ?_, fun j => ?_⟩
  · exact Array.size_setIfInBounds.trans (space.size_release id)
  · have hset := Scope.held?_set (space.release id).scope.slots
      ((space.release id).scope.bytes + x.bytes) (some x) id j (by rwa [size_release])
    have hreleased := space.held?_release id j
    refine hset.trans ?_
    by_cases hj : j = id
    · rw [if_pos hj, if_pos hj]
    · rw [if_neg hj] at hreleased ⊢
      rw [if_neg hj]
      exact hreleased

end Workspace

end TensorBench
