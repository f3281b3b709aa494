import TensorBench.Failure

/-!
Computations that may go several ways. A computation relates the world it begins in to the results
and worlds it may end with; one that never ends, or crashes, relates its world to nothing.
-/
namespace TensorBench

def Ways (World β : Type) : Type := World → β → World → Prop

namespace Ways

variable {World β : Type}

instance : Monad (Ways World) where
  pure value := fun before result after => result = value ∧ after = before
  bind first next := fun before result after =>
    ∃ value between, first before value between ∧ next value between result after

instance : Crashing (Ways World) := ⟨fun _ _ _ => False⟩

theorem ext {one other : Ways World β}
    (hsame : ∀ before result after, one before result after ↔ other before result after) :
    one = other :=
  funext fun before => funext fun result => funext fun after =>
    propext (hsame before result after)

instance : LawfulMonad (Ways World) := LawfulMonad.mk' _
  (fun x => ext fun before result after => by
    constructor
    · rintro ⟨value, between, hway, rfl, rfl⟩
      exact hway
    · exact fun hway => ⟨result, after, hway, rfl, rfl⟩)
  (fun value next => ext fun before result after => by
    constructor
    · rintro ⟨_, _, ⟨rfl, rfl⟩, hway⟩
      exact hway
    · exact fun hway => ⟨value, before, ⟨rfl, rfl⟩, hway⟩)
  (fun first next last => ext fun before result after => by
    constructor
    · rintro ⟨value, between, ⟨inner, world, hbegun, hcontinued⟩, hended⟩
      exact ⟨inner, world, hbegun, value, between, hcontinued, hended⟩
    · rintro ⟨inner, world, hbegun, value, between, hcontinued, hended⟩
      exact ⟨value, between, ⟨inner, world, hbegun, hcontinued⟩, hended⟩)

theorem crash_bind {γ : Type} (next : β → Ways World γ) :
    (Crashing.crash >>= next : Ways World γ) = Crashing.crash :=
  ext fun _ _ _ => ⟨fun ⟨_, _, hcrashed, _⟩ => hcrashed, False.elim⟩

end Ways

end TensorBench
