import TensorBench.Placeholder
import TensorBench.Proofs.Expression.FloorDivision
import TensorBench.Proofs.NameTable

/-!
The names of an expression. Evaluation looks up every name that occurs, in operands that do not
matter for the value too, and no other. So it cannot tell bindings apart that agree on those names, it
fails as soon as one of them is unbound, and only an unbound name makes it fail for that reason.
-/
namespace TensorBench

namespace Expr

variable {bindings other : Bindings}

/-- Bindings that agree on the names of an expression give it the same value or the same fault. -/
theorem eval_congr (expr : Expr)
    (hagree : ∀ name ∈ expr.names, bindings.get? name = other.get? name) :
    expr.eval bindings = expr.eval other := by
  induction expr with
  | int value => rfl
  | name text =>
    have hsame := hagree text (List.mem_singleton_self text)
    rw [eval, eval, hsame]
  | neg operand ih =>
    have hsame := ih hagree
    rw [eval, eval, hsame]
  | binary op left right ihleft ihright =>
    have hsameLeft := ihleft fun name hmem => hagree name (List.mem_append_left _ hmem)
    have hsameRight := ihright fun name hmem => hagree name (List.mem_append_right _ hmem)
    rw [eval, eval, hsameLeft, hsameRight]

/-- Both operands are evaluated, whatever the value of the first one. -/
theorem operands_of_eval_binary {op : BinaryOp} {left right : Expr} {value : Int}
    (hevaluated : (binary op left right).eval bindings = .ok value) :
    ∃ a b, left.eval bindings = .ok a ∧ right.eval bindings = .ok b ∧ apply op a b = .ok value := by
  rw [eval] at hevaluated
  cases hleft : left.eval bindings with
  | error fault => simp [hleft] at hevaluated
  | ok a =>
    cases hright : right.eval bindings with
    | error fault => simp [hleft, hright] at hevaluated
    | ok b => exact ⟨a, b, rfl, rfl, by simpa [hleft, hright] using hevaluated⟩

/-- An expression that has a value has all of its names bound. -/
theorem bound_of_eval {expr : Expr} {value : Int} (hevaluated : expr.eval bindings = .ok value) :
    ∀ name ∈ expr.names, ∃ bound, bindings.get? name = some bound := by
  induction expr generalizing value with
  | int => nofun
  | name text =>
    intro name hmem
    obtain rfl := List.mem_singleton.mp hmem
    cases hfound : bindings.get? name with
    | some bound => exact ⟨bound, rfl⟩
    | none => simp [eval, hfound] at hevaluated
  | neg operand ih =>
    rw [eval] at hevaluated
    cases hoperand : operand.eval bindings with
    | error fault => simp [hoperand] at hevaluated
    | ok a => exact ih hoperand
  | binary op left right ihleft ihright =>
    obtain ⟨a, b, hleft, hright, -⟩ := operands_of_eval_binary hevaluated
    intro name hmem
    rcases List.mem_append.mp hmem with hmem | hmem
    · exact ihleft hleft name hmem
    · exact ihright hright name hmem

theorem checked_cases (value : Int) :
    checked value = .ok value ∨ checked value = .error .overflow := by
  by_cases hfits : Words.IsSigned value
  · exact Or.inl (checked_eq_ok hfits)
  · exact Or.inr (checked_eq_error hfits)

theorem checked_ne_unbound (value : Int) (text : String) :
    checked value ≠ .error (.unbound text) := by
  rcases checked_cases value with hfits | hoverflow
  · simp [hfits]
  · simp [hoverflow]

/-- Operations on words look nothing up. -/
theorem apply_ne_unbound (op : BinaryOp) (a b : Int) (text : String) :
    apply op a b ≠ .error (.unbound text) := by
  have hquotient := checked_cases (a.tdiv b)
  cases op with
  | add => exact checked_ne_unbound _ text
  | sub => exact checked_ne_unbound _ text
  | mul => exact checked_ne_unbound _ text
  | div =>
    by_cases hzero : b = 0
    · simp [apply, hzero]
    · rcases hquotient with hfits | hoverflow
      · simp [apply, hzero, hfits]
      · simp [apply, hzero, hoverflow]
  | rem =>
    by_cases hzero : b = 0
    · simp [apply, hzero]
    · rcases hquotient with hfits | hoverflow
      · simp [apply, hzero, hfits]
      · simp [apply, hzero, hoverflow]

/-- The name that an evaluation reports as unbound is one of the expression and is not bound. -/
theorem unbound_of_eval {expr : Expr} {text : String}
    (hfailed : expr.eval bindings = .error (.unbound text)) :
    text ∈ expr.names ∧ bindings.get? text = none := by
  induction expr with
  | int => cases hfailed
  | name other =>
    cases hfound : bindings.get? other with
    | some bound => simp [eval, hfound] at hfailed
    | none =>
      obtain rfl : other = text := by simpa [eval, hfound] using hfailed
      exact ⟨List.mem_singleton_self _, hfound⟩
  | neg operand ih =>
    rw [eval] at hfailed
    cases hoperand : operand.eval bindings with
    | error fault =>
      obtain rfl : fault = .unbound text := by simpa [hoperand] using hfailed
      exact ih hoperand
    | ok a =>
      rw [hoperand] at hfailed
      exact absurd hfailed (checked_ne_unbound _ _)
  | binary op left right ihleft ihright =>
    rw [eval] at hfailed
    cases hleft : left.eval bindings with
    | error fault =>
      obtain rfl : fault = .unbound text := by simpa [hleft] using hfailed
      obtain ⟨hmem, hmissing⟩ := ihleft hleft
      exact ⟨List.mem_append_left _ hmem, hmissing⟩
    | ok a =>
      cases hright : right.eval bindings with
      | error fault =>
        obtain rfl : fault = .unbound text := by simpa [hleft, hright] using hfailed
        obtain ⟨hmem, hmissing⟩ := ihright hright
        exact ⟨List.mem_append_right _ hmem, hmissing⟩
      | ok b =>
        simp only [hleft, hright] at hfailed
        exact absurd hfailed (apply_ne_unbound op a b text)

end Expr

namespace Placeholder

variable {bindings other : Bindings}

theorem mem_names_iff (placeholder : Placeholder) (name : String) :
    name ∈ placeholder.names ↔ name ∈ placeholder.expr.names := by
  rw [names, NameTable.mem_names_ofList_iff]
  simp

theorem eval_congr (placeholder : Placeholder)
    (hagree : ∀ name ∈ placeholder.names, bindings.get? name = other.get? name) :
    placeholder.eval bindings = placeholder.eval other := by
  have hsame : placeholder.expr.eval bindings = placeholder.expr.eval other :=
    placeholder.expr.eval_congr fun name hmem => hagree name ((mem_names_iff _ _).mpr hmem)
  rw [eval, eval, hsame]

theorem bound_of_eval {placeholder : Placeholder} {value : Int}
    (hevaluated : placeholder.eval bindings = .ok value) :
    ∀ name ∈ placeholder.names, ∃ bound, bindings.get? name = some bound := by
  intro name hmem
  rw [eval] at hevaluated
  cases hexpr : placeholder.expr.eval bindings with
  | error fault => simp [hexpr] at hevaluated
  | ok result => exact Expr.bound_of_eval hexpr name ((mem_names_iff _ _).mp hmem)

/-- A placeholder is unresolved only for a name of its own that is not bound. -/
theorem unbound_of_eval {placeholder : Placeholder} {detail : String}
    (hfailed : placeholder.eval bindings = .error (.unresolvedPlaceholder detail)) :
    ∃ name ∈ placeholder.names, bindings.get? name = none := by
  rw [eval] at hfailed
  cases hexpr : placeholder.expr.eval bindings with
  | ok value => simp [hexpr] at hfailed
  | error fault =>
    cases fault with
    | unbound name =>
      obtain ⟨hmem, hmissing⟩ := Expr.unbound_of_eval hexpr
      exact ⟨name, (mem_names_iff _ _).mpr hmem, hmissing⟩
    | overflow => simp [hexpr, failureOf] at hfailed
    | divisionByZero => simp [hexpr, failureOf] at hfailed

end Placeholder

end TensorBench
