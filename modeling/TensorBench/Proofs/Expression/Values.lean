import TensorBench.Proofs.Expression.Literals
import TensorBench.Proofs.NameTable

/-!
The value of an expression in unbounded integers, and why an evaluation in words is refused. An
evaluation succeeds exactly if none of the sub-expressions is a reason to refuse it, and the value is
then the exact one. Otherwise the failure is that of the first sub-expression that is such a reason,
where operands come before their operation and left operands before right ones.
-/
namespace TensorBench

/-- The exact result of an operation. Quotients round to the floor, and nothing is divided by
zero. -/
def BinaryOp.value? : BinaryOp → Int → Int → Option Int
  | add, a, b => some (a + b)
  | sub, a, b => some (a - b)
  | mul, a, b => some (a * b)
  | div, a, b => if b = 0 then none else some (a.fdiv b)
  | rem, a, b => if b = 0 then none else some (a.fmod b)

namespace Expr

open Words

/-- The exact value of an expression, if its names are bound and no divisor is zero. -/
def value? (bindings : Bindings) : Expr → Option Int
  | int value => some value
  | name text => bindings.get? text
  | neg operand => (operand.value? bindings).map (- ·)
  | binary op left right =>
      (left.value? bindings).bind fun a => (right.value? bindings).bind (op.value? a)

/-- All sub-expressions, operands in front of their operation and left in front of right; the
expression itself is the last one. -/
def parts : Expr → List Expr
  | int value => [int value]
  | name text => [name text]
  | neg operand => operand.parts ++ [neg operand]
  | binary op left right => left.parts ++ right.parts ++ [binary op left right]

/-- What has to hold of an expression for its evaluation to succeed. -/
structure Evaluable (bindings : Bindings) (expr : Expr) : Prop where
  names_bound : ∀ name ∈ expr.names, ∃ value, bindings.get? name = some value
  divisors_nonzero : ∀ op left right, binary op left right ∈ expr.parts →
    op = .div ∨ op = .rem → right.value? bindings ≠ some 0
  values_fit : ∀ part ∈ expr.parts, ∀ value, part.value? bindings = some value → IsSigned value
  no_least_remainder : ∀ left right, binary .rem left right ∈ expr.parts →
    ¬ (left.value? bindings = some minSigned ∧ right.value? bindings = some (-1))

/-- The failure for which a sub-expression is a reason by itself. -/
inductive Refuses (bindings : Bindings) (source : String) : Expr → Failure → Prop
  | unbound {text : String} (h : bindings.get? text = none) :
      Refuses bindings source (name text)
        (.unresolvedPlaceholder s!"'{text}' is not bound (in '{source}')")
  | zeroDivisor {op : BinaryOp} {left right : Expr} (hop : op = .div ∨ op = .rem)
      (h : right.value? bindings = some 0) :
      Refuses bindings source (binary op left right) (.invalidExpression source "division by zero")
  | outOfRange {expr : Expr} {value : Int} (h : expr.value? bindings = some value)
      (hvalue : ¬ IsSigned value) :
      Refuses bindings source expr (.invalidExpression source "arithmetic overflow")
  | leastRemainder {left right : Expr} (hleft : left.value? bindings = some minSigned)
      (hright : right.value? bindings = some (-1)) :
      Refuses bindings source (binary .rem left right)
        (.invalidExpression source "arithmetic overflow")

/-- The failure of the first of the expressions that is a reason for one. -/
inductive FirstRefusal (bindings : Bindings) (source : String) : List Expr → Failure → Prop
  | here {part : Expr} {rest : List Expr} {failure : Failure}
      (h : Refuses bindings source part failure) :
      FirstRefusal bindings source (part :: rest) failure
  | later {part : Expr} {rest : List Expr} {failure : Failure}
      (hclear : ∀ other, ¬ Refuses bindings source part other)
      (h : FirstRefusal bindings source rest failure) :
      FirstRefusal bindings source (part :: rest) failure

/-- No reason to refuse an evaluation among the expressions. -/
def Clear (bindings : Bindings) (source : String) (parts : List Expr) : Prop :=
  ∀ part ∈ parts, ∀ failure, ¬ Refuses bindings source part failure

/-! ### One operation -/

/-- All that an operation on words can do. -/
inductive Applied (op : BinaryOp) (a b : Int) : Except EvalFault Int → Prop
  | value {value : Int} (hvalue : op.value? a b = some value) (hsigned : IsSigned value)
      (hleast : ¬ (op = .rem ∧ a = minSigned ∧ b = -1)) : Applied op a b (.ok value)
  | zeroDivisor (hop : op = .div ∨ op = .rem) (hb : b = 0) : Applied op a b (.error .divisionByZero)
  | outOfRange {value : Int} (hvalue : op.value? a b = some value) (hsigned : ¬ IsSigned value) :
      Applied op a b (.error .overflow)
  | leastRemainder (hop : op = .rem) (ha : a = minSigned) (hb : b = -1) :
      Applied op a b (.error .overflow)

theorem applied_checked {op : BinaryOp} {a b value : Int} (hop : op ≠ .rem)
    (hvalue : op.value? a b = some value) : Applied op a b (checked value) := by
  by_cases hsigned : IsSigned value
  · rw [checked_eq_ok hsigned]
    exact .value hvalue hsigned fun h => hop h.1
  · rw [checked_eq_error hsigned]
    exact .outOfRange hvalue hsigned

theorem applied_apply (op : BinaryOp) (a b : Int) (ha : IsSigned a) (hb : IsSigned b) :
    Applied op a b (apply op a b) := by
  cases op with
  | add => exact applied_checked (by decide) rfl
  | sub => exact applied_checked (by decide) rfl
  | mul => exact applied_checked (by decide) rfl
  | div =>
    by_cases hzero : b = 0
    · simp only [apply, if_pos hzero]
      exact .zeroDivisor (.inl rfl) hzero
    · have hvalue : BinaryOp.div.value? a b = some (a.fdiv b) := if_neg hzero
      simp only [apply, if_neg hzero]
      -- the truncated quotient that is checked and the floor leave the words together
      by_cases hsigned : IsSigned (a.tdiv b)
      · rw [checked_eq_ok hsigned, floorQuotient_eq_fdiv a b hzero]
        refine .value hvalue ?_ fun h => nomatch h.1
        rwa [isSigned_fdiv_iff a b ha hzero, ← isSigned_tdiv_iff a b ha hzero]
      · rw [checked_eq_error hsigned]
        refine .outOfRange hvalue ?_
        rwa [isSigned_fdiv_iff a b ha hzero, ← isSigned_tdiv_iff a b ha hzero]
  | rem =>
    by_cases hzero : b = 0
    · simp only [apply, if_pos hzero]
      exact .zeroDivisor (.inr rfl) hzero
    · have hvalue : BinaryOp.rem.value? a b = some (a.fmod b) := if_neg hzero
      have hquotient := isSigned_tdiv_iff a b ha hzero
      simp only [apply, if_neg hzero]
      by_cases hsigned : IsSigned (a.tdiv b)
      · rw [checked_eq_ok hsigned, floorRemainder_eq_fmod a b hzero]
        exact .value hvalue (isSigned_fmod a b hb hzero) fun h => hquotient.mp hsigned h.2
      · rw [checked_eq_error hsigned]
        obtain ⟨hleft, hright⟩ := not_not.mp (mt hquotient.mpr hsigned)
        exact .leastRemainder rfl hleft hright

theorem value?_zero {op : BinaryOp} (hop : op = .div ∨ op = .rem) (a : Int) :
    op.value? a 0 = none := by
  rcases hop with rfl | rfl <;> rfl

/-- Quotient and remainder make up the dividend, the remainder is smaller than the divisor and has
its sign. -/
theorem division_law {a b quotient remainder : Int}
    (hquotient : BinaryOp.div.value? a b = some quotient)
    (hremainder : BinaryOp.rem.value? a b = some remainder) :
    a = b * quotient + remainder ∧ (remainder = 0 ∨ remainder.sign = b.sign) ∧
      remainder.natAbs < b.natAbs := by
  by_cases hzero : b = 0
  · simp [BinaryOp.value?, hzero] at hquotient
  · obtain rfl : a.fdiv b = quotient := by simpa [BinaryOp.value?, hzero] using hquotient
    obtain rfl : a.fmod b = remainder := by simpa [BinaryOp.value?, hzero] using hremainder
    have hbetween := fmod_between a b hzero
    refine ⟨(Int.mul_fdiv_add_fmod a b).symm, or_iff_not_imp_left.mpr fun hsome => ?_, by omega⟩
    rcases hbetween with ⟨_, hlt⟩ | ⟨hlt, _⟩
    · have hpos : 0 < a.fmod b := by omega
      rw [Int.sign_eq_one_of_pos hpos, Int.sign_eq_one_of_pos (Int.lt_trans hpos hlt)]
    · have hneg : a.fmod b < 0 := by omega
      rw [Int.sign_eq_neg_one_of_neg hneg, Int.sign_eq_neg_one_of_neg (Int.lt_trans hlt hneg)]

/-! ### Reasons to refuse -/

section

variable {bindings : Bindings} {source : String}

theorem value?_binary {op : BinaryOp} {left right : Expr} {a b : Int}
    (hleft : left.value? bindings = some a) (hright : right.value? bindings = some b) :
    (binary op left right).value? bindings = op.value? a b := by
  simp [value?, hleft, hright]

/-- A division by zero has no value. -/
theorem value?_zeroDivisor {op : BinaryOp} (hop : op = .div ∨ op = .rem) {left right : Expr}
    (hright : right.value? bindings = some 0) :
    (binary op left right).value? bindings = none := by
  cases hleft : left.value? bindings with
  | none => simp [value?, hleft]
  | some a => rw [value?_binary hleft hright, value?_zero hop]

/-- A sub-expression is a reason for one failure only. -/
theorem Refuses.unique {part : Expr} {first second : Failure}
    (hfirst : Refuses bindings source part first) (hsecond : Refuses bindings source part second) :
    first = second := by
  cases hfirst with
  | unbound hnone =>
    cases hsecond with
    | unbound => rfl
    | outOfRange hvalue =>
      rw [value?, hnone] at hvalue
      cases hvalue
  | zeroDivisor hop hzero =>
    cases hsecond with
    | zeroDivisor => rfl
    | outOfRange hvalue =>
      rw [value?_zeroDivisor hop hzero] at hvalue
      cases hvalue
    | leastRemainder hleft hright =>
      rw [hzero] at hright
      cases hright
  | outOfRange hvalue =>
    cases hsecond with
    | unbound hnone =>
      rw [value?, hnone] at hvalue
      cases hvalue
    | zeroDivisor hop hzero =>
      rw [value?_zeroDivisor hop hzero] at hvalue
      cases hvalue
    | outOfRange => rfl
    | leastRemainder => rfl
  | leastRemainder hleft hright =>
    cases hsecond with
    | zeroDivisor _ hzero =>
      rw [hzero] at hright
      cases hright
    | outOfRange => rfl
    | leastRemainder => rfl

theorem FirstRefusal.unique {parts : List Expr} {first second : Failure}
    (hfirst : FirstRefusal bindings source parts first)
    (hsecond : FirstRefusal bindings source parts second) : first = second := by
  induction hfirst with
  | here h =>
    cases hsecond with
    | here hother => exact h.unique hother
    | later hclear => exact absurd h (hclear _)
  | later hclear _ ih =>
    cases hsecond with
    | here hother => exact absurd hother (hclear _)
    | later _ hrest => exact ih hrest

theorem FirstRefusal.not_clear {parts : List Expr} {failure : Failure}
    (h : FirstRefusal bindings source parts failure) : ¬ Clear bindings source parts := by
  intro hclear
  induction h with
  | here hpart => exact hclear _ List.mem_cons_self _ hpart
  | later _ _ ih => exact ih fun part hpart => hclear part (List.mem_cons_of_mem _ hpart)

theorem FirstRefusal.append_right {parts : List Expr} {failure : Failure}
    (h : FirstRefusal bindings source parts failure) (more : List Expr) :
    FirstRefusal bindings source (parts ++ more) failure := by
  induction h with
  | here hpart => exact .here hpart
  | later hclear _ ih => exact .later hclear ih

theorem Clear.append {front back : List Expr} (hfront : Clear bindings source front)
    (hback : Clear bindings source back) : Clear bindings source (front ++ back) :=
  List.forall_mem_append.mpr ⟨hfront, hback⟩

theorem clear_singleton {part : Expr} (h : ∀ failure, ¬ Refuses bindings source part failure) :
    Clear bindings source [part] := by
  simpa [Clear] using h

/-- Behind expressions without a reason, the first reason is that of what follows. -/
theorem Clear.refuse {front back : List Expr} {failure : Failure}
    (hfront : Clear bindings source front) (hback : FirstRefusal bindings source back failure) :
    FirstRefusal bindings source (front ++ back) failure := by
  induction front with
  | nil => exact hback
  | cons part front ih =>
    obtain ⟨hpart, hfront⟩ := List.forall_mem_cons.mp hfront
    exact .later hpart (ih hfront)

theorem name_mem_parts {expr : Expr} {text : String} : name text ∈ expr.parts ↔ text ∈ expr.names := by
  induction expr with
  | int => simp [parts, names]
  | name => simp [parts, names]
  | neg operand ih => simp [parts, names, ih]
  | binary op left right ihleft ihright => simp [parts, names, ihleft, ihright]

theorem clear_parts_iff (source : String) {expr : Expr} :
    Clear bindings source expr.parts ↔ expr.Evaluable bindings := by
  constructor
  · intro h
    refine ⟨fun text htext => ?_, fun op left right hpart hop hzero => ?_,
      fun part hpart value hvalue => ?_, fun left right hpart hleast => ?_⟩
    · by_contra hnone
      rw [← Option.isSome_iff_exists, Option.not_isSome_iff_eq_none] at hnone
      exact h _ (name_mem_parts.mpr htext) _ (.unbound hnone)
    · exact h _ hpart _ (.zeroDivisor hop hzero)
    · by_contra hsigned
      exact h _ hpart _ (.outOfRange hvalue hsigned)
    · exact h _ hpart _ (.leastRemainder hleast.1 hleast.2)
  · intro h part hpart failure hrefuses
    cases hrefuses with
    | unbound hnone =>
      obtain ⟨value, hvalue⟩ := h.names_bound _ (name_mem_parts.mp hpart)
      rw [hnone] at hvalue
      cases hvalue
    | zeroDivisor hop hzero => exact h.divisors_nonzero _ _ _ hpart hop hzero
    | outOfRange hvalue hsigned => exact hsigned (h.values_fit _ hpart _ hvalue)
    | leastRemainder hleft hright => exact h.no_least_remainder _ _ hpart ⟨hleft, hright⟩

/-! ### Evaluation -/

/-- How an evaluation ends: with the exact value if there is no reason to refuse, and with the failure
of the first reason otherwise. -/
inductive Evaluated (bindings : Bindings) (source : String) (expr : Expr) :
    Except EvalFault Int → Prop
  | value {value : Int} (hclear : Clear bindings source expr.parts)
      (hvalue : expr.value? bindings = some value) (hsigned : IsSigned value) :
      Evaluated bindings source expr (.ok value)
  | refused {fault : EvalFault}
      (h : FirstRefusal bindings source expr.parts (Placeholder.failureOf source fault)) :
      Evaluated bindings source expr (.error fault)

theorem evaluated_name (hbindings : ∀ name value, bindings.get? name = some value → IsSigned value)
    (text : String) : Evaluated bindings source (name text) ((name text).eval bindings) := by
  cases hbound : bindings.get? text with
  | none =>
    simp only [eval, hbound]
    exact .refused (.here (.unbound hbound))
  | some value =>
    simp only [eval, hbound]
    have hsigned := hbindings text value hbound
    refine .value (clear_singleton fun failure h => ?_) hbound hsigned
    cases h with
    | unbound hnone => simp [hnone] at hbound
    | outOfRange hvalue hother =>
      obtain rfl : value = _ := Option.some.inj (hbound.symm.trans hvalue)
      exact hother hsigned

theorem evaluated_neg {operand : Expr} {value : Int}
    (hclear : Clear bindings source operand.parts)
    (hvalue : operand.value? bindings = some value) :
    Evaluated bindings source (neg operand) (checked (-value)) := by
  have hneg : (neg operand).value? bindings = some (-value) := by simp [value?, hvalue]
  by_cases hsigned : IsSigned (-value)
  · rw [checked_eq_ok hsigned]
    refine .value (hclear.append (clear_singleton fun failure h => ?_)) hneg hsigned
    cases h with
    | outOfRange hother hunsigned =>
      obtain rfl := Option.some.inj (hneg.symm.trans hother)
      exact hunsigned hsigned
  · rw [checked_eq_error hsigned]
    exact .refused (hclear.refuse (.here (.outOfRange hneg hsigned)))

/-- The operation is the only reason left when both operands have values. -/
theorem evaluated_binary {op : BinaryOp} {left right : Expr} {a b : Int}
    (hclear : Clear bindings source (left.parts ++ right.parts))
    (hleft : left.value? bindings = some a) (hright : right.value? bindings = some b)
    (ha : IsSigned a) (hb : IsSigned b) :
    Evaluated bindings source (binary op left right) (apply op a b) := by
  have hvalue : (binary op left right).value? bindings = op.value? a b :=
    value?_binary hleft hright
  have happlied := applied_apply op a b ha hb
  generalize apply op a b = result at happlied ⊢
  cases happlied with
  | value hresult hsigned hleast =>
    refine .value (hclear.append (clear_singleton fun failure h => ?_)) (hvalue.trans hresult) hsigned
    cases h with
    | zeroDivisor hop hzero =>
      rw [value?_zeroDivisor hop hzero, hresult] at hvalue
      cases hvalue
    | outOfRange hother hunsigned =>
      rw [hvalue, hresult] at hother
      obtain rfl := Option.some.inj hother
      exact hunsigned hsigned
    | leastRemainder hleastLeft hleastRight =>
      rw [hleft] at hleastLeft
      rw [hright] at hleastRight
      exact hleast ⟨rfl, Option.some.inj hleastLeft, Option.some.inj hleastRight⟩
  | zeroDivisor hop hzero =>
    exact .refused (hclear.refuse (.here (.zeroDivisor hop (hzero ▸ hright))))
  | outOfRange hresult hsigned =>
    exact .refused (hclear.refuse (.here (.outOfRange (hvalue.trans hresult) hsigned)))
  | leastRemainder hop hleastLeft hleastRight =>
    subst hop
    exact .refused (hclear.refuse (.here (.leastRemainder (hleastLeft ▸ hleft) (hleastRight ▸ hright))))

theorem evaluated_eval (source : String) {expr : Expr} (hwords : expr.OfWords)
    (hbindings : ∀ name value, bindings.get? name = some value → IsSigned value) :
    Evaluated bindings source expr (expr.eval bindings) := by
  induction expr with
  | int value =>
    refine .value (clear_singleton fun failure h => ?_) rfl hwords
    cases h with
    | outOfRange hvalue hsigned =>
      obtain rfl := Option.some.inj hvalue
      exact hsigned hwords
  | name text => exact evaluated_name hbindings text
  | neg operand ih =>
    rw [eval]
    cases hoperand : operand.eval bindings with
    | error fault =>
      cases hoperand ▸ ih hwords with
      | refused h => exact .refused (h.append_right _)
    | ok value =>
      cases hoperand ▸ ih hwords with
      | value hclear hvalue _ => exact evaluated_neg hclear hvalue
  | binary op left right ihleft ihright =>
    rw [eval]
    cases hleft : left.eval bindings with
    | error fault =>
      cases hleft ▸ ihleft hwords.1 with
      | refused h => exact .refused ((h.append_right _).append_right _)
    | ok a =>
      cases hleft ▸ ihleft hwords.1 with
      | value hclear ha hsigned =>
        cases hright : right.eval bindings with
        | error fault =>
          cases hright ▸ ihright hwords.2 with
          | refused h => exact .refused ((hclear.refuse h).append_right _)
        | ok b =>
          cases hright ▸ ihright hwords.2 with
          | value hclearRight hb hsignedRight =>
            exact evaluated_binary (hclear.append hclearRight) ha hb hsigned hsignedRight

end

end Expr

namespace Placeholder

open Words TensorBench.Expr

/-- Evaluation of an expression over words succeeds exactly if all names are bound, no divisor is zero,
every exact intermediate value is a word and the least word has no remainder by minus one. The value is
then the exact one, with quotients and remainders of floor division. Otherwise the failure is that of
the first sub-expression with a reason for one. -/
theorem eval_exact_or_first_refusal (placeholder : Placeholder) (bindings : Bindings)
    (hwords : placeholder.expr.OfWords)
    (hbindings : ∀ name value, bindings.get? name = some value → IsSigned value) :
    ((∃ value, placeholder.eval bindings = .ok value) ↔ placeholder.expr.Evaluable bindings) ∧
    (∀ value, placeholder.eval bindings = .ok value →
      placeholder.expr.value? bindings = some value) ∧
    (∀ failure, placeholder.eval bindings = .error failure ↔
      FirstRefusal bindings placeholder.source placeholder.expr.parts failure) ∧
    ∀ a b quotient remainder, BinaryOp.div.value? a b = some quotient →
      BinaryOp.rem.value? a b = some remainder →
      a = b * quotient + remainder ∧ (remainder = 0 ∨ remainder.sign = b.sign) ∧
        remainder.natAbs < b.natAbs := by
  refine ⟨?_, ?_, ?_, fun a b quotient remainder => division_law⟩
  all_goals
    have hevaluated := evaluated_eval placeholder.source hwords hbindings
    unfold eval
    generalize placeholder.expr.eval bindings = result at hevaluated ⊢
  · rw [← clear_parts_iff placeholder.source]
    cases hevaluated with
    | value hclear => simp [hclear]
    | refused h => simp [h.not_clear]
  · cases hevaluated with
    | value _ hvalue =>
      rintro other ⟨⟩
      exact hvalue
    | refused => exact fun _ h => nomatch h
  · intro failure
    cases hevaluated with
    | value hclear => exact ⟨fun h => (nomatch h), fun h => absurd hclear h.not_clear⟩
    | refused h =>
      refine ⟨?_, fun hother => congrArg Except.error (h.unique hother)⟩
      rintro ⟨⟩
      exact h

def mixedSigns : Placeholder :=
  ⟨"-7 / n + n % -3", .binary .add (.binary .div (.neg (.int 7)) (.name "n"))
    (.binary .rem (.name "n") (.neg (.int 3)))⟩

theorem eval_exact_or_first_refusal_mixedSigns :
    mixedSigns.expr.Evaluable (.ofList [("n", 2)]) ∧
      mixedSigns.expr.value? (.ofList [("n", 2)]) = some (-5) := by
  have hwords : mixedSigns.expr.OfWords := by decide
  have hbindings (name : String) (value : Int)
      (h : (NameTable.ofList [("n", (2 : Int))]).get? name = some value) : IsSigned value := by
    rw [NameTable.ofList, List.foldl_cons, List.foldl_nil, NameTable.get?_insert] at h
    split at h
    · cases h
      decide
    · cases h
  have heval : mixedSigns.eval (.ofList [("n", 2)]) = .ok (-5) := rfl
  obtain ⟨hevaluable, hexact, _⟩ := eval_exact_or_first_refusal mixedSigns _ hwords hbindings
  exact ⟨hevaluable.mp ⟨_, heval⟩, hexact _ heval⟩

end Placeholder

end TensorBench
