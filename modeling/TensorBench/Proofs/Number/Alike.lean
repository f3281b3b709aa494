import TensorBench.Number.Binary32

/-!
Identifying single precision numbers. Sums can start from either zero, and a result that is not a
number carries no meaning in its payload, so results are compared up to the sign of zero and up to
the pattern of what is not a number. Arithmetic does not see the difference: it works on unpacked
values, which have a single value that is not a number, and the sign of zero is lost in all
combinations that tensor code makes.
-/
namespace TensorBench

/-- Operations on elements that do not tell apart what an equivalence identifies. -/
structure Scalar.Respects {α : Type} [Scalar α] (same : α → α → Prop) : Prop where
  equivalence : Equivalence same
  zeros : same Scalar.negZero Scalar.zero
  add : ∀ {a a' b b' : α}, same a a' → same b b' → same (Scalar.add a b) (Scalar.add a' b')
  mul : ∀ {a a' b b' : α}, same a a' → same b b' → same (Scalar.mul a b) (Scalar.mul a' b')
  relu : ∀ {a a' : α}, same a a' → same (Scalar.relu a) (Scalar.relu a')
  sigmoid : ∀ {a a' : α}, same a a' → same (Scalar.sigmoid a) (Scalar.sigmoid a')
  tanh : ∀ {a a' : α}, same a a' → same (Scalar.tanh a) (Scalar.tanh a')

namespace Binary32

open Float.Model (UnpackedFloat)
open Float.Model.UnpackedFloat (Sign)

def IsZero (x : Binary32) : Prop := x = ⟨0⟩ ∨ x = ⟨0x80000000⟩

/-- Both zeros are identified, and so are all patterns that are not numbers. -/
def Alike (a b : Binary32) : Prop :=
  a = b ∨ (a.isNaN = true ∧ b.isNaN = true) ∨ (a.IsZero ∧ b.IsZero)

/-! ### Unpacked values -/

/-- Values that differ in the sign of zero at most. -/
def Near (u v : UnpackedFloat) : Prop := u = v ∨ ∃ s t, u = .zero s ∧ v = .zero t

/-- The value that arithmetic works on. -/
def value (x : Binary32) : UnpackedFloat := x.toNative.toModel.unpack

def pack (u : UnpackedFloat) : Binary32 := ⟨(Float32.Model.pack u).toBits⟩

theorem add_eq (a b : Binary32) : add a b = pack (UnpackedFloat.add .binary32 a.value b.value) :=
  rfl

theorem mul_eq (a b : Binary32) : mul a b = pack (UnpackedFloat.mul .binary32 a.value b.value) :=
  rfl

theorem value_of_isZero (x : Binary32) (h : x.IsZero) : ∃ s, x.value = .zero s := by
  rcases h with rfl | rfl
  · exact ⟨.positive, rfl⟩
  · exact ⟨.negative, rfl⟩

theorem isNaN_iff (x : Binary32) :
    x.isNaN = true ↔ 2139095040 < x.bits.toNat % 2147483648 := by
  have hmask : x.bits.toNat &&& 2147483647 = x.bits.toNat % 2147483648 :=
    Nat.and_two_pow_sub_one_eq_mod x.bits.toNat 31
  rw [isNaN, decide_eq_true_iff, GT.gt, UInt32.lt_iff_toNat_lt, UInt32.toNat_and, ← hmask]
  rfl

theorem unpack_of_isNaN (x : Binary32) (h : x.isNaN = true) :
    UnpackedFloat.unpack .binary32 x.bits.toBitVec = .notANumber := by
  rw [isNaN_iff] at h
  have hexponent : @UnpackedFloat.unpackExponent .binary32 x.bits.toBitVec = -1#_ := by
    apply BitVec.eq_of_toNat_eq
    simp [UnpackedFloat.unpackExponent, Nat.shiftRight_eq_div_pow]
    omega
  have hmantissa : @UnpackedFloat.unpackMantissa .binary32 x.bits.toBitVec ≠ 0#_ := by
    intro hzero
    have hlow := congrArg BitVec.toNat hzero
    simp [UnpackedFloat.unpackMantissa] at hlow
    omega
  change (if @UnpackedFloat.unpackExponent .binary32 x.bits.toBitVec = -1#_ then
    if @UnpackedFloat.unpackMantissa .binary32 x.bits.toBitVec = 0#_ then UnpackedFloat.infinity _
    else UnpackedFloat.notANumber else _) = _
  rw [if_pos hexponent, if_neg hmantissa]

theorem value_of_isNaN (x : Binary32) (h : x.isNaN = true) : x.value = .notANumber := by
  change UnpackedFloat.unpack .binary32 (UnpackedFloat.pack .binary32
    (UnpackedFloat.unpack .binary32 x.bits.toBitVec)) = _
  rw [unpack_of_isNaN x h]
  rfl

theorem near_of_alike (a b : Binary32) (h : Alike a b) : Near a.value b.value := by
  rcases h with rfl | ⟨ha, hb⟩ | ⟨ha, hb⟩
  · exact Or.inl rfl
  · exact Or.inl ((value_of_isNaN a ha).trans (value_of_isNaN b hb).symm)
  · obtain ⟨s, hs⟩ := value_of_isZero a ha
    obtain ⟨t, ht⟩ := value_of_isZero b hb
    exact Or.inr ⟨s, t, hs, ht⟩

theorem isZero_pack_zero (s : Sign) : (pack (.zero s)).IsZero := by
  cases s with
  | negative => exact Or.inr rfl
  | positive => exact Or.inl rfl

theorem alike_of_near (u v : UnpackedFloat) (h : Near u v) : Alike (pack u) (pack v) := by
  rcases h with rfl | ⟨s, t, rfl, rfl⟩
  · exact Or.inl rfl
  · exact Or.inr (Or.inr ⟨isZero_pack_zero s, isZero_pack_zero t⟩)

/-! ### Arithmetic -/

theorem Near.trans {u v w : UnpackedFloat} (h : Near u v) (h' : Near v w) : Near u w := by
  rcases h with rfl | ⟨s, t, rfl, rfl⟩
  · exact h'
  · rcases h' with rfl | ⟨t', r, -, rfl⟩
    · exact Or.inr ⟨s, t, rfl, rfl⟩
    · exact Or.inr ⟨s, r, rfl, rfl⟩

/-- A function of two values that is not affected by the sign of a zero on either side. -/
theorem near_of_zeros (f : UnpackedFloat → UnpackedFloat → UnpackedFloat)
    (hleft : ∀ s t v, Near (f (.zero s) v) (f (.zero t) v))
    (hright : ∀ u s t, Near (f u (.zero s)) (f u (.zero t))) (u u' v v' : UnpackedFloat)
    (hu : Near u u') (hv : Near v v') : Near (f u v) (f u' v') := by
  have hfirst : Near (f u v) (f u' v) := by
    rcases hu with rfl | ⟨s, t, rfl, rfl⟩
    · exact Or.inl rfl
    · exact hleft s t v
  have hsecond : Near (f u' v) (f u' v') := by
    rcases hv with rfl | ⟨s, t, rfl, rfl⟩
    · exact Or.inl rfl
    · exact hright u' s t
  exact hfirst.trans hsecond

/-- A sum of zeros is a zero, and any other sum ignores the sign of a zero. -/
theorem add_near (u u' v v' : UnpackedFloat) (hu : Near u u') (hv : Near v v') :
    Near (UnpackedFloat.add .binary32 u v) (UnpackedFloat.add .binary32 u' v') := by
  refine near_of_zeros (UnpackedFloat.add .binary32) ?_ ?_ u u' v v' hu hv
  · intro s t v
    cases v with
    | notANumber => exact Or.inl rfl
    | infinity r => exact Or.inl rfl
    | zero r => cases s <;> cases t <;> cases r <;> exact Or.inr ⟨_, _, rfl, rfl⟩
    | finite r m e hm => exact Or.inl rfl
  · intro u s t
    cases u with
    | notANumber => exact Or.inl rfl
    | infinity r => exact Or.inl rfl
    | zero r => cases s <;> cases t <;> cases r <;> exact Or.inr ⟨_, _, rfl, rfl⟩
    | finite r m e hm => exact Or.inl rfl

/-- A product with a zero is a zero or not a number, whatever the sign. -/
theorem mul_near (u u' v v' : UnpackedFloat) (hu : Near u u') (hv : Near v v') :
    Near (UnpackedFloat.mul .binary32 u v) (UnpackedFloat.mul .binary32 u' v') := by
  refine near_of_zeros (UnpackedFloat.mul .binary32) ?_ ?_ u u' v v' hu hv
  · intro s t v
    cases v with
    | notANumber => exact Or.inl rfl
    | infinity r => exact Or.inl rfl
    | zero r => exact Or.inr ⟨_, _, rfl, rfl⟩
    | finite r m e hm => exact Or.inr ⟨_, _, rfl, rfl⟩
  · intro u s t
    cases u with
    | notANumber => exact Or.inl rfl
    | infinity r => exact Or.inl rfl
    | zero r => exact Or.inr ⟨_, _, rfl, rfl⟩
    | finite r m e hm => exact Or.inr ⟨_, _, rfl, rfl⟩

theorem add_alike {a a' b b' : Binary32} (ha : Alike a a') (hb : Alike b b') :
    Alike (add a b) (add a' b') := by
  rw [add_eq, add_eq]
  exact alike_of_near _ _ (add_near _ _ _ _ (near_of_alike a a' ha) (near_of_alike b b' hb))

theorem mul_alike {a a' b b' : Binary32} (ha : Alike a a') (hb : Alike b b') :
    Alike (mul a b) (mul a' b') := by
  rw [mul_eq, mul_eq]
  exact alike_of_near _ _ (mul_near _ _ _ _ (near_of_alike a a' ha) (near_of_alike b b' hb))

theorem not_isNaN_of_isZero (x : Binary32) (h : x.IsZero) : ¬ x.isNaN = true := by
  rcases h with rfl | rfl <;> decide

theorem alike_equivalence : Equivalence Alike where
  refl _ := Or.inl rfl
  symm h := by
    rcases h with rfl | ⟨ha, hb⟩ | ⟨ha, hb⟩
    · exact Or.inl rfl
    · exact Or.inr (Or.inl ⟨hb, ha⟩)
    · exact Or.inr (Or.inr ⟨hb, ha⟩)
  trans h h' := by
    rcases h with rfl | ⟨ha, hb⟩ | ⟨ha, hb⟩
    · exact h'
    · rcases h' with rfl | ⟨-, hc⟩ | ⟨hb', -⟩
      · exact Or.inr (Or.inl ⟨ha, hb⟩)
      · exact Or.inr (Or.inl ⟨ha, hc⟩)
      · exact absurd hb (not_isNaN_of_isZero _ hb')
    · rcases h' with rfl | ⟨hb', -⟩ | ⟨-, hc⟩
      · exact Or.inr (Or.inr ⟨ha, hb⟩)
      · exact absurd hb' (not_isNaN_of_isZero _ hb)
      · exact Or.inr (Or.inr ⟨ha, hc⟩)

/-- What is not a number loses against zero, and a zero is not below zero. -/
theorem relu_alike {a a' : Binary32} (h : Alike a a') : Alike (max a ⟨0⟩) (max a' ⟨0⟩) := by
  rcases h with rfl | ⟨ha, ha'⟩ | ⟨ha, ha'⟩
  · exact Or.inl rfl
  · rw [max, max, if_pos ha, if_pos ha']
    exact Or.inl rfl
  · have hzero : ∀ x : Binary32, x.IsZero → max x ⟨0⟩ = x := by
      rintro x (rfl | rfl)
      · rfl
      · rfl
    rw [hzero a ha, hzero a' ha']
    exact Or.inr (Or.inr ⟨ha, ha'⟩)

theorem isNaN_neg (x : Binary32) (h : x.isNaN = true) : (neg x).isNaN = true := by
  rw [isNaN_iff] at h ⊢
  have hxor : (neg x).bits.toNat = x.bits.toNat ^^^ 2147483648 := UInt32.toNat_xor _ _
  have hlow : (x.bits.toNat ^^^ 2147483648) % 2 ^ 31 = x.bits.toNat % 2 ^ 31 := by
    rw [Nat.xor_mod_two_pow, Nat.mod_self, Nat.xor_zero]
  rw [hxor]
  exact hlow ▸ h

theorem neg_alike {a a' : Binary32} (h : Alike a a') : Alike (neg a) (neg a') := by
  have hzero : ∀ x : Binary32, x.IsZero → (neg x).IsZero := by
    rintro x (rfl | rfl)
    · exact Or.inr rfl
    · exact Or.inl rfl
  rcases h with rfl | ⟨ha, ha'⟩ | ⟨ha, ha'⟩
  · exact Or.inl rfl
  · exact Or.inr (Or.inl ⟨isNaN_neg a ha, isNaN_neg a' ha'⟩)
  · exact Or.inr (Or.inr ⟨hzero a ha, hzero a' ha'⟩)

/-- One plus a zero is one, so the sums of one with two numbers that are alike are equal. -/
theorem one_add_eq {a a' : Binary32} (h : Alike a a') :
    add ⟨0x3f800000⟩ a = add ⟨0x3f800000⟩ a' := by
  rw [add_eq, add_eq]
  rcases near_of_alike a a' h with heq | ⟨s, t, hs, ht⟩
  · rw [heq]
  · rw [hs, ht]
    rfl

/-- The operations of the number format with other functions in place of the two that are not
determined by the format. -/
abbrev scalarWith (exp tanh : Binary32 → Binary32) : Scalar Binary32 :=
  { (inferInstance : Scalar Binary32) with exp := exp, tanh := tanh }

/-- The arithmetic of the format respects the identification, so that tensor code does if the
exponential and the hyperbolic tangent do. -/
theorem respects_alike (exp tanh : Binary32 → Binary32)
    (hexp : ∀ {a a' : Binary32}, Alike a a' → Alike (exp a) (exp a'))
    (htanh : ∀ {a a' : Binary32}, Alike a a' → Alike (tanh a) (tanh a')) :
    @Scalar.Respects Binary32 (scalarWith exp tanh) Alike := by
  refine @Scalar.Respects.mk Binary32 (scalarWith exp tanh) Alike alike_equivalence ?_ add_alike
    mul_alike relu_alike ?_ htanh
  · exact Or.inr (Or.inr ⟨Or.inr rfl, Or.inl rfl⟩)
  · intro a a' h
    refine Or.inl ?_
    change div ⟨0x3f800000⟩ (add ⟨0x3f800000⟩ (exp (neg a))) =
      div ⟨0x3f800000⟩ (add ⟨0x3f800000⟩ (exp (neg a')))
    rw [one_add_eq (hexp (neg_alike h))]

/-- A native function sees one pattern that is not a number, so only the zeros are left. -/
theorem native_alike (f : Float32 → Float32)
    (hzeros : Alike (ofNative (f (toNative ⟨0⟩))) (ofNative (f (toNative ⟨0x80000000⟩))))
    {a a' : Binary32} (h : Alike a a') :
    Alike (ofNative (f a.toNative)) (ofNative (f a'.toNative)) := by
  rcases h with rfl | ⟨ha, ha'⟩ | ⟨ha, ha'⟩
  · exact Or.inl rfl
  · have hnative : a.toNative = a'.toNative := by
      simp only [toNative, Float32.ofBits, Float32.Model.ofBits]
      rw [unpack_of_isNaN a ha, unpack_of_isNaN a' ha']
    rw [hnative]
    exact Or.inl rfl
  · rcases ha with rfl | rfl <;> rcases ha' with rfl | rfl
    · exact Or.inl rfl
    · exact hzeros
    · exact alike_equivalence.symm hzeros
    · exact Or.inl rfl

/-- The operations of the program respect the identification if the exponential and the hyperbolic
tangent of the two zeros are alike. -/
theorem respects_alike_of_zeros
    (hexp : Alike (Scalar.exp (⟨0⟩ : Binary32)) (Scalar.exp ⟨0x80000000⟩))
    (htanh : Alike (Scalar.tanh (⟨0⟩ : Binary32)) (Scalar.tanh ⟨0x80000000⟩)) :
    Scalar.Respects (α := Binary32) Alike :=
  respects_alike _ _ (native_alike Float32.exp hexp) (native_alike Float32.tanh htanh)

end Binary32

end TensorBench
