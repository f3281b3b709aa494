import TensorBench.Proofs.Number.Bytes
import TensorBench.Proofs.Weights.StaticPart

/-!
Raw weight files. Values are written as their bit patterns, so a file of whole values and the list of
them determine each other, whatever the patterns mean as numbers. Decoding puts the values in front
of the dynamic part and fills that with zeros.
-/
namespace TensorBench.Weights

variable {α : Type}

/-- Values at the head of a uniform buffer. -/
theorem writeFrom_replicate (blank : α) (length : Nat) (values : List α)
    (hfits : values.length ≤ length) :
    writeFrom (Array.replicate length blank) 0 values =
      (values ++ List.replicate (length - values.length) blank).toArray := by
  apply Array.ext_getElem?
  intro i
  rw [getElem?_writeFrom, Array.size_replicate, Array.getElem?_replicate, Nat.zero_add, Nat.sub_zero,
    List.getElem?_toArray]
  by_cases hi : i < values.length
  · rw [if_pos ⟨Nat.zero_le i, hi, Nat.lt_of_lt_of_le hi hfits⟩, List.getElem?_append_left hi]
  · rw [if_neg (fun h => hi h.2.1), List.getElem?_append_right (Nat.le_of_not_lt hi),
      List.getElem?_replicate]
    refine if_congr ?_ rfl rfl
    omega

namespace Raw

/-! ### Values and bytes -/

/-- What was read before the bytes stands in front of what is read of them. -/
theorem patternsFrom_append (front earlier : List UInt32) (bytes : Bytes) :
    patternsFrom (front ++ earlier) bytes = earlier.reverse ++ patternsFrom front bytes := by
  fun_induction patternsFrom front bytes with
  | case1 front b0 b1 b2 b3 rest ih =>
    rw [← ih, patternsFrom]
    rfl
  | case2 bytes front hincomplete =>
    rw [patternsFrom, List.reverse_append]
    exact hincomplete

theorem patterns_group (b0 b1 b2 b3 : UInt8) (rest : Bytes) :
    patterns (b0 :: b1 :: b2 :: b3 :: rest) = wordOfBytes b0 b1 b2 b3 :: patterns rest :=
  patternsFrom_append [] [wordOfBytes b0 b1 b2 b3] rest

/-- Reading the patterns of written values gives the patterns of the values. -/
theorem patterns_encode (values : List Binary32) :
    patterns (encode values) = values.map (·.bits) := by
  induction values with
  | nil => rfl
  | cons value rest ih =>
    have hgroup : encode (value :: rest) = value.bits.toUInt8 :: (value.bits >>> 8).toUInt8 ::
        (value.bits >>> 16).toUInt8 :: (value.bits >>> 24).toUInt8 :: encode rest := rfl
    rw [hgroup, patterns_group, wordOfBytes_bytes, ih, List.map_cons]

theorem length_encode (values : List Binary32) :
    (encode values).length = values.length * Words.elementSize := by
  induction values with
  | nil => rfl
  | cons value rest ih =>
    have hgroup : encode (value :: rest) = value.toBytes ++ encode rest := rfl
    have hfour : value.toBytes.length = Words.elementSize := rfl
    rw [hgroup, List.length_append, ih, hfour, List.length_cons, Nat.succ_mul, Nat.add_comm]

/-- Every string of whole groups is what some values are written as. -/
theorem exists_encode_eq (bytes : Bytes) (hwhole : Words.elementSize ∣ bytes.length) :
    ∃ values, encode values = bytes := by
  obtain ⟨count, hcount⟩ := hwhole
  induction count generalizing bytes with
  | zero => exact ⟨[], (List.length_eq_zero_iff.mp hcount).symm⟩
  | succ count ih =>
    match bytes with
    | b0 :: b1 :: b2 :: b3 :: rest =>
      obtain ⟨values, rfl⟩ := ih rest (by simp [Words.elementSize] at hcount ⊢; omega)
      refine ⟨⟨wordOfBytes b0 b1 b2 b3⟩ :: values, ?_⟩
      rw [encode, List.flatMap_cons, Binary32.toBytes_wordOfBytes]
      rfl
    | [] | [_] | [_, _] | [_, _, _] =>
      simp only [List.length_cons, List.length_nil, Words.elementSize] at hcount
      omega

theorem map_mk_patterns_encode (values : List Binary32) :
    (patterns (encode values)).map Binary32.mk = values := by
  rw [patterns_encode, List.map_map]
  exact List.map_id values

/-! ### Decoding -/

variable {layout : Layout} {total : Nat}

/-- Written values that fill the static part are decoded to themselves in front of zeros. -/
theorem decode_of_filling (hlayout : layout.Allocatable total) {dynamic : Nat}
    (hdynamic : layout.floating.size = .value dynamic) (values : List Binary32)
    (hfilling : values.length * Words.elementSize = layout.fixed.size) :
    decode (encode values) layout =
      .ok (values ++ List.replicate (dynamic / Words.elementSize) Scalar.zero).toArray := by
  obtain ⟨bytes, hbytes, htotal, -, haligned⟩ := hlayout.dynamicSize
  cases hbytes.symm.trans hdynamic
  have hpatterns : (patterns (encode values)).map (Scalar.ofBits (α := Binary32)) = values :=
    map_mk_patterns_encode values
  have hrest : total / Words.elementSize - values.length = dynamic / Words.elementSize := by
    simp only [Words.elementSize] at *
    omega
  rw [decode_eq_ok_iff hlayout, hpatterns,
    writeFrom_replicate _ _ _ (by simp only [Words.elementSize] at *; omega), hrest]
  exact ⟨(length_encode values).trans hfilling, rfl⟩

/-- Exactly the files as long as the static part are accepted. -/
theorem decode_succeeds_iff [Scalar α] (hlayout : layout.Allocatable total) (bytes : Bytes) :
    (∃ data : Array α, decode bytes layout = .ok data) ↔ bytes.length = layout.fixed.size := by
  simp only [decode_eq_ok_iff hlayout, exists_and_left, exists_eq, and_true]

/-- The static elements of a decoded file are written as the file. -/
theorem encode_of_decode (hlayout : layout.Allocatable total) (bytes : Bytes)
    (data : Array Binary32) (hdata : decode bytes layout = .ok data) :
    encode (data.toList.take (layout.fixed.size / Words.elementSize)) = bytes := by
  obtain ⟨dynamic, hdynamic, -⟩ := hlayout.dynamicSize
  have hfilling := ((decode_eq_ok_iff hlayout bytes data).mp hdata).1
  obtain ⟨values, rfl⟩ := exists_encode_eq bytes (hfilling ▸ hlayout.static_aligned)
  rw [length_encode] at hfilling
  cases (decode_of_filling hlayout hdynamic values hfilling).symm.trans hdata
  have hcount : layout.fixed.size / Words.elementSize = values.length := by
    rw [← hfilling]
    exact Nat.mul_div_cancel _ (by decide)
  rw [hcount, List.take_left]

end Raw

end TensorBench.Weights
