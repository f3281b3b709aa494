import TensorBench.Proofs.Weights.Records

/-!
Weight files and the dynamic part. Whether a file is accepted and what it puts into the static elements
depends on the size of the static part alone, not on what lies behind it.
-/
namespace TensorBench.Weights

open Sequencing

variable {α : Type} [Scalar α] {layout other : Layout} {total otherTotal : Nat}

theorem Raw.decode_eq_ok_iff (hlayout : layout.Allocatable total) (bytes : Bytes)
    (data : Array α) :
    Raw.decode bytes layout = .ok data ↔ bytes.length = layout.fixed.size ∧
      data = writeFrom (Array.replicate (total / Words.elementSize) Scalar.zero) 0
        ((patterns bytes).map Scalar.ofBits) := by
  rw [Raw.decode, allocate_allocatable hlayout]
  show (if bytes.length ≠ layout.fixed.size then throw _ >>= _ else pure _) = Except.ok data ↔ _
  rw [throw_unless_bind_eq_ok_iff, not_not]
  exact and_congr_right fun _ => ⟨fun hsame => (Except.ok.inj hsame).symm, fun hsame => hsame ▸ rfl⟩

/-- A file that is accepted for a layout is accepted for every layout whose static part has the same
size, with the same static elements. -/
theorem decode_of_same_static (encoding : Encoding) (bytes : Bytes)
    (hlayout : layout.Allocatable total) (hother : other.Allocatable otherTotal)
    (hsame : other.fixed.size = layout.fixed.size) {data : Array α}
    (hdata : encoding.decode bytes layout = .ok data) :
    ∃ otherData : Array α, encoding.decode bytes other = .ok otherData ∧
      ∀ i < layout.fixed.size / Words.elementSize, otherData[i]? = data[i]? := by
  have hinside := hlayout.static_le_total
  have hotherInside := hother.static_le_total
  rw [hsame] at hotherInside
  cases encoding with
  | raw =>
    obtain ⟨hlength, rfl⟩ := (Raw.decode_eq_ok_iff hlayout bytes data).mp hdata
    refine ⟨_, (Raw.decode_eq_ok_iff hother bytes _).mpr ⟨hlength.trans hsame.symm, rfl⟩, ?_⟩
    intro i hstatic
    simp only [getElem?_writeFrom, Array.size_replicate, Array.getElem?_replicate]
    have hbound : i < total / Words.elementSize := by omega
    have hotherBound : i < otherTotal / Words.elementSize := by omega
    simp only [hbound, hotherBound, and_true]
  | eightbit =>
    have hwalk := hdata
    rw [Encoding.decode, Eightbit.decode_allocatable hlayout, Stop.lift_eq_ok_iff] at hwalk
    obtain ⟨records, hfits, rfl⟩ := Eightbit.exists_records_of_decodeFrom _ _ _ _ hwalk
    obtain ⟨again, hagain, hfilled⟩ := Eightbit.decode_records (α := α) hlayout records hfits
    cases hagain.symm.trans hdata
    obtain ⟨otherData, hotherData, hotherFilled⟩ :=
      Eightbit.decode_records (α := α) hother records (hsame ▸ hfits)
    refine ⟨otherData, hotherData, fun i hstatic => ?_⟩
    rw [hfilled.static i hstatic, hotherFilled.static i (hsame ▸ hstatic)]

end TensorBench.Weights
