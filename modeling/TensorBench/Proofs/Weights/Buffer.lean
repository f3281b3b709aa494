import TensorBench.Proofs.Failure
import TensorBench.Proofs.Layout.Placement
import TensorBench.Weights.Encoding

/-!
The data buffer. A complete and consistent layout gets a buffer exactly if its size in bytes is within
the limit of all buffers. Writing replaces a run of elements and nothing else, in particular not the
size, so a decoded buffer has the elements of its layout.
-/
namespace TensorBench

/-- A settled layout that is not too large for a buffer. -/
structure Layout.Allocatable (layout : Layout) (total : Nat) : Prop extends
    layout.Settled total where
  total_le : total ≤ Words.maxBuffer

namespace Weights

variable {α : Type}

@[simp] theorem size_writeFrom (buffer : Array α) (start : Nat) (values : List α) :
    (writeFrom buffer start values).size = buffer.size := by
  induction values generalizing buffer start with
  | nil => rfl
  | cons value rest ih => rw [writeFrom, ih, Array.size_setIfInBounds]

/-- The elements of a buffer after writing: new ones in the run, the old ones elsewhere. -/
theorem getElem?_writeFrom (buffer : Array α) (start : Nat) (values : List α) (i : Nat) :
    (writeFrom buffer start values)[i]? =
      if start ≤ i ∧ i < start + values.length ∧ i < buffer.size then values[i - start]?
      else buffer[i]? := by
  induction values generalizing buffer start with
  | nil => rw [writeFrom, if_neg (by simp only [List.length_nil]; omega)]
  | cons value rest ih =>
    rw [writeFrom, ih, Array.size_setIfInBounds, Array.getElem?_setIfInBounds, List.length_cons]
    by_cases hi : start = i
    · subst hi
      rw [if_neg (by omega), if_pos rfl]
      by_cases hlt : start < buffer.size
      · rw [if_pos hlt, if_pos (by omega), Nat.sub_self, List.getElem?_cons_zero]
      · rw [if_neg hlt, if_neg (by omega), Array.getElem?_eq_none (Nat.le_of_not_lt hlt)]
    · rw [if_neg hi]
      by_cases hrun : start + 1 ≤ i ∧ i < start + 1 + rest.length ∧ i < buffer.size
      · have hshift : i - start = i - (start + 1) + 1 := by omega
        rw [if_pos hrun, if_pos (by omega), hshift, List.getElem?_cons_succ]
      · rw [if_neg hrun, if_neg (by omega)]

theorem getElem?_writeFrom_outside (buffer : Array α) (start : Nat) (values : List α) (i : Nat)
    (h : i < start ∨ start + values.length ≤ i) :
    (writeFrom buffer start values)[i]? = buffer[i]? := by
  rw [getElem?_writeFrom, if_neg (by omega)]

/-! ### Decoding -/

open Sequencing

variable [Scalar α]

/-- For a settled layout the limit of all buffers decides. -/
theorem allocate_settled {layout : Layout} {total : Nat} (h : layout.Settled total) :
    allocate (α := α) layout = reserve total >>= fun _ =>
      .ok (Array.replicate (total / Words.elementSize) Scalar.zero) := by
  have hresolved := (Layout.ensureResolved_eq_ok_iff layout).mpr h.resolved
  have hvalid := (Layout.validate_eq_ok_iff layout).mpr h.check_ok
  simp only [allocate, hresolved, hvalid, h.total_ok]
  rfl

theorem allocate_eq_ok_iff (layout : Layout) {buffer : Array α} :
    allocate (α := α) layout = .ok buffer ↔ ∃ total, layout.Allocatable total ∧
      buffer = Array.replicate (total / Words.elementSize) Scalar.zero := by
  constructor
  · intro h
    unfold allocate at h
    obtain ⟨hresolved, h⟩ := check_bind_eq_ok_iff.mp h
    obtain ⟨hvalid, h⟩ := check_bind_eq_ok_iff.mp h
    obtain ⟨total, htotal, h⟩ := bind_eq_ok_iff.mp h
    obtain ⟨hsize, h⟩ := check_bind_eq_ok_iff.mp h
    rw [Stop.lift_eq_ok_iff] at hresolved hvalid htotal
    have hcheck := (Layout.validate_eq_ok_iff layout).mp hvalid
    have hknown := (Layout.ensureResolved_eq_ok_iff layout).mp hresolved
    exact ⟨total, ⟨⟨hcheck, hknown, htotal⟩, reserve_eq_ok_iff.mp hsize⟩, (Except.ok.inj h).symm⟩
  · rintro ⟨total, h, rfl⟩
    rw [allocate_settled h.toSettled, reserve_eq_ok_iff.mpr h.total_le]
    rfl

theorem allocate_allocatable {layout : Layout} {total : Nat} (h : layout.Allocatable total) :
    allocate (α := α) layout = .ok (Array.replicate (total / Words.elementSize) Scalar.zero) :=
  (allocate_eq_ok_iff layout).mpr ⟨total, h, rfl⟩

theorem allocate_crashes {layout : Layout} {total : Nat} (h : layout.Settled total)
    (hlarge : Words.maxBuffer < total) : allocate (α := α) layout = .error .crashed := by
  rw [allocate_settled h, reserve_crashes hlarge]
  rfl

/-- A layout that is incomplete, inconsistent or larger than any size is refused. -/
theorem allocate_unsettled {layout : Layout} (h : ¬ ∃ total, layout.Settled total) :
    ∃ failure, allocate (α := α) layout = .error (.failed failure) := by
  unfold allocate
  cases hresolved : layout.ensureResolved with
  | error failure => exact ⟨failure, rfl⟩
  | ok known =>
    cases hvalid : layout.validate with
    | error failure => exact ⟨failure, rfl⟩
    | ok valid =>
      cases htotal : layout.totalSize with
      | error failure => exact ⟨failure, rfl⟩
      | ok total =>
        have hknown := (Layout.ensureResolved_eq_ok_iff layout).mp hresolved
        have hcheck := (Layout.validate_eq_ok_iff layout).mp hvalid
        exact absurd ⟨total, hcheck, hknown, htotal⟩ h

theorem Eightbit.size_of_decodeFrom (elements cursor : Nat) (buffer : Array α) (bytes : Bytes)
    {data : Array α} (h : decodeFrom elements cursor buffer bytes = .ok data) :
    data.size = buffer.size := by
  fun_induction decodeFrom elements cursor buffer bytes with
  | case1 =>
    cases h
    rfl
  | case2 => cases h
  | case3 => cases h
  | case4 => cases h
  | case5 => cases h
  | case6 _ buffer _ _ header _ _ _ _ _ _ _ ih => rw [ih h, size_writeFrom]

/-- What is decoded, whatever the encoding, is written into the buffer of the layout. -/
theorem allocate_of_decode {encoding : Encoding} {bytes : Bytes} {layout : Layout} {data : Array α}
    (h : encoding.decode bytes layout = .ok data) :
    ∃ buffer : Array α, allocate layout = .ok buffer ∧ data.size = buffer.size := by
  cases encoding with
  | raw =>
    obtain ⟨buffer, hbuffer, h⟩ := bind_eq_ok_iff.mp h
    obtain ⟨-, h⟩ := throw_unless_bind_eq_ok_iff.mp h
    exact ⟨buffer, hbuffer, by rw [← Except.ok.inj h, size_writeFrom]⟩
  | eightbit =>
    obtain ⟨buffer, hbuffer, h⟩ := bind_eq_ok_iff.mp h
    exact ⟨buffer, hbuffer, Eightbit.size_of_decodeFrom _ _ _ _ (Stop.lift_eq_ok_iff.mp h)⟩

/-- A decoded buffer has the elements of its layout. -/
theorem decode_size (encoding : Encoding) (bytes : Bytes) (layout : Layout) {data : Array α}
    (h : encoding.decode bytes layout = .ok data) :
    ∃ total, layout.Allocatable total ∧ data.size = total / Words.elementSize := by
  obtain ⟨buffer, hbuffer, hsize⟩ := allocate_of_decode h
  obtain ⟨total, hlayout, rfl⟩ := (allocate_eq_ok_iff layout).mp hbuffer
  exact ⟨total, hlayout, hsize.trans Array.size_replicate⟩

/-- Without a buffer there is no decoding, whatever the file. -/
theorem decode_of_allocate_error {layout : Layout} {stop : Stop}
    (h : allocate (α := α) layout = .error stop) (encoding : Encoding) (bytes : Bytes) :
    encoding.decode (α := α) bytes layout = .error stop := by
  cases encoding with
  | raw =>
    rw [Encoding.decode, Raw.decode, h]
    rfl
  | eightbit =>
    rw [Encoding.decode, Eightbit.decode, h]
    rfl

/-- Only a layout that is too large for a buffer makes decoding crash. -/
theorem large_of_decode_crashed {encoding : Encoding} {bytes : Bytes} {layout : Layout}
    (h : encoding.decode (α := α) bytes layout = .error .crashed) :
    ∃ total, layout.Settled total ∧ Words.maxBuffer < total := by
  by_cases hsettled : ∃ total, layout.Settled total
  · obtain ⟨total, htotal⟩ := hsettled
    refine ⟨total, htotal, Nat.lt_of_not_le fun hsize => ?_⟩
    have hbuffer := allocate_allocatable (α := α) ⟨htotal, hsize⟩
    cases encoding with
    | raw =>
      rw [Encoding.decode, Raw.decode, hbuffer] at h
      by_cases hlength : bytes.length = layout.fixed.size
      · simp [hlength, bind, Except.bind, pure, Except.pure] at h
      · simp [hlength, bind, Except.bind, throw, throwThe, MonadExceptOf.throw] at h
    | eightbit =>
      rw [Encoding.decode, Eightbit.decode, hbuffer] at h
      exact Stop.lift_ne_crashed h
  · obtain ⟨failure, hrefused⟩ := allocate_unsettled (α := α) hsettled
    cases (decode_of_allocate_error hrefused encoding bytes).symm.trans h

end Weights

end TensorBench
