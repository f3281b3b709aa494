import TensorBench.Proofs.Number.Bytes
import TensorBench.Proofs.Weights.Buffer

/-!
The records of an eight bit file. The decoder accepts exactly the sequences of records that stay in
the static part of the buffer, and every element holds what the last record over it says. Without a
buffer, for a layout that is refused or too large for one, no byte is read.
-/
namespace TensorBench.Weights.Eightbit

/-- A record as it stands in a file: where its elements go, their scale, four bytes without a
meaning, and the codes. -/
structure Record where
  offset : Nat
  scale : UInt32
  unused : UInt32
  codes : Bytes

namespace Record

def bytes (record : Record) : Bytes :=
  wordBytes record.offset ++ wordBytes record.codes.length ++ Binary32.toBytes ⟨record.scale⟩ ++
    Binary32.toBytes ⟨record.unused⟩ ++ record.codes

@[simp] theorem length_bytes (record : Record) :
    record.bytes.length = headerSize + record.codes.length := by
  simp only [bytes, List.length_append, wordBytes, Binary32.toBytes, List.length_cons,
    List.length_nil, headerSize]

/-- Offset and size are signed words that are not negative, and the record stays in a static part of
so many elements. -/
structure Fits (elements : Nat) (record : Record) : Prop where
  offset_lt : record.offset < 0x80000000
  size_lt : record.codes.length < 0x80000000
  stop_le : record.offset + record.codes.length ≤ elements

variable {α : Type} [Scalar α]

/-- The value of an element that the record covers. -/
def element? (record : Record) (i : Nat) : Option α :=
  if record.offset ≤ i then
    record.codes[i - record.offset]?.map (element (Scalar.ofBits record.scale))
  else none

/-- The value of an element after all records: that of the last one to cover it, or zero. -/
def lastElement (records : List Record) (i : Nat) : α :=
  (records.reverse.findSome? fun record => record.element? i).getD Scalar.zero

/-- The buffer with the elements of a record in place. -/
def write (record : Record) (buffer : Array α) : Array α :=
  writeFrom buffer record.offset (expand (Scalar.ofBits record.scale) record.codes)

end Record

open Sequencing

variable {α : Type} [Scalar α]

/-! ### Elements -/

/-- The table of a scale holds the element of every code. -/
theorem expand_eq_map (scale : α) (codes : Bytes) :
    expand scale codes = codes.map (element scale) := by
  apply List.map_congr_left
  intro code _
  have hcode := code.toNat_lt
  simp [scaledTable, Array.getD_eq_getD_getElem?, hcode]

namespace Record

@[simp] theorem size_write (record : Record) (buffer : Array α) :
    (record.write buffer).size = buffer.size := size_writeFrom _ _ _

theorem getElem?_write (record : Record) (buffer : Array α) (i : Nat) (hi : i < buffer.size) :
    (record.write buffer)[i]? = (record.element? i).or buffer[i]? := by
  unfold write element?
  rw [getElem?_writeFrom, expand_eq_map, List.length_map, List.getElem?_map]
  by_cases hcovers : record.offset ≤ i ∧ i < record.offset + record.codes.length
  · have hlt : i - record.offset < record.codes.length := by omega
    rw [if_pos ⟨hcovers.1, hcovers.2, hi⟩, if_pos hcovers.1, List.getElem?_eq_getElem hlt]
    rfl
  · rw [if_neg fun h => hcovers ⟨h.1, h.2.1⟩]
    by_cases hle : record.offset ≤ i
    · rw [if_pos hle, List.getElem?_eq_none (by omega)]
      rfl
    · rw [if_neg hle, Option.none_or]

@[simp] theorem size_writes (records : List Record) (buffer : Array α) :
    (records.foldl (fun buffer record => record.write buffer) buffer).size = buffer.size := by
  induction records generalizing buffer with
  | nil => rfl
  | cons record rest ih => rw [List.foldl_cons, ih, size_write]

/-- An element holds what the last record over it says, and its old value if there is none. -/
theorem getElem?_writes (records : List Record) (buffer : Array α) (i : Nat)
    (hi : i < buffer.size) :
    (records.foldl (fun buffer record => record.write buffer) buffer)[i]? =
      (records.reverse.findSome? fun record => record.element? i).or buffer[i]? := by
  induction records generalizing buffer with
  | nil => rfl
  | cons record rest ih =>
    rw [List.foldl_cons, ih _ (by rwa [size_write]), getElem?_write record buffer i hi,
      List.reverse_cons, List.findSome?_append, Option.or_assoc]
    simp

theorem element?_eq_none (record : Record) (i : Nat)
    (h : i < record.offset ∨ record.offset + record.codes.length ≤ i) :
    record.element? (α := α) i = none := by
  unfold element?
  by_cases hle : record.offset ≤ i
  · rw [if_pos hle, List.getElem?_eq_none (by omega)]
    rfl
  · rw [if_neg hle]

/-- An element holds what some record says if no record over it says anything else. -/
theorem lastElement_eq (records : List Record) (i : Nat) (value : α)
    (hsome : ∃ record ∈ records, record.element? i = some value)
    (hrest : ∀ record ∈ records, record.element? (α := α) i = none ∨
      record.element? i = some value) : lastElement records i = value := by
  obtain ⟨record, hmem, hrecord⟩ := hsome
  rw [lastElement]
  cases hfind : records.reverse.findSome? fun record => record.element? (α := α) i with
  | none =>
    have hnone := List.findSome?_eq_none_iff.mp hfind record (List.mem_reverse.mpr hmem)
    cases hnone.symm.trans hrecord
  | some found =>
    obtain ⟨other, hother, hfound⟩ := List.exists_of_findSome?_eq_some hfind
    rcases hrest other (List.mem_reverse.mp hother) with hnone | hvalue
    · cases hnone.symm.trans hfound
    · exact Option.some.inj (hfound.symm.trans hvalue)

theorem lastElement_eq_zero (records : List Record) (i : Nat)
    (h : ∀ record ∈ records, record.element? (α := α) i = none) :
    lastElement records i = (Scalar.zero : α) := by
  rw [lastElement, List.findSome?_eq_none_iff.mpr fun record hmem =>
    h record (List.mem_reverse.mp hmem)]
  rfl

end Record

/-! ### Reading records -/

theorem unsignedPart?_eq_some_iff (word : UInt32) (n : Nat) :
    unsignedPart? word = some n ↔ n < 0x80000000 ∧ UInt32.ofNat n = word := by
  unfold unsignedPart?
  have hlt : word < 0x80000000 ↔ word.toNat < 0x80000000 := UInt32.lt_iff_toNat_lt
  constructor
  · intro h
    split at h
    · rename_i hword
      cases h
      exact ⟨hlt.mp hword, UInt32.ofNat_toNat⟩
    · cases h
  · rintro ⟨hn, rfl⟩
    have hnat : (UInt32.ofNat n).toNat = n := by
      rw [UInt32.toNat_ofNat']
      omega
    rw [if_pos (hlt.mpr (by rw [hnat]; exact hn)), hnat]

/-- What is read as a header is one, and four bytes of it have no meaning. -/
theorem readHeader_eq_ok_iff (bytes rest : Bytes) (header : Header) :
    readHeader bytes = .ok (header, rest) ↔
      header.offset < 0x80000000 ∧ header.size < 0x80000000 ∧ ∃ unused : UInt32,
        bytes = wordBytes header.offset ++ wordBytes header.size ++
          Binary32.toBytes ⟨header.scale⟩ ++ Binary32.toBytes ⟨unused⟩ ++ rest := by
  constructor
  · intro h
    unfold readHeader at h
    split at h
    · rename_i _ _ _ _ _ _ _ _ _ _ _ _ u0 u1 u2 u3 tail
      split at h
      · rename_i offset size hoffset hsize
        obtain ⟨hoffset, hoffsetWord⟩ := (unsignedPart?_eq_some_iff _ _).mp hoffset
        obtain ⟨hsize, hsizeWord⟩ := (unsignedPart?_eq_some_iff _ _).mp hsize
        cases h
        refine ⟨hoffset, hsize, wordOfBytes u0 u1 u2 u3, ?_⟩
        simp only [wordBytes, hoffsetWord, hsizeWord, Binary32.toBytes_wordOfBytes]
        rfl
      · cases h
    · cases h
  · rintro ⟨hoffset, hsize, unused, rfl⟩
    have hoffsetWord := (unsignedPart?_eq_some_iff _ _).mpr ⟨hoffset, rfl⟩
    have hsizeWord := (unsignedPart?_eq_some_iff _ _).mpr ⟨hsize, rfl⟩
    simp only [wordBytes, Binary32.toBytes, List.cons_append, List.nil_append, readHeader,
      wordOfBytes_bytes, hoffsetWord, hsizeWord]

theorem splitBody?_eq_some_iff (count : Nat) (bytes body later : Bytes) :
    splitBody? count bytes = some (body, later) ↔ bytes = body ++ later ∧ body.length = count := by
  unfold splitBody?
  constructor
  · intro h
    simp only [Option.ite_none_right_eq_some, Option.some.injEq, Prod.mk.injEq] at h
    obtain ⟨hlength, rfl, rfl⟩ := h
    exact ⟨(List.take_append_drop count bytes).symm, hlength⟩
  · rintro ⟨rfl, rfl⟩
    simp

/-- A header that cannot be read ends the decoding. -/
theorem decodeFrom_fault (elements cursor : Nat) (buffer : Array α) {bytes : Bytes}
    {fault : HeaderFault} (hbytes : bytes ≠ []) (h : readHeader bytes = .error fault) :
    decodeFrom elements cursor buffer bytes = .error (.corruptWeights (match fault with
      | .truncated => s!"truncated chunk header at byte {cursor}"
      | .negative => s!"negative offset or size in chunk header at byte {cursor}")) := by
  rw [decodeFrom, if_neg (by rwa [List.isEmpty_iff])]
  split
  · rename_i hfault
    cases h.symm.trans hfault
    rfl
  · rename_i hfault
    cases h.symm.trans hfault
    rfl
  · rename_i hread
    cases h.symm.trans hread

/-- Behind a header that can be read, its record is written if the whole body is there. -/
theorem decodeFrom_body (elements cursor : Nat) (buffer : Array α) {bytes rest : Bytes}
    {header : Header} (h : readHeader bytes = .ok (header, rest))
    (hstop : header.offset + header.size ≤ elements) :
    decodeFrom elements cursor buffer bytes =
      match splitBody? header.size rest with
      | none =>
          .error (.corruptWeights s!"truncated chunk body at byte {cursor + headerSize}")
      | some (body, later) =>
          decodeFrom elements (cursor + headerSize + header.size)
            (writeFrom buffer header.offset (expand (Scalar.ofBits header.scale) body)) later := by
  have hnonempty : ¬ bytes.isEmpty = true := by
    rw [List.isEmpty_iff]
    rintro rfl
    cases h
  rw [decodeFrom, if_neg hnonempty]
  split
  · rename_i hfault
    cases h.symm.trans hfault
  · rename_i hfault
    cases h.symm.trans hfault
  · rename_i hread
    cases h.symm.trans hread
    rw [if_neg (Nat.not_lt.mpr hstop)]
    split
    · rename_i hnone
      rw [hnone]
    · rename_i hsome
      rw [hsome]

/-- A record that fits is read as a whole and written. -/
theorem decodeFrom_record (elements cursor : Nat) (buffer : Array α) (record : Record)
    (hfits : record.Fits elements) (rest : Bytes) :
    decodeFrom elements cursor buffer (record.bytes ++ rest) =
      decodeFrom elements (cursor + headerSize + record.codes.length) (record.write buffer)
        rest := by
  have hheader : readHeader (record.bytes ++ rest) =
      .ok (⟨record.offset, record.codes.length, record.scale⟩, record.codes ++ rest) := by
    refine (readHeader_eq_ok_iff _ _ _).mpr ⟨hfits.offset_lt, hfits.size_lt, record.unused, ?_⟩
    rw [Record.bytes, List.append_assoc]
  have hbody : splitBody? record.codes.length (record.codes ++ rest) =
      some (record.codes, rest) := (splitBody?_eq_some_iff _ _ _ _).mpr ⟨rfl, rfl⟩
  rw [decodeFrom_body elements cursor buffer hheader hfits.stop_le, hbody]
  rfl

/-- An offset from `2 ^ 31` on is a negative word. -/
theorem decodeFrom_negative (elements cursor : Nat) (buffer : Array α) (record : Record)
    (hlow : 0x80000000 ≤ record.offset) (hhigh : record.offset < 0x100000000) (rest : Bytes) :
    decodeFrom elements cursor buffer (record.bytes ++ rest) = .error (.corruptWeights
      s!"negative offset or size in chunk header at byte {cursor}") := by
  have hnone : unsignedPart? (UInt32.ofNat record.offset) = none := by
    rw [unsignedPart?, if_neg]
    rw [UInt32.lt_iff_toNat_lt, UInt32.toNat_ofNat', Nat.mod_eq_of_lt hhigh]
    exact Nat.not_lt.mpr hlow
  have hread : readHeader (record.bytes ++ rest) = .error .negative := by
    simp only [Record.bytes, wordBytes, Binary32.toBytes, List.cons_append, List.nil_append,
      readHeader, wordOfBytes_bytes, hnone]
  exact decodeFrom_fault elements cursor buffer (List.cons_ne_nil _ _) hread

/-- Records that fit are written one after the other, whatever follows them. -/
theorem decodeFrom_records_append (elements cursor : Nat) (buffer : Array α)
    (records : List Record) (hfits : ∀ record ∈ records, record.Fits elements) (rest : Bytes) :
    decodeFrom elements cursor buffer (records.flatMap Record.bytes ++ rest) =
      decodeFrom elements (cursor + (records.flatMap Record.bytes).length)
        (records.foldl (fun buffer record => record.write buffer) buffer) rest := by
  induction records generalizing cursor buffer with
  | nil => rfl
  | cons record later ih =>
    obtain ⟨hrecord, hlater⟩ := List.forall_mem_cons.mp hfits
    rw [List.flatMap_cons, List.append_assoc,
      decodeFrom_record elements cursor buffer record hrecord, ih _ _ hlater, List.foldl_cons,
      List.length_append, record.length_bytes]
    simp only [Nat.add_assoc]

theorem decodeFrom_nil (elements cursor : Nat) (buffer : Array α) :
    decodeFrom elements cursor buffer [] = .ok buffer := by
  rw [decodeFrom]
  rfl

theorem decodeFrom_records (elements cursor : Nat) (buffer : Array α) (records : List Record)
    (hfits : ∀ record ∈ records, record.Fits elements) :
    decodeFrom elements cursor buffer (records.flatMap Record.bytes) =
      .ok (records.foldl (fun buffer record => record.write buffer) buffer) := by
  have h := decodeFrom_records_append elements cursor buffer records hfits []
  rwa [List.append_nil, decodeFrom_nil] at h

/-- Nothing but records that fit is decoded. -/
theorem exists_records_of_decodeFrom (elements cursor : Nat) (buffer : Array α) (bytes : Bytes)
    {data : Array α} (h : decodeFrom elements cursor buffer bytes = .ok data) :
    ∃ records : List Record, (∀ record ∈ records, record.Fits elements) ∧
      bytes = records.flatMap Record.bytes := by
  fun_induction decodeFrom elements cursor buffer bytes with
  | case1 _ _ _ hempty => exact ⟨[], by simp, List.isEmpty_iff.mp hempty⟩
  | case2 => cases h
  | case3 => cases h
  | case4 => cases h
  | case5 => cases h
  | case6 cursor buffer bytes _ header rest hheader stop hstop body later hbody ih =>
    obtain ⟨records, hfits, rfl⟩ := ih h
    obtain ⟨hoffset, hsize, unused, rfl⟩ := (readHeader_eq_ok_iff _ _ _).mp hheader
    obtain ⟨rfl, hlength⟩ := (splitBody?_eq_some_iff _ _ _ _).mp hbody
    refine ⟨⟨header.offset, header.scale, unused, body⟩ :: records, ?_, ?_⟩
    · refine List.forall_mem_cons.mpr ⟨⟨hoffset, hlength ▸ hsize, ?_⟩, hfits⟩
      exact hlength ▸ Nat.not_lt.mp hstop
    · simp only [List.flatMap_cons, Record.bytes, hlength, List.append_assoc]

/-! ### Whole files -/

/-- The buffer of a layout behind records: static elements hold what the last record over them says,
dynamic ones are zero. -/
structure Filled (layout : Layout) (total : Nat) (records : List Record) (data : Array α) :
    Prop where
  size_eq : data.size = total / Words.elementSize
  static : ∀ i < layout.fixed.size / Words.elementSize,
    data[i]? = some (Record.lastElement records i)
  dynamic : ∀ i, layout.fixed.size / Words.elementSize ≤ i → i < total / Words.elementSize →
    data[i]? = some Scalar.zero

theorem filled_writes {layout : Layout} {total : Nat} (h : layout.Settled total)
    (records : List Record)
    (hfits : ∀ record ∈ records, record.Fits (layout.fixed.size / Words.elementSize)) :
    Filled layout total records (records.foldl (fun buffer record => record.write buffer)
      (Array.replicate (total / Words.elementSize) (Scalar.zero : α))) := by
  have hinside := h.static_le_total
  refine ⟨by rw [Record.size_writes, Array.size_replicate], fun i hi => ?_, fun i hstatic hi => ?_⟩
  · rw [Record.getElem?_writes _ _ _ (by rw [Array.size_replicate]; omega),
      Array.getElem?_replicate, if_pos (by omega), Record.lastElement]
    cases records.reverse.findSome? fun record => record.element? (α := α) i <;> rfl
  · have huncovered : (records.reverse.findSome? fun record => record.element? (α := α) i) =
        none := by
      refine List.findSome?_eq_none_iff.mpr fun record hmem => ?_
      have hstop := (hfits record (List.mem_reverse.mp hmem)).stop_le
      exact record.element?_eq_none i (Or.inr (by omega))
    rw [Record.getElem?_writes _ _ _ (by rw [Array.size_replicate]; omega), huncovered,
      Array.getElem?_replicate, if_pos hi, Option.none_or]

theorem decode_allocatable {layout : Layout} {total : Nat} (h : layout.Allocatable total)
    (bytes : Bytes) :
    decode (α := α) bytes layout = liftM (decodeFrom (layout.fixed.size / Words.elementSize) 0
      (Array.replicate (total / Words.elementSize) (Scalar.zero : α)) bytes) := by
  rw [decode, allocate_allocatable h]
  rfl

/-- Records that stay in the static part are decoded. -/
theorem decode_records {layout : Layout} {total : Nat} (h : layout.Allocatable total)
    (records : List Record)
    (hfits : ∀ record ∈ records, record.Fits (layout.fixed.size / Words.elementSize)) :
    ∃ data : Array α, decode (records.flatMap Record.bytes) layout = .ok data ∧
      Filled layout total records data := by
  refine ⟨_, ?_, filled_writes h.toSettled records hfits⟩
  rw [decode_allocatable h, decodeFrom_records _ _ _ records hfits, Stop.lift_ok]

/-- For a complete and consistent layout whose size a buffer can have, exactly the sequences of
records that stay in the static part are decoded, to a buffer in which the last record over an
element decides it. A larger layout makes the decoder crash, and one that is incomplete,
inconsistent or without a size is refused, whatever the file. -/
theorem decode_accepts_records (layout : Layout) :
    (∀ total, layout.Settled total → total ≤ Words.maxBuffer →
      (∀ bytes, (∃ data : Array α, decode bytes layout = .ok data) ↔
        ∃ records : List Record,
          (∀ record ∈ records, record.Fits (layout.fixed.size / Words.elementSize)) ∧
            bytes = records.flatMap Record.bytes) ∧
      ∀ records : List Record,
        (∀ record ∈ records, record.Fits (layout.fixed.size / Words.elementSize)) →
          ∃ data : Array α, decode (records.flatMap Record.bytes) layout = .ok data ∧
            Filled layout total records data) ∧
    (∀ total, layout.Settled total → Words.maxBuffer < total →
      ∀ bytes, decode (α := α) bytes layout = .error .crashed) ∧
    ((¬ ∃ total, layout.Settled total) →
      ∃ failure, ∀ bytes, decode (α := α) bytes layout = .error (.failed failure)) := by
  refine ⟨fun total hsettled hsize => ?_, fun total hsettled hlarge bytes => ?_, fun h => ?_⟩
  · have hlayout : layout.Allocatable total := ⟨hsettled, hsize⟩
    refine ⟨fun bytes => ⟨?_, ?_⟩, decode_records hlayout⟩
    · rintro ⟨data, hdata⟩
      rw [decode_allocatable hlayout, Stop.lift_eq_ok_iff] at hdata
      exact exists_records_of_decodeFrom _ _ _ _ hdata
    · rintro ⟨records, hfits, rfl⟩
      obtain ⟨data, hdata, -⟩ := decode_records (α := α) hlayout records hfits
      exact ⟨data, hdata⟩
  · exact decode_of_allocate_error (allocate_crashes hsettled hlarge) .eightbit bytes
  · obtain ⟨failure, hrefused⟩ := allocate_unsettled (α := α) h
    exact ⟨failure, decode_of_allocate_error hrefused .eightbit⟩

/-- Three static elements and a dynamic one. -/
def patchedLayout : Layout := (Layout.empty.pushStatic "w" 12).setDynamicSize (.value 4)

/-- A record over two elements and a later one over the second of them. -/
def patch : List Record :=
  [⟨0, 0x3f800000, 0, [127, 127]⟩, ⟨1, 0x40000000, 7, [255]⟩]

theorem decode_accepts_patch :
    (patchedLayout.Settled 16 ∧ 16 ≤ Words.maxBuffer) ∧
    (∃ data : Array Binary32, decode (patch.flatMap Record.bytes) patchedLayout = .ok data ∧
      data.size = 4 ∧ data[0]? = some (element ⟨0x3f800000⟩ 127) ∧
      data[1]? = some (element ⟨0x40000000⟩ 255) ∧ data[2]? = some ⟨0⟩ ∧ data[3]? = some ⟨0⟩) ∧
    ∃ failure, ∀ bytes,
      decode (α := Binary32) bytes (patchedLayout.setDynamicSize (.placeholder (.named "N"))) =
        .error (.failed failure) := by
  have hsettled : patchedLayout.Settled 16 := ⟨by cbv, by cbv, by cbv⟩
  refine ⟨⟨hsettled, by decide⟩, ?_, ?_⟩
  · have hfits : ∀ record ∈ patch, record.Fits (patchedLayout.fixed.size / Words.elementSize) := by
      intro record hmem
      simp only [patch, List.mem_cons, List.not_mem_nil, or_false] at hmem
      obtain rfl | rfl := hmem <;> exact ⟨by decide, by decide, by decide⟩
    obtain ⟨data, hdata, hfilled⟩ :=
      ((decode_accepts_records (α := Binary32) patchedLayout).1 16 hsettled (by decide)).2 patch hfits
    exact ⟨data, hdata, hfilled.size_eq, hfilled.static 0 (by decide), hfilled.static 1 (by decide),
      hfilled.static 2 (by decide), hfilled.dynamic 3 (by decide) (by decide)⟩
  · refine (decode_accepts_records _).2.2 ?_
    rintro ⟨total, h⟩
    have hunresolved : (patchedLayout.setDynamicSize (.placeholder (.named "N"))).isResolved =
        false := by cbv
    exact Bool.false_ne_true (hunresolved.symm.trans h.resolved)

/-- One static element before a dynamic part of half of all sizes. -/
def halvedLayout : Layout :=
  (Layout.empty.pushStatic "w" 4).setDynamicSize (.value 9223372036854775808)

/-- A layout whose size is a word can still be larger than all buffers, so that not even a file
without records is decoded. -/
theorem decode_halved_crashes :
    halvedLayout.Settled 9223372036854775812 ∧
      decode (α := Binary32) [] halvedLayout = .error .crashed ∧
      ¬ ((∃ data : Array Binary32, decode [] halvedLayout = .ok data) ↔
        ∃ records : List Record,
          (∀ record ∈ records, record.Fits (halvedLayout.fixed.size / Words.elementSize)) ∧
            [] = records.flatMap Record.bytes) := by
  have hsettled : halvedLayout.Settled 9223372036854775812 := ⟨by cbv, by cbv, by cbv⟩
  have hcrash : decode (α := Binary32) [] halvedLayout = .error .crashed :=
    decode_of_allocate_error (allocate_crashes hsettled (by decide)) .eightbit []
  refine ⟨hsettled, hcrash, fun h => ?_⟩
  obtain ⟨data, hdata⟩ := h.mpr ⟨[], by simp, rfl⟩
  cases hcrash.symm.trans hdata

end TensorBench.Weights.Eightbit
