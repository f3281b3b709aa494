import TensorBench.Proofs.Weights.Blocks

/-!
Files that break off. Inside a record that is noticed: its header or its body is incomplete. The
format does not say how many records there are, though, so that a file that breaks off between two
records is complete as well, and the elements of the missing records are zeros.
-/
namespace TensorBench.Weights.Eightbit

/-! ### Torn records -/

theorem readHeader_short {bytes : Bytes} (h : bytes.length < headerSize) :
    readHeader bytes = .error .truncated := by
  unfold readHeader
  split
  · simp only [List.length_cons, headerSize] at h
    omega
  · rfl

/-- The header of a record can be read as soon as it is complete. -/
theorem readHeader_torn (record : Record) {elements : Nat} (hfits : record.Fits elements)
    (kept : Nat) (hkept : headerSize ≤ kept) :
    readHeader (record.bytes.take kept) =
      .ok (⟨record.offset, record.codes.length, record.scale⟩,
        record.codes.take (kept - headerSize)) := by
  refine (readHeader_eq_ok_iff _ _ _).mpr ⟨hfits.offset_lt, hfits.size_lt, record.unused, ?_⟩
  rw [Record.bytes, List.take_append]
  have hheader : (wordBytes record.offset ++ wordBytes record.codes.length ++
      Binary32.toBytes ⟨record.scale⟩ ++ Binary32.toBytes ⟨record.unused⟩).length = headerSize :=
    rfl
  rw [List.take_of_length_le (by rw [hheader]; exact hkept), hheader]

variable {α : Type} [Scalar α]

/-- A record that is begun but not complete is refused, in its header or in its body. -/
theorem decodeFrom_torn (elements cursor : Nat) (buffer : Array α) (record : Record)
    (hfits : record.Fits elements) (kept : Nat) (hpos : 0 < kept)
    (hkept : kept < record.bytes.length) :
    decodeFrom elements cursor buffer (record.bytes.take kept) = .error (.corruptWeights
      (if kept < headerSize then s!"truncated chunk header at byte {cursor}"
      else s!"truncated chunk body at byte {cursor + headerSize}")) := by
  rw [Record.length_bytes] at hkept
  by_cases hheader : kept < headerSize
  · have hnonempty : record.bytes.take kept ≠ [] := by
      rw [← List.length_pos_iff, List.length_take, Record.length_bytes]
      omega
    have hread : readHeader (record.bytes.take kept) = .error .truncated :=
      readHeader_short (by rw [List.length_take]; omega)
    rw [decodeFrom_fault elements cursor buffer hnonempty hread, if_pos hheader]
  · have hread := readHeader_torn record hfits kept (Nat.le_of_not_lt hheader)
    have hbody : splitBody? record.codes.length (record.codes.take (kept - headerSize)) = none := by
      rw [splitBody?, if_neg]
      rw [List.take_take, List.length_take]
      omega
    rw [decodeFrom_body elements cursor buffer hread hfits.stop_le, hbody, if_neg hheader]

/-! ### Torn files -/

/-- The size of a record with a full block. -/
def recordSize : Nat := headerSize + blockLength

/-- What is left of a file that breaks off: the records of full blocks, and the beginning of the
next record. -/
theorem take_encode (values : List Binary32) (cut : Nat) (hcut : cut < (encode values).length) :
    cut / recordSize < blockCount values.length ∧
    cut % recordSize < (blockRecord values (cut / recordSize)).bytes.length ∧
    (encode values).take cut =
      ((List.range (cut / recordSize)).map (blockRecord values)).flatMap Record.bytes ++
        (blockRecord values (cut / recordSize)).bytes.take (cut % recordSize) := by
  rw [length_encode] at hcut
  have hcount : cut / recordSize < blockCount values.length := by
    unfold recordSize blockCount blockLength headerSize at *
    omega
  have hfront := length_records values (cut / recordSize)
  have hnext : cut % recordSize < (blockRecord values (cut / recordSize)).bytes.length := by
    rw [Record.length_bytes, length_codes]
    unfold recordSize blockCount blockLength headerSize at *
    omega
  refine ⟨hcount, hnext, ?_⟩
  have hlength : headerSize * (cut / recordSize) +
      min (cut / recordSize * blockLength) values.length + cut % recordSize = cut := by
    unfold recordSize blockCount blockLength headerSize at *
    omega
  obtain ⟨rest, hrest⟩ := exists_encode_split values _ hcount
  rw [hrest, List.take_append, hfront, List.take_of_length_le (by rw [hfront]; omega),
    show cut - _ = cut % recordSize by omega, List.take_append_of_le_length (Nat.le_of_lt hnext)]

theorem blockCount_mul_le (length : Nat) (h : length ≤ 2 ^ 31) :
    blockCount length * blockLength ≤ 2 ^ 31 := by
  unfold blockCount blockLength
  omega

/-- A file that breaks off between two records is decoded, with zeros for what is missing. -/
theorem decode_torn_between (values : List Binary32) (layout : Layout) (total : Nat)
    (hlayout : layout.Allocatable total)
    (hstatic : layout.fixed.size / Words.elementSize = values.length)
    (hlength : values.length ≤ 2 ^ 31) (cut : Nat) (hcut : cut < (encode values).length)
    (hbetween : recordSize ∣ cut) :
    ∃ data : Array Binary32, decode ((encode values).take cut) layout = .ok data ∧
      Filled layout total ((List.range (cut / recordSize)).map (blockRecord values)) data := by
  obtain ⟨hcount, -, htake⟩ := take_encode values cut hcut
  rw [htake, Nat.mod_eq_zero_of_dvd hbetween, List.take_zero, List.append_nil]
  refine decode_records hlayout _ ?_
  rw [hstatic]
  have hblocks := blockCount_mul_le values.length hlength
  exact records_fit values _ (Nat.le_of_lt hcount)
    (Nat.le_trans (Nat.mul_le_mul_right _ (Nat.le_of_lt hcount)) hblocks)

/-- A file that breaks off inside a record is refused. -/
theorem decode_torn_inside (values : List Binary32) (layout : Layout) (total : Nat)
    (hlayout : layout.Allocatable total)
    (hstatic : layout.fixed.size / Words.elementSize = values.length)
    (hlength : values.length ≤ 2 ^ 31) (cut : Nat) (hcut : cut < (encode values).length)
    (hinside : ¬ recordSize ∣ cut) :
    ∃ detail, decode (α := Binary32) ((encode values).take cut) layout =
      .error (.failed (.corruptWeights detail)) := by
  obtain ⟨hcount, hnext, htake⟩ := take_encode values cut hcut
  have hblocks := blockCount_mul_le values.length hlength
  have hfront := Nat.mul_le_mul_right blockLength (Nat.le_of_lt hcount)
  have hfits := records_fit values _ (Nat.le_of_lt hcount) (Nat.le_trans hfront hblocks)
  have hrecord := blockRecord_fits values (cut / recordSize) hcount (by
    have hlast := Nat.mul_le_mul_right blockLength hcount
    unfold blockLength at *
    omega)
  have hpos : 0 < cut % recordSize :=
    Nat.pos_of_ne_zero fun hzero => hinside (Nat.dvd_of_mod_eq_zero hzero)
  rw [← hstatic] at hfits hrecord
  rw [decode_allocatable hlayout, htake, decodeFrom_records_append _ 0 _ _ hfits,
    decodeFrom_torn _ _ _ _ hrecord _ hpos hnext]
  exact ⟨_, rfl⟩

/-- A proper beginning of the file of at most `2 ^ 31` values is decoded exactly if it ends between
two records, which for a layout with a buffer is the only way not to be refused as corrupt. The
elements from the first missing record on are then zeros. -/
theorem decode_truncated (values : List Binary32) (layout : Layout)
    (hlength : values.length ≤ 2 ^ 31)
    (hstatic : layout.fixed.size / Words.elementSize = values.length) (part : Bytes)
    (hbegins : part <+: encode values) (hproper : part ≠ encode values) :
    ((∃ data : Array Binary32, decode part layout = .ok data) ↔
      recordSize ∣ part.length ∧ ∃ total, layout.Allocatable total) ∧
    ((∃ total, layout.Allocatable total) → ¬ recordSize ∣ part.length →
      ∃ detail, decode (α := Binary32) part layout =
        .error (.failed (.corruptWeights detail))) ∧
    (∀ data : Array Binary32, decode part layout = .ok data →
      ∀ i, part.length / recordSize * blockLength ≤ i → i < values.length →
        data[i]? = some Scalar.zero) := by
  have hcut : part.length < (encode values).length :=
    Nat.lt_of_le_of_ne hbegins.length_le fun h => hproper (hbegins.eq_of_length h)
  have htake : part = (encode values).take part.length := List.prefix_iff_eq_take.mp hbegins
  have haccepted : (∃ data : Array Binary32, decode part layout = .ok data) →
      recordSize ∣ part.length ∧ ∃ total, layout.Allocatable total := by
    rintro ⟨data, hdata⟩
    obtain ⟨total, hlayout, -⟩ := decode_size .eightbit _ layout hdata
    refine ⟨Classical.not_not.mp fun hinside => ?_, total, hlayout⟩
    obtain ⟨detail, hrefused⟩ :=
      decode_torn_inside values layout total hlayout hstatic hlength _ hcut hinside
    rw [← htake, hdata] at hrefused
    cases hrefused
  refine ⟨⟨haccepted, ?_⟩, ?_, ?_⟩
  · rintro ⟨hbetween, total, hlayout⟩
    obtain ⟨data, hdata, -⟩ :=
      decode_torn_between values layout total hlayout hstatic hlength _ hcut hbetween
    exact ⟨data, htake ▸ hdata⟩
  · rintro ⟨total, hlayout⟩ hinside
    rw [htake]
    exact decode_torn_inside values layout total hlayout hstatic hlength _ hcut hinside
  · intro data hdata i hmissing hi
    obtain ⟨hbetween, total, hlayout⟩ := haccepted ⟨data, hdata⟩
    obtain ⟨data', hdata', hfilled⟩ :=
      decode_torn_between values layout total hlayout hstatic hlength _ hcut hbetween
    rw [← htake, hdata] at hdata'
    cases hdata'
    rw [hfilled.static i (by rw [hstatic]; exact hi), Record.lastElement_eq_zero]
    intro record hmem
    obtain ⟨k, hk, rfl⟩ := List.mem_map.mp hmem
    have hcodes := length_codes values k
    have hoffset : (blockRecord values k).offset = k * blockLength := rfl
    have hbound := Nat.mul_le_mul_right blockLength (List.mem_range.mp hk)
    rw [Nat.succ_mul] at hbound
    refine Record.element?_eq_none _ i (Or.inr ?_)
    rw [hcodes, hoffset]
    omega

/-- A layout with a single static element. -/
def scalarLayout : Layout := Layout.empty.pushStatic "w" 4

/-- A header without its body is refused. -/
theorem decode_truncated_header :
    ([(⟨0x3f000000⟩ : Binary32)].length ≤ 2 ^ 31 ∧
      scalarLayout.fixed.size / Words.elementSize = [(⟨0x3f000000⟩ : Binary32)].length) ∧
    ((encode [⟨0x3f000000⟩]).take 16 <+: encode [⟨0x3f000000⟩] ∧
      (encode [⟨0x3f000000⟩]).take 16 ≠ encode [⟨0x3f000000⟩]) ∧
    ∃ detail, decode (α := Binary32) ((encode [⟨0x3f000000⟩]).take 16) scalarLayout =
      .error (.failed (.corruptWeights detail)) := by
  have hfile : (encode [(⟨0x3f000000⟩ : Binary32)]).length = 17 := length_encode _
  have hpart : ((encode [(⟨0x3f000000⟩ : Binary32)]).take 16).length = 16 := by
    rw [List.length_take, hfile]
    rfl
  have hbegins := List.take_prefix 16 (encode [(⟨0x3f000000⟩ : Binary32)])
  have hproper : (encode [(⟨0x3f000000⟩ : Binary32)]).take 16 ≠ encode [⟨0x3f000000⟩] := by
    intro h
    have hlength := congrArg List.length h
    rw [hpart, hfile] at hlength
    cases hlength
  refine ⟨⟨by decide, by decide⟩, ⟨hbegins, hproper⟩, ?_⟩
  refine (decode_truncated _ scalarLayout (by decide) (by decide) _ hbegins hproper).2.1 ?_ ?_
  · exact ⟨4, ⟨by cbv, by cbv, by cbv⟩, by decide⟩
  · rw [hpart]
    decide

/-- The empty file, which is no whole file of any value, is decoded to zeros. -/
theorem decode_empty_file :
    (scalarLayout.check = .ok () ∧ scalarLayout.isResolved = true ∧
      scalarLayout.fixed.size / Words.elementSize = [(⟨0x3f000000⟩ : Binary32)].length) ∧
    ([] <+: encode [⟨0x3f000000⟩] ∧ [] ≠ encode [⟨0x3f000000⟩]) ∧
    decode (α := Binary32) [] scalarLayout = .ok #[⟨0⟩] := by
  have hbegins : [] <+: encode [⟨0x3f000000⟩] := List.nil_prefix
  refine ⟨⟨by cbv, by cbv, by decide⟩, ⟨hbegins, fun h => ?_⟩, by cbv⟩
  have hlength := (congrArg List.length h).trans (length_encode _)
  cases hlength

end TensorBench.Weights.Eightbit
