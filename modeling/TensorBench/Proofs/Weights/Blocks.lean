import TensorBench.Proofs.Number.Magnitudes
import TensorBench.Proofs.Weights.Records

/-!
What the encoder writes. The values are cut into blocks, and each block becomes one record at its
own place, with the largest magnitude of the block as its scale. The records tile the elements, so
decoding gives every value back as its own code under the scale of its own block. A block that
starts at element `2 ^ 31` or later has no offset that is a signed word, and the file is refused.
-/
namespace TensorBench.Weights.Eightbit

/-! ### Scales -/

/-- The largest magnitude among the numbers of a block, zero if there is none. -/
structure LargestMagnitude (block : List Binary32) (largest : Binary32) : Prop where
  attained : largest = ⟨0⟩ ∨ ∃ value ∈ block, value.isNaN = false ∧ largest = value.abs
  bound : ∀ value ∈ block, value.isNaN = false → value.abs ≤ largest

theorem isMagnitude_of_attained {block : List Binary32} {largest : Binary32}
    (h : largest = ⟨0⟩ ∨ ∃ value ∈ block, value.isNaN = false ∧ largest = value.abs) :
    largest.IsMagnitude := by
  rcases h with rfl | ⟨value, -, hnan, rfl⟩
  · exact Nat.zero_le _
  · exact value.isMagnitude_abs_iff.mpr hnan

theorem isMagnitude_abs_of_less {value bound : Binary32}
    (h : Binary32.less bound value.abs = true) : value.abs.IsMagnitude := by
  rw [Binary32.isMagnitude_abs_iff, ← Bool.not_eq_true]
  intro hnan
  have habs : value.abs.isNaN = true := by
    rw [Binary32.isNaN_iff] at hnan ⊢
    rw [Binary32.toNat_abs, Nat.mod_mod]
    exact hnan
  exact Bool.false_ne_true ((Binary32.less_eq_false_of_isNaN _ _ habs).symm.trans h)

/-- Taking in one more value keeps the largest magnitude; what is not a number never exceeds it. -/
theorem LargestMagnitude.append {block : List Binary32} {largest : Binary32}
    (h : LargestMagnitude block largest) (value : Binary32) :
    LargestMagnitude (block ++ [value]) (largest.max value.abs) := by
  have hlargest := isMagnitude_of_attained h.attained
  rw [Binary32.max, if_neg (by rw [hlargest.isNaN_eq_false]; exact Bool.false_ne_true)]
  by_cases hless : Binary32.less largest value.abs = true
  · have hvalue : value.abs.IsMagnitude := isMagnitude_abs_of_less hless
    have hnan := value.isMagnitude_abs_iff.mp hvalue
    have hlt := (hlargest.less_iff hvalue).mp hless
    rw [if_pos hless]
    refine ⟨Or.inr ⟨value, by simp, hnan, rfl⟩, fun other hmem hother => ?_⟩
    have hmagnitude := other.isMagnitude_abs_iff.mpr hother
    rcases List.mem_append.mp hmem with hold | hnew
    · have hle := (hmagnitude.le_iff hlargest).mp (h.bound other hold hother)
      exact (hmagnitude.le_iff hvalue).mpr (Nat.le_trans hle (Nat.le_of_lt hlt))
    · rw [List.mem_singleton.mp hnew]
      exact (hvalue.le_iff hvalue).mpr (Nat.le_refl _)
  · rw [if_neg hless]
    refine ⟨?_, fun other hmem hother => ?_⟩
    · refine h.attained.imp_right ?_
      rintro ⟨witness, hmem, hwitness⟩
      exact ⟨witness, List.mem_append_left _ hmem, hwitness⟩
    · rcases List.mem_append.mp hmem with hold | hnew
      · exact h.bound other hold hother
      · rw [List.mem_singleton.mp hnew] at hother ⊢
        have hvalue := value.isMagnitude_abs_iff.mpr hother
        exact (hvalue.le_iff hlargest).mpr
          (Nat.le_of_not_lt fun hlt => hless ((hlargest.less_iff hvalue).mpr hlt))

theorem largestMagnitude_foldl (block : List Binary32) :
    LargestMagnitude block (block.foldl (fun m v => m.max v.abs) Scalar.zero) := by
  induction block using List.reverseRecOn with
  | nil => exact ⟨Or.inl rfl, nofun⟩
  | append_singleton block value ih =>
    rw [List.foldl_append]
    exact ih.append value

/-- The scale of a block: its largest magnitude, or one when that is not positive. -/
def ScaleOf (block : List Binary32) (scale : Binary32) : Prop :=
  ∃ largest, LargestMagnitude block largest ∧
    scale = if Binary32.less Scalar.zero largest then largest else Scalar.one

theorem scaleOf_blockScale (block : List Binary32) : ScaleOf block (blockScale block) :=
  ⟨_, largestMagnitude_foldl block, rfl⟩

/-! ### Codes -/

/-- The value that comes back for a value that was encoded under a scale: the magnitude of the
nearest code times the scale, with the sign of the value. -/
def restored (scale value : Binary32) : Binary32 :=
  let nearest := nearestCode (CodeTable.magnitude (α := Binary32)) (value.abs.div scale)
  let size := Scalar.mul (CodeTable.magnitude nearest) scale
  if Binary32.less value Scalar.zero then Scalar.neg size else size

section Codes

variable {β : Type} [Sub β] [LT β] [DecidableLT β] [LE β] [DecidableLE β]

theorem nearestCode_lt (entry : Nat → β) (x : β) : nearestCode entry x < 128 := by
  unfold nearestCode
  simp only
  split
  · decide
  · split <;> omega

/-- A code counts the nearest entry in its low bits and has the sign in its high one. -/
theorem toNat_code [Zero β] [Div β] [Abs β] (entry : Nat → β) (scale value : β) :
    (code entry scale value).toNat =
      nearestCode entry (Abs.abs value / scale) + if value < 0 then 128 else 0 := by
  have hlt := nearestCode_lt entry (Abs.abs value / scale)
  unfold code
  simp only
  generalize nearestCode entry (Abs.abs value / scale) = nearest at *
  have hplain : (UInt8.ofNat nearest).toNat = nearest := by
    rw [UInt8.toNat_ofNat']
    omega
  split
  · have hmarked := lor_shiftLeft nearest 1 7 (by simpa using hlt)
    rw [UInt8.toNat_or, hplain]
    exact hmarked
  · exact hplain

end Codes

theorem table_entry :
    (fun i => ((Array.range 128).map (CodeTable.magnitude (α := Binary32))).getD i Scalar.zero) =
      CodeTable.magnitude := by
  funext i
  by_cases hi : i < 128
  · simp [Array.getD_eq_getD_getElem?, hi]
  · simp [Array.getD_eq_getD_getElem?, hi, CodeTable.magnitude, CodeTable.patterns]

theorem element_code (scale value : Binary32) :
    element (Scalar.ofBits scale.bits) (code CodeTable.magnitude scale value) =
      restored scale value := by
  change element scale _ = _
  have hlt := nearestCode_lt (CodeTable.magnitude (α := Binary32)) (value.abs.div scale)
  have hcode : (code CodeTable.magnitude scale value).toNat =
      nearestCode CodeTable.magnitude (value.abs.div scale) +
        if Binary32.less value Scalar.zero then 128 else 0 := toNat_code _ _ _
  unfold element restored
  simp only [hcode]
  split
  · rw [Nat.add_mod_right, Nat.mod_eq_of_lt hlt, if_neg (by omega)]
  · rw [Nat.add_zero, Nat.mod_eq_of_lt hlt, if_pos hlt]

/-! ### Blocks -/

/-- How many blocks there are of so many values. -/
def blockCount (length : Nat) : Nat := (length + (blockLength - 1)) / blockLength

/-- The `k`-th block of the values. -/
def block (values : List Binary32) (k : Nat) : List Binary32 :=
  (values.drop (k * blockLength)).take blockLength

/-- The record of the `k`-th block. -/
def blockRecord (values : List Binary32) (k : Nat) : Record where
  offset := k * blockLength
  scale := (blockScale (block values k)).bits
  unused := 0
  codes := (block values k).map (code CodeTable.magnitude (blockScale (block values k)))

theorem encodeBlock_eq (start : Nat) (values : List Binary32) :
    encodeBlock start values =
      (Record.mk start (blockScale values).bits 0
        (values.map (code CodeTable.magnitude (blockScale values)))).bytes := by
  unfold encodeBlock Record.bytes codes
  simp only [table_entry, List.length_map]
  rfl

theorem blockCount_of_pos (length : Nat) (h : 0 < length) :
    blockCount length = blockCount (length - blockLength) + 1 := by
  unfold blockCount blockLength
  omega

theorem block_drop (values : List Binary32) (k : Nat) :
    block (values.drop blockLength) k = block values (k + 1) := by
  rw [block, block, List.drop_drop, Nat.succ_mul, Nat.add_comm]

theorem encodeFrom_eq_blocks (first : Nat) (values : List Binary32) :
    encodeFrom blockLength (first * blockLength) values =
      (List.range (blockCount values.length)).flatMap fun k =>
        encodeBlock ((first + k) * blockLength) (block values k) := by
  generalize hstart : first * blockLength = start
  fun_induction encodeFrom blockLength start values generalizing first with
  | case1 start values h =>
    obtain rfl : values = [] := h.resolve_right (by decide)
    rfl
  | case2 start values h ih =>
    have hlength : 0 < values.length := List.length_pos_iff.mpr fun hnil => h (Or.inl hnil)
    have hnext : (first + 1) * blockLength = start + blockLength := by
      rw [Nat.succ_mul, hstart]
    have hhead : block values 0 = values.take blockLength := by
      rw [block, Nat.zero_mul, List.drop_zero]
    rw [ih (first + 1) hnext, blockCount_of_pos _ hlength, List.range_succ_eq_map,
      List.flatMap_cons, List.flatMap_map, List.length_drop, Nat.add_zero first, hstart, hhead]
    simp only [block_drop, Nat.succ_eq_add_one, Nat.add_assoc, Nat.add_comm 1]

/-- A file is the sequence of the records of its blocks. -/
theorem encode_eq_records (values : List Binary32) :
    encode values =
      ((List.range (blockCount values.length)).map (blockRecord values)).flatMap Record.bytes := by
  have h := encodeFrom_eq_blocks 0 values
  rw [Nat.zero_mul] at h
  rw [encode, h, List.flatMap_map]
  simp only [encodeBlock_eq, Nat.zero_add]
  rfl

theorem length_block (values : List Binary32) (k : Nat) :
    (block values k).length = min blockLength (values.length - k * blockLength) := by
  rw [block, List.length_take, List.length_drop]

theorem length_codes (values : List Binary32) (k : Nat) :
    (blockRecord values k).codes.length = min blockLength (values.length - k * blockLength) := by
  rw [blockRecord, List.length_map, length_block]

/-- So many records of a file hold so many headers, and one code for each value they reach. -/
theorem length_records (values : List Binary32) (count : Nat) :
    (((List.range count).map (blockRecord values)).flatMap Record.bytes).length =
      headerSize * count + min (count * blockLength) values.length := by
  induction count with
  | zero =>
    rw [Nat.zero_mul, Nat.zero_min]
    rfl
  | succ count ih =>
    rw [List.range_succ, List.map_append, List.flatMap_append, List.length_append, ih,
      List.map_singleton, List.flatMap_singleton, Record.length_bytes, length_codes, Nat.succ_mul,
      Nat.mul_succ]
    omega

theorem le_blockCount_mul (length : Nat) : length ≤ blockCount length * blockLength := by
  unfold blockCount blockLength
  omega

theorem length_encode (values : List Binary32) :
    (encode values).length = values.length + headerSize * blockCount values.length := by
  rw [encode_eq_records, length_records, Nat.min_eq_right (le_blockCount_mul _), Nat.add_comm]

/-- The records of a file up to one of them, that one, and the rest. -/
theorem exists_encode_split (values : List Binary32) (k : Nat) (hk : k < blockCount values.length) :
    ∃ rest, encode values =
      ((List.range k).map (blockRecord values)).flatMap Record.bytes ++
        ((blockRecord values k).bytes ++ rest) := by
  obtain ⟨more, hmore⟩ := Nat.exists_eq_add_of_lt hk
  rw [encode_eq_records, hmore, Nat.add_assoc, List.range_add, List.range_succ_eq_map]
  simp only [List.map_append, List.flatMap_append, List.map_cons, List.flatMap_cons, Nat.add_zero]
  exact ⟨_, rfl⟩

/-! ### Decoding -/

theorem blockRecord_fits (values : List Binary32) (k : Nat) (hk : k < blockCount values.length)
    (hoffset : k * blockLength < 0x80000000) : (blockRecord values k).Fits values.length := by
  have hcodes := length_codes values k
  have hrecord : (blockRecord values k).offset = k * blockLength := rfl
  refine ⟨hoffset, ?_, ?_⟩
  · rw [hcodes]
    unfold blockLength
    omega
  · rw [hcodes, hrecord]
    unfold blockCount blockLength at *
    omega

theorem getElem?_block (values : List Binary32) (k i : Nat) (hi : i < values.length)
    (hlow : k * blockLength ≤ i) (hhigh : i < (k + 1) * blockLength) :
    (block values k)[i - k * blockLength]? = some values[i] := by
  rw [Nat.succ_mul] at hhigh
  rw [block, List.getElem?_take, if_pos (by omega), List.getElem?_drop,
    Nat.add_sub_cancel' hlow, List.getElem?_eq_getElem hi]

-- The scale is a variable here: where it is the scale of a block, comparing projections of the record
-- makes Lean evaluate the block.
/-- An element over which a record holds the code of a value. -/
theorem element?_coded (offset : Nat) (scale value : Binary32) (unused : UInt32) (codes : Bytes)
    (i : Nat) (hlow : offset ≤ i)
    (hcode : codes[i - offset]? = some (code CodeTable.magnitude scale value)) :
    (Record.mk offset scale.bits unused codes).element? i = some (restored scale value) := by
  rw [Record.element?, if_pos hlow, hcode, Option.map_some, element_code]

theorem element?_blockRecord (values : List Binary32) (k i : Nat) (hi : i < values.length)
    (hlow : k * blockLength ≤ i) (hhigh : i < (k + 1) * blockLength) :
    (blockRecord values k).element? i =
      some (restored (blockScale (block values k)) values[i]) := by
  refine element?_coded _ _ _ _ _ i hlow ?_
  rw [List.getElem?_map, getElem?_block values k i hi hlow hhigh, Option.map_some]

/-- Every element is covered by the record of its block and by no other. -/
theorem lastElement_records (values : List Binary32) (count k i : Nat) (hi : i < values.length)
    (hk : i / blockLength = k) (hcount : k < count) :
    Record.lastElement ((List.range count).map (blockRecord values)) i =
      restored (blockScale (block values k)) values[i] := by
  have hlow : k * blockLength ≤ i := hk ▸ Nat.div_mul_le_self i blockLength
  have hhigh : i < (k + 1) * blockLength :=
    (Nat.div_lt_iff_lt_mul (by decide)).mp (hk ▸ Nat.lt_succ_self k)
  have hcovers := element?_blockRecord values k i hi hlow hhigh
  refine Record.lastElement_eq _ i _ ⟨_, List.mem_map_of_mem (List.mem_range.mpr hcount), hcovers⟩
    fun record hmem => ?_
  obtain ⟨other, -, rfl⟩ := List.mem_map.mp hmem
  by_cases hother : other = k
  · rw [hother]
    exact Or.inr hcovers
  · refine Or.inl (Record.element?_eq_none _ i ?_)
    have hcodes := length_codes values other
    have hoffset : (blockRecord values other).offset = other * blockLength := rfl
    rw [hcodes, hoffset]
    unfold blockLength at *
    omega

theorem records_fit (values : List Binary32) (count : Nat)
    (hcount : count ≤ blockCount values.length) (hlast : count * blockLength ≤ 0x80000000) :
    ∀ record ∈ (List.range count).map (blockRecord values), record.Fits values.length := by
  intro record hmem
  obtain ⟨k, hk, rfl⟩ := List.mem_map.mp hmem
  have hlt := List.mem_range.mp hk
  refine blockRecord_fits values k (Nat.lt_of_lt_of_le hlt hcount) ?_
  unfold blockLength at *
  omega

/-- The buffer that a file of at most `2 ^ 31` values is decoded to. -/
theorem decode_encode_short (values : List Binary32) (layout : Layout) (total : Nat)
    (hlayout : layout.Allocatable total)
    (hstatic : layout.fixed.size / Words.elementSize = values.length)
    (hlength : values.length ≤ 2 ^ 31) :
    ∃ data : Array Binary32, decode (encode values) layout = .ok data ∧
      Filled layout total
        ((List.range (blockCount values.length)).map (blockRecord values)) data := by
  rw [encode_eq_records]
  refine decode_records hlayout _ ?_
  rw [hstatic]
  refine records_fit values _ (Nat.le_refl _) ?_
  unfold blockCount blockLength
  omega

/-- The first block behind element `2 ^ 31` has no offset, and the file is refused there. -/
theorem decode_encode_long (values : List Binary32) (layout : Layout) (total : Nat)
    (hlayout : layout.Allocatable total)
    (hstatic : layout.fixed.size / Words.elementSize = values.length)
    (hlength : 2 ^ 31 < values.length) :
    decode (α := Binary32) (encode values) layout = .error (.failed (.corruptWeights
      "negative offset or size in chunk header at byte 2147516416")) := by
  have hcount : 2048 < blockCount values.length := by
    unfold blockCount blockLength
    omega
  obtain ⟨rest, hrest⟩ := exists_encode_split values 2048 hcount
  have hfits := records_fit values 2048 (Nat.le_of_lt hcount) (by decide)
  rw [← hstatic] at hfits
  have hcursor := length_records values 2048
  rw [Nat.min_eq_left (by unfold blockLength; omega),
    show headerSize * 2048 + 2048 * blockLength = 2147516416 by decide] at hcursor
  have hoffset : (blockRecord values 2048).offset = 0x80000000 := by
    change 2048 * blockLength = 0x80000000
    decide
  rw [decode_allocatable hlayout, hrest, decodeFrom_records_append _ 0 _ _ hfits, hcursor,
    Nat.zero_add, decodeFrom_negative _ _ _ _ (Nat.le_of_eq hoffset.symm) (by rw [hoffset]; decide)]
  rfl

/-- For a complete and consistent layout with so many static elements, the file of a list of values
is decoded exactly if the list has at most `2 ^ 31` elements and the layout has a size that a buffer
can have; a longer list has a record whose offset is no signed word. Every element comes back as its
own code under the scale of its own block, and the file has a header for each block beside one byte
for each value. -/
theorem decode_encode (values : List Binary32) (layout : Layout)
    (hcheck : layout.check = .ok ()) (hresolved : layout.isResolved = true)
    (hstatic : layout.fixed.size / Words.elementSize = values.length) :
    ((∃ data : Array Binary32, decode (encode values) layout = .ok data) ↔
      values.length ≤ 2 ^ 31 ∧ ∃ total ≤ Words.maxBuffer, layout.totalSize = .ok total) ∧
    ((∃ total ≤ Words.maxBuffer, layout.totalSize = .ok total) → 2 ^ 31 < values.length →
      decode (α := Binary32) (encode values) layout = .error (.failed (.corruptWeights
        "negative offset or size in chunk header at byte 2147516416"))) ∧
    (∀ data : Array Binary32, decode (encode values) layout = .ok data →
      ∀ (i : Nat) (value : Binary32), values[i]? = some value → ∃ scale,
        ScaleOf ((values.drop (i / blockLength * blockLength)).take blockLength) scale ∧
          data[i]? = some (restored scale value)) ∧
    (encode values).length =
      values.length + headerSize * ((values.length + (blockLength - 1)) / blockLength) := by
  have hallocatable : ∀ total ≤ Words.maxBuffer, layout.totalSize = .ok total →
      layout.Allocatable total :=
    fun total hsize htotal => ⟨⟨hcheck, hresolved, htotal⟩, hsize⟩
  have hdecodes : (∃ data : Array Binary32, decode (encode values) layout = .ok data) →
      values.length ≤ 2 ^ 31 ∧ ∃ total ≤ Words.maxBuffer, layout.totalSize = .ok total := by
    rintro ⟨data, hdata⟩
    obtain ⟨total, hlayout, -⟩ := decode_size .eightbit _ layout hdata
    refine ⟨Nat.le_of_not_lt fun hlong => ?_, total, hlayout.total_le, hlayout.total_ok⟩
    cases hdata.symm.trans (decode_encode_long values layout total hlayout hstatic hlong)
  refine ⟨⟨hdecodes, ?_⟩, ?_, ?_, length_encode values⟩
  · rintro ⟨hlength, total, hsize, htotal⟩
    obtain ⟨data, hdata, -⟩ := decode_encode_short values layout total
      (hallocatable total hsize htotal) hstatic hlength
    exact ⟨data, hdata⟩
  · rintro ⟨total, hsize, htotal⟩ hlong
    exact decode_encode_long values layout total (hallocatable total hsize htotal) hstatic hlong
  · intro data hdata i value hvalue
    obtain ⟨hi, rfl⟩ := List.getElem?_eq_some_iff.mp hvalue
    obtain ⟨hlength, total, hsize, htotal⟩ := hdecodes ⟨data, hdata⟩
    obtain ⟨data', hdata', hfilled⟩ := decode_encode_short values layout total
      (hallocatable total hsize htotal) hstatic hlength
    cases hdata.symm.trans hdata'
    refine ⟨_, scaleOf_blockScale _, ?_⟩
    rw [hfilled.static i (by rw [hstatic]; exact hi), lastElement_records values _ _ i hi rfl ?_]
    · rfl
    · unfold blockCount blockLength
      omega

/-- A full block and one value with the other sign behind it. -/
def twoBlocks : List Binary32 := List.replicate blockLength ⟨0x40000000⟩ ++ [⟨0xbf800000⟩]

theorem decode_encode_two_blocks :
    ((Layout.empty.pushStatic "w" 4194308).check = .ok () ∧
      (Layout.empty.pushStatic "w" 4194308).isResolved = true ∧
      (Layout.empty.pushStatic "w" 4194308).fixed.size / Words.elementSize = twoBlocks.length) ∧
    (encode twoBlocks).length = 1048577 + 2 * 16 ∧
    ∃ data : Array Binary32,
      decode (encode twoBlocks) (Layout.empty.pushStatic "w" 4194308) = .ok data ∧
        ∃ scale, ScaleOf [⟨0xbf800000⟩] scale ∧
          data[1048576]? = some (restored scale ⟨0xbf800000⟩) := by
  have hcheck : (Layout.empty.pushStatic "w" 4194308).check = .ok () := by cbv
  have hresolved : (Layout.empty.pushStatic "w" 4194308).isResolved = true := by cbv
  have htotal : (Layout.empty.pushStatic "w" 4194308).totalSize = .ok 4194308 := by cbv
  have hlength : twoBlocks.length = 1048577 := by
    rw [twoBlocks, List.length_append, List.length_replicate]
    rfl
  have hstatic : (Layout.empty.pushStatic "w" 4194308).fixed.size / Words.elementSize =
      twoBlocks.length := hlength.symm
  obtain ⟨hdecodes, -, helements, hbytes⟩ := decode_encode twoBlocks _ hcheck hresolved hstatic
  obtain ⟨data, hdata⟩ := hdecodes.mpr ⟨by rw [hlength]; decide, _, by decide, htotal⟩
  refine ⟨⟨hcheck, hresolved, hstatic⟩, ?_, data, hdata, ?_⟩
  · rw [hbytes, hlength]
    rfl
  · have hdrop : twoBlocks.drop blockLength = [⟨0xbf800000⟩] :=
      List.drop_left' List.length_replicate
    have hlast : twoBlocks[1048576]? = some ⟨0xbf800000⟩ := by
      have hhead := congrArg List.head? hdrop
      rwa [List.head?_drop] at hhead
    obtain ⟨scale, hscale, hvalue⟩ := helements data hdata 1048576 _ hlast
    have hblock : (twoBlocks.drop (1048576 / blockLength * blockLength)).take blockLength =
        [⟨0xbf800000⟩] := by
      rw [show 1048576 / blockLength * blockLength = blockLength from rfl, hdrop]
      rfl
    exact ⟨scale, hblock ▸ hscale, hvalue⟩

/-- One static element before a dynamic part with which the buffer has no size. -/
def oversizedLayout : Layout :=
  (Layout.empty.pushStatic "w" 4).setDynamicSize (.value 18446744073709551612)

/-- A layout without a size is refused even though it is complete and consistent. -/
theorem decode_encode_oversized :
    oversizedLayout.check = .ok () ∧ oversizedLayout.isResolved = true ∧
      oversizedLayout.fixed.size / Words.elementSize = [(⟨0x3f800000⟩ : Binary32)].length ∧
      decode (α := Binary32) (encode [⟨0x3f800000⟩]) oversizedLayout =
        .error (.failed Layout.Violation.totalOverflow.failure) := by
  refine ⟨by cbv, by cbv, by cbv, ?_⟩
  have hresolved : oversizedLayout.ensureResolved = .ok () := by cbv
  have hvalid : oversizedLayout.validate = .ok () := by cbv
  have hsum : Words.add? oversizedLayout.fixed.size
      (oversizedLayout.floating.size.value?.getD 0) = none := by decide
  have htotal : oversizedLayout.totalSize = .error Layout.Violation.totalOverflow.failure := by
    simp only [Layout.totalSize, hresolved, hsum]
    rfl
  simp only [decode, allocate, hresolved, hvalid, htotal]
  rfl

end TensorBench.Weights.Eightbit
