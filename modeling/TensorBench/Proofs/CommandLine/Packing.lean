import TensorBench.CommandLine.Machine
import TensorBench.Proofs.Files.Disk
import TensorBench.Proofs.Weights.RawFiles

/-!
Packing weights. A file of whole values is packed as what its values are encoded to, in one write; any
other file is refused before anything is written. Packed raw, a file stays as it is.
-/
namespace TensorBench.CommandLine.Program

open Weights Sequencing

/-! ### What is written -/

theorem packed_encode (input name : String) {encoding : Encoding}
    (hknown : Encoding.ofName? name = some encoding) (values : List Binary32) :
    packed input name (Raw.encode values) = .ok (encoding.encode values, values.length) := by
  have hwhole : (Raw.encode values).length % 4 = 0 := by
    rw [Raw.length_encode]
    exact Nat.mul_mod_left _ _
  simp only [packed, hwhole, hknown, Raw.map_mk_patterns_encode]
  rfl

/-- Packed raw, the bytes of whole values are the same bytes. -/
theorem packed_raw (input : String) (bytes : Bytes) (hwhole : bytes.length % 4 = 0) :
    packed input "raw" bytes = .ok (bytes, bytes.length / 4) := by
  obtain ⟨values, rfl⟩ := Raw.exists_encode_eq bytes (Nat.dvd_of_mod_eq_zero hwhole)
  rw [packed_encode input "raw" rfl, Raw.length_encode]
  simp [Encoding.encode, Words.elementSize]

theorem packed_eq_error_iff (input name : String) (bytes : Bytes) :
    (∃ failure, packed input name bytes = .error failure) ↔
      bytes.length % 4 ≠ 0 ∨ Encoding.ofName? name = none := by
  rw [packed]
  by_cases hwhole : bytes.length % 4 = 0
  · rw [if_neg (not_not.mpr hwhole)]
    cases Encoding.ofName? name <;> simp [hwhole]
  · rw [if_pos hwhole]
    simp [hwhole]

/-! ### What is done to the files -/

section Stateful

variable {σ : Type} {before opened written : σ}

variable (host : Host (StateM σ)) {input name : String} (output : String) {bytes : Bytes}

/-- What is refused leaves everything as it was after the input was read. -/
theorem pack_refused (hopens : (host.files.read input).run before = (.ok bytes, opened))
    {failure : Failure} (hrefused : packed input name bytes = .error failure) :
    (pack host input output name).run.run before = (.error failure, opened) := by
  rw [pack, run_bind_ok (run_lift hopens)]
  refine run_bind_error ?_
  rw [hrefused]
  rfl

/-- What is accepted is written at once, and a line tells of it. -/
theorem pack_written (hopens : (host.files.read input).run before = (.ok bytes, opened))
    {result : Bytes} {count : Nat} (haccepted : packed input name bytes = .ok (result, count))
    (hwrites : (host.files.write output result).run opened = (.ok (), written)) :
    ∃ line, (pack host input output name).run.run before =
      (.ok (), ((host.say line).run written).2) := by
  have hdecided : (ExceptT.mk (pure (packed input name bytes)) :
      ExceptT Failure (StateM σ) (Bytes × Nat)).run.run opened = (.ok (result, count), opened) := by
    rw [haccepted]
    rfl
  refine ⟨s!"✓ Packed {count} values: {bytes.length} -> {result.length} bytes " ++ s!"({name})", ?_⟩
  rw [pack, run_bind_ok (run_lift hopens)]
  refine (run_bind_ok hdecided).trans ?_
  refine (run_bind_ok (run_lift hwrites)).trans ?_
  exact run_lift rfl

end Stateful

/-- On a machine in memory, the packed file is then read as the bytes of the input, and all other
files as before. -/
theorem pack_raw_copies (machine : Machine) (input output : String) (bytes : Bytes)
    (hopens : machine.disk.read input = .ok bytes) (hwhole : bytes.length % 4 = 0)
    (hwrites : (machine.disk.write output bytes).1 = .ok ()) :
    ∃ after, (pack Machine.host input output "raw").run.run machine = (.ok (), after) ∧
      after.disk.read output = .ok bytes ∧
      ∀ other contents, machine.disk.read other = .ok contents →
        machine.disk.resolve other ≠ machine.disk.resolve output →
          after.disk.read other = .ok contents := by
  have hreads : (Machine.host.files.read input).run machine = (.ok bytes, machine) := by
    rw [← hopens]
    rfl
  have hchanges : (Machine.host.files.write output bytes).run machine =
      (.ok (), { machine with disk := (machine.disk.write output bytes).2 }) := by
    rw [← hwrites]
    rfl
  obtain ⟨line, hpacks⟩ :=
    pack_written Machine.host output hreads (packed_raw input bytes hwhole) hchanges
  refine ⟨_, hpacks, Disk.read_write_self hwrites, fun other contents hread hne => ?_⟩
  exact Disk.read_write_of_ne hwrites hread hne

/-- Raw files and values determine each other, pattern by pattern, for a layout whose size a buffer can
have. A file is decoded for it exactly if it is as long as the static part; values that fill that part
are decoded to themselves in front of a zero for each dynamic element, and the static elements of what
was decoded are written as the file. A larger layout makes the decoder crash, whatever the file. So
packing a file raw copies it, and where packing is refused, for the length of the file or the name of
the encoding, nothing is written. -/
theorem raw_weights_round_trip {layout : Layout} {total : Nat} (hsettled : layout.Settled total) :
    (total ≤ Words.maxBuffer →
      (∀ bytes, (∃ data : Array Binary32, Raw.decode bytes layout = .ok data) ↔
        bytes.length = layout.fixed.size) ∧
      (∃ dynamic, layout.floating.size = .value dynamic ∧
        ∀ values : List Binary32, values.length * Words.elementSize = layout.fixed.size →
          Raw.decode (Raw.encode values) layout =
            .ok (values ++ List.replicate (dynamic / Words.elementSize) Scalar.zero).toArray) ∧
      ∀ bytes (data : Array Binary32), Raw.decode bytes layout = .ok data →
        Raw.encode (data.toList.take (layout.fixed.size / Words.elementSize)) = bytes) ∧
    (Words.maxBuffer < total →
      ∀ bytes, Raw.decode (α := Binary32) bytes layout = .error .crashed) ∧
    (∀ (σ : Type) (host : Host (StateM σ)) (input output : String) (before opened : σ)
      (bytes : Bytes), (host.files.read input).run before = (.ok bytes, opened) →
        (bytes.length % 4 = 0 →
          ∀ written, (host.files.write output bytes).run opened = (.ok (), written) →
            ∃ line, (pack host input output "raw").run.run before =
              (.ok (), ((host.say line).run written).2)) ∧
        ∀ name, bytes.length % 4 ≠ 0 ∨ Encoding.ofName? name = none →
          ∃ failure, (pack host input output name).run.run before = (.error failure, opened)) ∧
    (∀ (machine : Machine) (input output : String) (bytes : Bytes),
      machine.disk.read input = .ok bytes → bytes.length % 4 = 0 →
        (machine.disk.write output bytes).1 = .ok () →
          ∃ after, (pack Machine.host input output "raw").run.run machine = (.ok (), after) ∧
            after.disk.read output = .ok bytes ∧
            ∀ other contents, machine.disk.read other = .ok contents →
              machine.disk.resolve other ≠ machine.disk.resolve output →
                after.disk.read other = .ok contents) := by
  refine ⟨fun hsize => ?_, fun hlarge bytes => ?_, ?_, pack_raw_copies⟩
  · have hlayout : layout.Allocatable total := ⟨hsettled, hsize⟩
    obtain ⟨dynamic, hdynamic, -⟩ := hsettled.dynamicSize
    exact ⟨Raw.decode_succeeds_iff hlayout, ⟨dynamic, hdynamic, Raw.decode_of_filling hlayout hdynamic⟩,
      Raw.encode_of_decode hlayout⟩
  · exact decode_of_allocate_error (allocate_crashes hsettled hlarge) .raw bytes
  · intro σ host input output before opened bytes hopens
    refine ⟨fun hwhole written hwrites => ?_, fun name hrefusable => ?_⟩
    · exact pack_written host output hopens (packed_raw input bytes hwhole) hwrites
    · obtain ⟨failure, hrefused⟩ := (packed_eq_error_iff input name bytes).mpr hrefusable
      exact ⟨failure, pack_refused host output hopens hrefused⟩

/-- Two static elements in front of two dynamic ones. -/
def pairedLayout : Layout :=
  ((Layout.empty.pushStatic "w" 8).pushDynamic "x" (.value 0) (.value 8)).setDynamicSize (.value 8)

/-- A pattern that is no number, with a payload, and the zero that is negative. -/
def unusualValues : List Binary32 := [⟨0x7fc12345⟩, ⟨0x80000000⟩]

def unusualMachine : Machine :=
  ⟨Disk.empty.set ["w.bin"] (.file (Raw.encode unusualValues)), [], []⟩

theorem raw_weights_round_trip_unusual :
    (pairedLayout.Settled 16 ∧ 16 ≤ Words.maxBuffer) ∧
    Raw.decode (Raw.encode unusualValues) pairedLayout =
      .ok #[(⟨0x7fc12345⟩ : Binary32), ⟨0x80000000⟩, ⟨0⟩, ⟨0⟩] ∧
    ∃ after, (pack Machine.host "w.bin" "copy.bin" "raw").run.run unusualMachine = (.ok (), after) ∧
      after.disk.read "copy.bin" = .ok (Raw.encode unusualValues) := by
  have hsettled : pairedLayout.Settled 16 := ⟨by cbv, by cbv, by cbv⟩
  have hsize : 16 ≤ Words.maxBuffer := by decide
  obtain ⟨hdecoding, -, -, hcopies⟩ := raw_weights_round_trip hsettled
  obtain ⟨-, ⟨dynamic, hdynamic, hdecodes⟩, -⟩ := hdecoding hsize
  have hfilling : unusualValues.length * Words.elementSize = pairedLayout.fixed.size := by cbv
  have hwhole : (Raw.encode unusualValues).length % 4 = 0 := by cbv
  have hheight : pairedLayout.floating.size = .value 8 := by cbv
  cases hheight.symm.trans hdynamic
  have hopens : unusualMachine.disk.read "w.bin" = .ok (Raw.encode unusualValues) := by cbv
  have htop : unusualMachine.disk.get? [] = some .directory := by cbv
  have hfree : unusualMachine.disk.get? ["copy.bin"] = none := by cbv
  have hpieces : Disk.pieces "copy.bin" = ["copy.bin"] := by decide
  have hplace : unusualMachine.disk.resolve "copy.bin" = .ok ["copy.bin"] := by
    rw [Disk.resolve, if_neg (by decide), hpieces]
    simp [Disk.walk, htop]
  have hwrites :
      (unusualMachine.disk.write "copy.bin" (Raw.encode unusualValues)).1 = .ok () :=
    (Disk.write_eq_ok_iff _ _ _).mpr ⟨["copy.bin"], hplace, by simp [hfree], htop⟩
  obtain ⟨after, hpacks, hcopied, -⟩ :=
    hcopies unusualMachine "w.bin" "copy.bin" _ hopens hwhole hwrites
  exact ⟨⟨hsettled, hsize⟩, hdecodes unusualValues hfilling, after, hpacks, hcopied⟩

/-- One static element in front of dynamic ones that no buffer has room for. -/
def crowdedLayout : Layout :=
  (Layout.empty.pushStatic "w" 4).setDynamicSize (.value 9223372036854775808)

/-- A file as long as the static part is not always decoded, though the layout has a size. -/
theorem raw_decode_crowded_crashes :
    crowdedLayout.Settled 9223372036854775812 ∧ crowdedLayout.fixed.size = 4 ∧
      Raw.decode (α := Binary32) (Raw.encode [⟨0x3f800000⟩]) crowdedLayout = .error .crashed ∧
      ¬ ∀ bytes : Bytes, (∃ data : Array Binary32, Raw.decode bytes crowdedLayout = .ok data) ↔
        bytes.length = crowdedLayout.fixed.size := by
  have hsettled : crowdedLayout.Settled 9223372036854775812 := ⟨by cbv, by cbv, by cbv⟩
  have hcrash : Raw.decode (α := Binary32) (Raw.encode [⟨0x3f800000⟩]) crowdedLayout =
      .error .crashed :=
    decode_of_allocate_error (allocate_crashes hsettled (by decide)) .raw _
  refine ⟨hsettled, by cbv, hcrash, fun hdecodes => ?_⟩
  obtain ⟨data, hdata⟩ := (hdecodes (Raw.encode [⟨0x3f800000⟩])).mpr (by cbv)
  cases hcrash.symm.trans hdata

end TensorBench.CommandLine.Program
