import Mathlib.Logic.Function.Basic
import TensorBench.Json.Decode
import TensorBench.Layout.Codec
import TensorBench.Proofs.Expression.FloorDivision
import TensorBench.Proofs.NameTable

/-!
Values that were read from JSON. There are many ways to write a value: as an object or as the list of
its fields, with members that nobody knows, or without those that have defaults. A decoder is
faithful to an encoder if each value that it reads in some way is read from its encoding too. A list,
a table or a record is read from its encoding if its parts are, and only then.
-/
namespace TensorBench.Decode

open Sequencing

variable {β : Type}

/-- There is JSON that reads as the value. -/
def Readable (decode : Decoder β) (value : β) : Prop := ∃ json, decode json = .ok value

/-- Every value that can be read at all is read from what is written for it. -/
def Faithful (decode : Decoder β) (encode : β → Json) : Prop :=
  ∀ value, Readable decode value → decode (encode value) = .ok value

/-! ### Fields of records -/

namespace Fields

variable {fields : Fields Json} {name : String} {decode : Decoder β} {value : β}

theorem readable_of_required (hread : fields.required name decode = .ok value) :
    Readable decode value := by
  unfold required at hread
  split at hread
  · exact ⟨_, hread⟩
  · cases hread

theorem readable_of_defaulted {standard : β} (hknown : Readable decode standard)
    (hread : fields.defaulted name decode standard = .ok value) : Readable decode value := by
  unfold defaulted at hread
  split at hread
  · exact ⟨_, hread⟩
  · cases hread
    exact hknown

end Fields

/-! ### Values without parts -/

/-- The value is read from what is written for it. -/
def Kept (decode : Decoder β) (encode : β → Json) (value : β) : Prop :=
  decode (encode value) = .ok value

theorem kept_size_iff (value : Nat) : Kept size .nat value ↔ value < Words.limit := by
  unfold Kept size word Json.nat
  by_cases hbound : value < Words.limit <;> simp [hbound]

theorem faithful_size : Faithful size .nat := by
  rintro value ⟨json, hread⟩
  refine (kept_size_iff value).mpr ?_
  unfold size word at hread
  split at hread
  · split at hread
    · rename_i hfits
      cases hread
      simp only [Bool.and_eq_true, decide_eq_true_eq] at hfits
      omega
    · cases hread
  · cases hread

theorem kept_signed_iff (value : Int) : Kept signed .int value ↔ Words.IsSigned value := by
  unfold Kept signed Words.signed? Words.IsSigned
  by_cases hrange : Words.minSigned ≤ value ∧ value ≤ Words.maxSigned <;> simp [hrange]

theorem faithful_signed : Faithful signed .int := by
  rintro value ⟨json, hread⟩
  refine (kept_signed_iff value).mpr ?_
  unfold signed at hread
  split at hread
  · split at hread
    · rename_i hwithin
      cases hread
      obtain ⟨hrange, rfl⟩ : Words.IsSigned _ ∧ _ = value := by
        simpa [Words.signed?, Words.IsSigned] using hwithin
      exact hrange
    · cases hread
  · cases hread

/-! ### Values with parts -/

variable {decode : Decoder β} {encode : β → Json}

theorem optional_of_ne_null {json : Json} (hpresent : json ≠ .null) :
    optional decode json = (decode json).map some := by
  cases json with
  | null => exact absurd rfl hpresent
  | _ => rfl

theorem kept_optional_iff (hpresent : ∀ value, encode value ≠ .null) (value : Option β) :
    Kept (optional decode) (Json.ofOption encode) value ↔
      ∀ inner ∈ value, Kept decode encode inner := by
  cases value with
  | none => exact iff_of_true rfl nofun
  | some inner =>
    have hone : (decode (encode inner)).map some = .ok (some inner) ↔
        decode (encode inner) = .ok inner := by
      cases decode (encode inner) <;> simp [Except.map]
    simpa [Kept, Json.ofOption, optional_of_ne_null (hpresent inner)] using hone

theorem Faithful.optional (hfaithful : Faithful decode encode)
    (hpresent : ∀ value, encode value ≠ .null) :
    Faithful (optional decode) (Json.ofOption encode) := by
  rintro value ⟨json, hread⟩
  refine (kept_optional_iff hpresent value).mpr fun inner hgiven => hfaithful inner ⟨json, ?_⟩
  obtain rfl : value = some inner := hgiven
  have hpresent : json ≠ .null := by
    rintro rfl
    cases hread
  rw [optional_of_ne_null hpresent] at hread
  cases hdecoded : decode json with
  | error fault =>
    rw [hdecoded] at hread
    cases hread
  | ok other =>
    rw [hdecoded] at hread
    cases hread
    rfl

theorem kept_list_iff (values : List β) :
    Kept (list decode) (fun values => .arr (values.map encode)) values ↔
      ∀ value ∈ values, Kept decode encode value := by
  refine (mapM_eq_ok_iff (values.map encode) decode values).trans ?_
  rw [List.forall₂_map_left_iff, List.forall₂_same]
  rfl

theorem Faithful.list (hfaithful : Faithful decode encode) :
    Faithful (list decode) (fun values => .arr (values.map encode)) := by
  rintro values ⟨json, hread⟩
  unfold Decode.list at hread
  split at hread
  · rename_i items
    have hparts := (mapM_eq_ok_iff items decode values).mp hread
    refine (kept_list_iff values).mpr fun value hmem => ?_
    obtain ⟨item, -, hdecoded⟩ := exists_item_of_mem_results hparts hmem
    exact hfaithful _ ⟨item, hdecoded⟩
  · cases hread

theorem readable_empty : Readable (table decode) .empty := ⟨.obj [], rfl⟩

/-- The names of a table are apart, so none of its entries is read in the place of another one. -/
theorem kept_table_iff (values : NameTable β) :
    Kept (table decode) (NameTable.toJson encode) values ↔
      ∀ entry ∈ values.entries, Kept decode encode entry.2 := by
  constructor
  · intro hkept entry hmem
    obtain ⟨pairs, hdecoded, hmade⟩ := bind_eq_ok_iff.mp hkept
    obtain rfl : NameTable.ofList pairs = values := Except.ok.inj hmade
    have hparts := (mapM_eq_ok_iff _ _ pairs).mp hdecoded
    rw [List.forall₂_map_left_iff] at hparts
    obtain ⟨original, hpresent, hread⟩ :=
      exists_item_of_mem_results hparts (NameTable.mem_of_mem_ofList hmem)
    obtain ⟨value, hdecoded, hsame⟩ := bind_eq_ok_iff.mp hread
    cases hsame
    have hwhole := NameTable.eq_of_mem_of_name_eq _ hpresent hmem rfl
    show decode (encode value) = .ok value
    rwa [show original.2 = value from congrArg Prod.snd hwhole] at hdecoded
  · intro hkept
    refine bind_eq_ok_iff.mpr ⟨values.entries, (mapM_eq_ok_iff _ _ _).mpr ?_, ?_⟩
    · rw [List.forall₂_map_left_iff, List.forall₂_same]
      intro entry hmem
      exact bind_eq_ok_iff.mpr ⟨entry.2, hkept entry hmem, rfl⟩
    · rw [NameTable.ofList_entries]
      rfl

theorem Faithful.table (hfaithful : Faithful decode encode) :
    Faithful (table decode) (NameTable.toJson encode) := by
  rintro values ⟨json, hread⟩
  unfold Decode.table at hread
  split at hread
  · rename_i members
    obtain ⟨pairs, hdecoded, hmade⟩ := bind_eq_ok_iff.mp hread
    cases hmade
    have hparts := (mapM_eq_ok_iff members _ pairs).mp hdecoded
    refine (kept_table_iff _).mpr fun entry hmem => ?_
    obtain ⟨original, -, hread⟩ :=
      exists_item_of_mem_results hparts (NameTable.mem_of_mem_ofList hmem)
    obtain ⟨value, hdecoded, hsame⟩ := bind_eq_ok_iff.mp hread
    cases hsame
    exact hfaithful _ ⟨original.2, hdecoded⟩
  · cases hread

/-- A record of two parts. -/
theorem kept_pair_iff {γ δ : Type} (make : β → γ → δ) (hinjective : Function.Injective2 make)
    {read : Decoder δ} {write : δ → Json} {decode' : Decoder γ} {encode' : γ → Json} {a : β} {b : γ}
    (hparts : read (write (make a b)) =
      do return make (← decode (encode a)) (← decode' (encode' b))) :
    Kept read write (make a b) ↔ Kept decode encode a ∧ Kept decode' encode' b := by
  rw [Kept, hparts, bind_eq_ok_iff]
  constructor
  · rintro ⟨first, hfirstRead, hread⟩
    obtain ⟨second, hsecondRead, hmade⟩ := bind_eq_ok_iff.mp hread
    obtain ⟨rfl, rfl⟩ := hinjective (Except.ok.inj hmade)
    exact ⟨hfirstRead, hsecondRead⟩
  · rintro ⟨hfirstRead, hsecondRead⟩
    exact ⟨a, hfirstRead, bind_eq_ok_iff.mpr ⟨b, hsecondRead, rfl⟩⟩

end TensorBench.Decode
