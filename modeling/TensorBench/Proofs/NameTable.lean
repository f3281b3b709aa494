import Mathlib.Data.List.Induction
import Mathlib.Data.List.Pairwise
import TensorBench.NameTable
import TensorBench.Proofs.Sequencing

/-!
Looking up names in a table. The names of a table ascend, so an entry is determined by its name, and
a lookup finds exactly the entries of the table. Reworking the values keeps the names, and a table
made of the entries of another one is that table. Insertion changes what is found for one name.
-/
namespace TensorBench.NameTable

variable {ε β γ : Type}

theorem eq_of_mem_of_name_eq (table : NameTable β) {a b : String × β}
    (ha : a ∈ table.entries) (hb : b ∈ table.entries) (h : a.1 = b.1) : a = b := by
  by_contra hne
  have happart := table.ascending.imp (S := fun a b => a.1 ≠ b.1)
    (fun hlt heq => String.lt_irrefl _ (heq ▸ hlt))
  have hsymm : Std.Symm fun a b : String × β => a.1 ≠ b.1 := ⟨fun _ _ => Ne.symm⟩
  exact happart.forall ha hb hne h

theorem get?_eq_some_iff (table : NameTable β) (name : String) (value : β) :
    table.get? name = some value ↔ (name, value) ∈ table.entries := by
  unfold get?
  rw [Option.map_eq_some_iff]
  constructor
  · rintro ⟨entry, hfind, rfl⟩
    have hname := List.find?_some hfind
    rw [beq_iff_eq] at hname
    have hmem := List.mem_of_find?_eq_some hfind
    rwa [← hname]
  · intro hmem
    cases hfind : table.entries.find? (·.1 == name) with
    | none =>
      have hmiss := List.find?_eq_none.mp hfind _ hmem
      simp at hmiss
    | some entry =>
      have hname : entry.1 = name := by simpa using List.find?_some hfind
      have heq := table.eq_of_mem_of_name_eq (List.mem_of_find?_eq_some hfind) hmem hname
      exact ⟨entry, rfl, by rw [heq]⟩

theorem mem_names_iff (table : NameTable β) (name : String) :
    name ∈ table.names ↔ ∃ value, table.get? name = some value := by
  simp only [names, List.mem_map, get?_eq_some_iff]
  constructor
  · rintro ⟨⟨key, value⟩, hmem, rfl⟩
    exact ⟨value, hmem⟩
  · rintro ⟨value, hmem⟩
    exact ⟨(name, value), hmem, rfl⟩

/-- No name stands in a table twice. -/
theorem nodup_names (table : NameTable β) : table.names.Nodup := by
  have hascending := ascending_iff_names.mp table.ascending
  refine hascending.imp (S := fun a b => a ≠ b) fun hlt heq => ?_
  exact String.lt_irrefl _ (heq ▸ hlt)

theorem contains_eq_false_iff (table : NameTable β) (name : String) :
    table.contains name = false ↔ table.get? name = none := by
  simp [contains]

/-- A walk reworks the entries in order and keeps their names. -/
theorem map_entries_traverse (table : NameTable β) (f : String × β → Except ε γ) :
    (table.traverse f).map entries =
      table.entries.mapM fun entry => (f entry).map (Prod.mk entry.1) := by
  unfold traverse
  split
  · rename_i hfailed
    exact hfailed.symm
  · rename_i hreached
    exact hreached.symm

/-- A successful walk reworks each value by itself and keeps its name. -/
theorem traverse_eq_ok (table : NameTable β) (f : String × β → Except ε γ) {image : NameTable γ}
    (h : table.traverse f = .ok image) :
    List.Forall₂ (fun a b => a.1 = b.1 ∧ f a = .ok b.2) table.entries image.entries := by
  have hwalk := map_entries_traverse table f
  rw [h] at hwalk
  refine ((Sequencing.mapM_eq_ok_iff _ _ _).mp hwalk.symm).imp fun a b hab => ?_
  cases hf : f a with
  | error e => simp [hf, Except.map] at hab
  | ok value =>
    simp only [hf, Except.map, Except.ok.injEq] at hab
    subst hab
    exact ⟨rfl, rfl⟩

theorem mem_of_traverse (table : NameTable β) (f : String × β → Except ε γ) {image : NameTable γ}
    (h : table.traverse f = .ok image) {b : String × γ} (hb : b ∈ image.entries) :
    ∃ a ∈ table.entries, a.1 = b.1 ∧ f a = .ok b.2 :=
  Sequencing.exists_item_of_mem_results (table.traverse_eq_ok f h) hb

/-- A walk whose every step succeeds does so as a whole. -/
theorem exists_traverse_eq_ok (table : NameTable β) (f : String × β → Except ε γ)
    (hsteps : ∀ entry ∈ table.entries, ∃ value, f entry = .ok value) :
    ∃ image, table.traverse f = .ok image := by
  obtain ⟨entries, hentries⟩ := Sequencing.exists_mapM_eq_ok table.entries
    (fun entry => (f entry).map (Prod.mk entry.1)) fun entry hmem => by
      obtain ⟨value, hreworked⟩ := hsteps entry hmem
      exact ⟨(entry.1, value), by rw [hreworked]; rfl⟩
  have hwalk := (map_entries_traverse table f).trans hentries
  cases hresult : table.traverse f with
  | ok image => exact ⟨image, rfl⟩
  | error e =>
    rw [hresult] at hwalk
    cases hwalk

theorem eq_of_map_entries_eq {a b : Except ε (NameTable β)} (h : a.map entries = b.map entries) :
    a = b := by
  cases a with
  | error e =>
    cases b with
    | error e' => exact congrArg Except.error (Except.error.inj h)
    | ok table => cases h
  | ok table =>
    cases b with
    | error e => cases h
    | ok table' => exact congrArg Except.ok (ext_entries (Except.ok.inj h))

/-- Walks that treat every entry alike end alike. -/
theorem traverse_congr (table : NameTable β) {f g : String × β → Except ε γ}
    (halike : ∀ entry ∈ table.entries, f entry = g entry) :
    table.traverse f = table.traverse g := by
  apply eq_of_map_entries_eq
  rw [map_entries_traverse, map_entries_traverse]
  exact Sequencing.mapM_congr _ fun entry hmem => by rw [halike entry hmem]

theorem traverse_failsAs (table : NameTable β) {P : ε → Prop} {f : String × β → Except ε γ}
    (hsteps : ∀ entry ∈ table.entries, Sequencing.FailsAs P (f entry)) :
    Sequencing.FailsAs P (table.traverse f) := by
  intro e hfailed
  have hwalk := map_entries_traverse table f
  rw [hfailed] at hwalk
  exact Sequencing.FailsAs.mapM _ (fun entry hmem => (hsteps entry hmem).map _) e hwalk.symm

/-- A walk that leaves every value as it is gives the same table. -/
theorem traverse_eq_self (table : NameTable β) (f : String × β → Except ε β)
    (hsame : ∀ entry ∈ table.entries, f entry = .ok entry.2) : table.traverse f = .ok table := by
  apply eq_of_map_entries_eq
  rw [map_entries_traverse]
  refine (Sequencing.mapM_eq_ok_iff _ _ _).mpr (List.forall₂_same.mpr fun entry hmem => ?_)
  rw [hsame entry hmem]
  rfl

/-- A walk reworks the value of each name. -/
theorem get?_traverse {table : NameTable β} {f : String × β → Except ε γ} {image : NameTable γ}
    (hwalked : table.traverse f = .ok image) {name : String} {before : β} {after : γ}
    (hfound : table.get? name = some before) (hreworked : f (name, before) = .ok after) :
    image.get? name = some after := by
  obtain ⟨⟨other, value⟩, hmem, hsame, hresult⟩ := Sequencing.exists_item_of_mem_results
    (table.traverse_eq_ok f hwalked).flip ((table.get?_eq_some_iff name before).mp hfound)
  cases hsame
  cases hresult.symm.trans hreworked
  exact (image.get?_eq_some_iff name value).mpr hmem

/-! ### Insertion -/

theorem mem_insertEntry_iff {name : String} {value : β} {entries : List (String × β)}
    (hascending : Ascending entries) (entry : String × β) :
    entry ∈ insertEntry name value entries ↔
      entry = (name, value) ∨ entry ∈ entries ∧ entry.1 ≠ name := by
  induction entries with
  | nil => simp [insertEntry]
  | cons head rest ih =>
    obtain ⟨hbefore, hsorted⟩ := List.pairwise_cons.mp hascending
    unfold insertEntry
    split
    · rename_i hfirst
      have hapart : entry ∈ head :: rest → entry.1 ≠ name := by
        intro hmem hsame
        rcases List.mem_cons.mp hmem with rfl | hmem
        · exact String.lt_irrefl _ (hsame ▸ hfirst)
        · exact String.lt_asymm hfirst (hsame ▸ hbefore entry hmem)
      rw [List.mem_cons]
      exact or_congr_right ⟨fun hmem => ⟨hmem, hapart hmem⟩, And.left⟩
    · split
      · rename_i _ hsame
        rw [List.mem_cons]
        refine or_congr_right ⟨fun hmem => ⟨List.mem_cons_of_mem _ hmem, ?_⟩, ?_⟩
        · exact fun hequal => String.lt_irrefl _ (hsame ▸ hequal ▸ hbefore entry hmem)
        · rintro ⟨hmem, hapart⟩
          rcases List.mem_cons.mp hmem with rfl | hmem
          · exact absurd hsame.symm hapart
          · exact hmem
      · rename_i _ hapart
        rw [List.mem_cons, List.mem_cons, ih hsorted, or_left_comm, or_and_right]
        refine or_congr_right (or_congr_left ⟨fun hsame => ⟨hsame, ?_⟩, And.left⟩)
        rw [hsame]
        exact Ne.symm hapart

theorem get?_insert (table : NameTable β) (name other : String) (value : β) :
    (table.insert name value).get? other =
      if other = name then some value else table.get? other := by
  ext found
  rw [get?_eq_some_iff, insert, mem_insertEntry_iff table.ascending]
  by_cases hsame : other = name
  · simp [hsame, eq_comm]
  · simp [hsame, get?_eq_some_iff]

/-- The bindings of the second table come first. -/
theorem get?_extend (table other : NameTable β) (name : String) :
    (table.extend other).get? name = (other.get? name).or (table.get? name) := by
  have hwalk (entries : List (String × β)) (hascending : Ascending entries) (table : NameTable β) :
      (entries.foldl (fun table pair => table.insert pair.1 pair.2) table).get? name =
        ((entries.find? (·.1 == name)).map (·.2)).or (table.get? name) := by
    induction entries generalizing table with
    | nil => rfl
    | cons head rest ih =>
      obtain ⟨hbefore, hsorted⟩ := List.pairwise_cons.mp hascending
      rw [List.foldl_cons, ih hsorted, get?_insert]
      by_cases hsame : name = head.1
      · have hmissing : rest.find? (·.1 == name) = none := by
          rw [List.find?_eq_none]
          intro entry hmem hfound
          have hagain : entry.1 = head.1 := (beq_iff_eq.mp hfound).trans hsame
          exact String.lt_irrefl _ (hagain ▸ hbefore entry hmem)
        rw [hmissing, if_pos hsame, List.find?_cons_of_pos (by simp [hsame])]
        rfl
      · rw [if_neg hsame, List.find?_cons_of_neg (by simpa using Ne.symm hsame)]
  exact hwalk other.entries other.ascending table

/-- A new name makes one more entry. -/
theorem perm_insertEntry {name : String} {value : β} {entries : List (String × β)}
    (hfresh : name ∉ entries.map (·.1)) :
    (insertEntry name value entries).Perm ((name, value) :: entries) := by
  induction entries with
  | nil => exact .refl _
  | cons head rest ih =>
    rw [List.map_cons, List.mem_cons, not_or] at hfresh
    unfold insertEntry
    split
    · exact .refl _
    · rw [if_neg hfresh.1]
      exact ((ih hfresh.2).cons head).trans (.swap (name, value) head rest)

/-! ### Tables made of lists -/

theorem mem_of_mem_foldl_insert {pairs : List (String × β)} {table : NameTable β}
    {entry : String × β}
    (hmem : entry ∈ (pairs.foldl (fun table pair => table.insert pair.1 pair.2) table).entries) :
    entry ∈ pairs ∨ entry ∈ table.entries := by
  induction pairs generalizing table with
  | nil => exact .inr hmem
  | cons pair rest ih =>
    rcases ih hmem with hlater | hinserted
    · exact .inl (List.mem_cons_of_mem pair hlater)
    · rcases mem_insertEntry hinserted with rfl | hearlier
      · exact .inl List.mem_cons_self
      · exact .inr hearlier

theorem mem_of_mem_ofList {pairs : List (String × β)} {entry : String × β}
    (hmem : entry ∈ (ofList pairs).entries) : entry ∈ pairs :=
  (mem_of_mem_foldl_insert hmem).resolve_right (List.not_mem_nil)

theorem ofList_concat (front : List (String × β)) (last : String × β) :
    ofList (front ++ [last]) = (ofList front).insert last.1 last.2 := by
  rw [ofList, List.foldl_append]
  rfl

/-- A name behind all others goes to the end. -/
theorem insertEntry_of_lt {name : String} {value : β} {entries : List (String × β)}
    (hlast : ∀ entry ∈ entries, entry.1 < name) :
    insertEntry name value entries = entries ++ [(name, value)] := by
  induction entries with
  | nil => rfl
  | cons head rest ih =>
    obtain ⟨hbefore, hlast⟩ := List.forall_mem_cons.mp hlast
    have hapart : name ≠ head.1 := fun hsame => String.lt_irrefl _ (hsame ▸ hbefore)
    rw [insertEntry, if_neg (String.lt_asymm hbefore), if_neg hapart, ih hlast]
    rfl

theorem entries_ofList {entries : List (String × β)} (hascending : Ascending entries) :
    (ofList entries).entries = entries := by
  induction entries using List.reverseRecOn with
  | nil => rfl
  | append_singleton front last ih =>
    obtain ⟨hsorted, -, hbefore⟩ := List.pairwise_append.mp hascending
    rw [ofList_concat]
    show insertEntry last.1 last.2 (ofList front).entries = front ++ [last]
    rw [ih hsorted]
    exact insertEntry_of_lt fun entry hmem => hbefore entry hmem last (List.mem_singleton_self _)

@[simp]
theorem ofList_entries (table : NameTable β) : ofList table.entries = table :=
  ext_entries (entries_ofList table.ascending)

/-- The names of a table made of a list are those that occur in the list. -/
theorem mem_names_ofList_iff {pairs : List (String × β)} {name : String} :
    name ∈ (ofList pairs).names ↔ name ∈ pairs.map (·.1) := by
  induction pairs using List.reverseRecOn with
  | nil => rfl
  | append_singleton front last ih =>
    rw [mem_names_iff] at ih ⊢
    rw [ofList_concat, get?_insert, List.map_append, List.mem_append, ← ih]
    by_cases hsame : name = last.1
    · simp [hsame]
    · simp [hsame]

/-- Where the names of the pairs differ, each of them keeps its value. -/
theorem get?_ofList {pairs : List (String × β)} (hdistinct : (pairs.map (·.1)).Nodup)
    {name : String} {value : β} (hmem : (name, value) ∈ pairs) :
    (ofList pairs).get? name = some value := by
  induction pairs using List.reverseRecOn with
  | nil => cases hmem
  | append_singleton front last ih =>
    rw [Sequencing.nodup_map_concat_iff] at hdistinct
    rw [ofList_concat, get?_insert]
    rcases List.mem_append.mp hmem with hearlier | hfinal
    · have hapart : name ≠ last.1 := fun hsame =>
        hdistinct.1 (List.mem_map.mpr ⟨(name, value), hearlier, hsame⟩)
      rw [if_neg hapart, ih hdistinct.2 hearlier]
    · rw [← List.mem_singleton.mp hfinal, if_pos rfl]

end TensorBench.NameTable
