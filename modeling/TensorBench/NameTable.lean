/-!
Tables keyed by name. The entries stay in strictly ascending order of their names, so that two
tables with the same bindings are equal and every walk over a table follows the order of the names.
-/
namespace TensorBench

/-- Strict ascent of the names of neighbouring entries, hence of all pairs. -/
def Ascending {β : Type} (entries : List (String × β)) : Prop :=
  entries.Pairwise fun a b => a.1 < b.1

structure NameTable (β : Type) where
  entries : List (String × β)
  ascending : Ascending entries

namespace NameTable

variable {β γ : Type}

instance [DecidableEq β] : DecidableEq (NameTable β) := fun a b =>
  if h : a.entries = b.entries then
    isTrue (by cases a; cases b; simp_all)
  else isFalse (fun he => h (he ▸ rfl))

theorem ext_entries {a b : NameTable β} (h : a.entries = b.entries) : a = b := by
  cases a; cases b; simp_all

def empty : NameTable β := ⟨[], List.Pairwise.nil⟩

instance : Inhabited (NameTable β) := ⟨empty⟩

def insertEntry (name : String) (value : β) : List (String × β) → List (String × β)
  | [] => [(name, value)]
  | (key, old) :: rest =>
      if name < key then (name, value) :: (key, old) :: rest
      else if name = key then (name, value) :: rest
      else (key, old) :: insertEntry name value rest

theorem mem_insertEntry {name : String} {value : β} {entries : List (String × β)}
    {entry : String × β} (h : entry ∈ insertEntry name value entries) :
    entry = (name, value) ∨ entry ∈ entries := by
  induction entries with
  | nil => simpa [insertEntry] using h
  | cons head rest ih =>
    unfold insertEntry at h
    split at h
    · simpa using h
    · split at h
      · rcases List.mem_cons.1 h with rfl | h
        · exact Or.inl rfl
        · exact Or.inr (List.mem_cons_of_mem _ h)
      · rcases List.mem_cons.1 h with rfl | h
        · exact Or.inr List.mem_cons_self
        · exact (ih h).imp_right (List.mem_cons_of_mem _)

theorem lt_of_not_lt_of_ne {a b : String} (h : ¬ a < b) (hne : a ≠ b) : b < a := by
  rcases Decidable.em (b < a) with hlt | hge
  · exact hlt
  · exact absurd (String.le_antisymm (String.not_lt.1 hge) (String.not_lt.1 h)) hne

theorem ascending_insertEntry {name : String} {value : β} {entries : List (String × β)}
    (h : Ascending entries) : Ascending (insertEntry name value entries) := by
  induction entries with
  | nil => simp [insertEntry, Ascending]
  | cons head rest ih =>
    obtain ⟨hbefore, hsorted⟩ := List.pairwise_cons.1 h
    unfold insertEntry
    split
    · rename_i hlt
      refine List.pairwise_cons.2 ⟨fun entry hmem => ?_, h⟩
      rcases List.mem_cons.1 hmem with rfl | hmem
      · exact hlt
      · exact String.lt_trans hlt (hbefore entry hmem)
    · split
      · rename_i _ heq
        refine List.pairwise_cons.2 ⟨fun entry hmem => ?_, hsorted⟩
        exact heq ▸ hbefore entry hmem
      · rename_i hnlt hne
        refine List.pairwise_cons.2 ⟨fun entry hmem => ?_, ih hsorted⟩
        rcases mem_insertEntry hmem with rfl | hmem
        · exact lt_of_not_lt_of_ne hnlt hne
        · exact hbefore entry hmem

/-- Bind a name, replacing any earlier value. -/
def insert (table : NameTable β) (name : String) (value : β) : NameTable β :=
  ⟨insertEntry name value table.entries, ascending_insertEntry table.ascending⟩

def get? (table : NameTable β) (name : String) : Option β :=
  (table.entries.find? (·.1 == name)).map (·.2)

def contains (table : NameTable β) (name : String) : Bool :=
  (table.get? name).isSome

def isEmpty (table : NameTable β) : Bool := table.entries.isEmpty

def names (table : NameTable β) : List String := table.entries.map (·.1)

/-- A later pair wins over an earlier pair of the same name. -/
def ofList (pairs : List (String × β)) : NameTable β :=
  pairs.foldl (fun table pair => table.insert pair.1 pair.2) empty

/-- The bindings of both tables, those of the second winning. -/
def extend (table other : NameTable β) : NameTable β :=
  other.entries.foldl (fun table pair => table.insert pair.1 pair.2) table

theorem map_fst_traverse {f : String × β → Except ε γ} :
    ∀ {entries : List (String × β)} {image : List (String × γ)},
      entries.mapM (fun entry => (f entry).map (Prod.mk entry.1)) = .ok image →
        image.map (·.1) = entries.map (·.1)
  | [], image, h => by
      cases h
      rfl
  | entry :: rest, image, h => by
      rw [List.mapM_cons] at h
      cases he : f entry with
      | error e => rw [he] at h; cases h
      | ok value =>
        cases hr : rest.mapM (fun entry => (f entry).map (Prod.mk entry.1)) with
        | error e => rw [he, hr] at h; cases h
        | ok tail =>
          rw [he, hr] at h
          cases h
          simp [map_fst_traverse hr]

theorem ascending_iff_names {entries : List (String × β)} :
    Ascending entries ↔ (entries.map (·.1)).Pairwise (· < ·) := by
  simp [Ascending, List.pairwise_map]

/-- Rework every value in the order of the names; the first failure ends the walk. -/
def traverse (table : NameTable β) (f : String × β → Except ε γ) : Except ε (NameTable γ) :=
  match h : table.entries.mapM (fun entry => (f entry).map (Prod.mk entry.1)) with
  | .error e => .error e
  | .ok image => .ok ⟨image, by
      rw [ascending_iff_names, map_fst_traverse h, ← ascending_iff_names]
      exact table.ascending⟩

end NameTable

end TensorBench
