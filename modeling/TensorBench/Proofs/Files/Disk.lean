import TensorBench.Files.Disk

/-!
Reading a disk after a write. A write that succeeds puts a file where no directory was and leaves all
other entries as they were. No path passes through the new file that did not fail before, so every
path still leads where it led.
-/
namespace TensorBench.Disk

variable {disk : Disk} {parts other : List String} {path : String} {bytes : Bytes}

theorem get?_set_self (disk : Disk) (parts : List String) (entry : DiskEntry) :
    (disk.set parts entry).get? parts = some entry := by
  simp [get?, set]

theorem get?_set_of_ne (disk : Disk) (entry : DiskEntry) (h : other ≠ parts) :
    (disk.set parts entry).get? other = disk.get? other := by
  rw [get?, set, List.find?_cons_of_neg (by simpa using h.symm), List.find?_filter, get?]
  congr 2
  funext found
  by_cases hfound : found.1 = other
  · simp [hfound, h]
  · simp [hfound]

/-- A path that does not end in a place passes only through directories, hence not through it. -/
theorem walk_set (entry : DiskEntry) (hfree : disk.get? parts ≠ some .directory)
    {here rest last : List String} (h : disk.walk here rest = .ok last) :
    (disk.set parts entry).walk here rest = .ok last := by
  induction rest generalizing here with
  | nil => exact h
  | cons part rest ih =>
    rw [walk] at h ⊢
    cases hentry : disk.get? here with
    | none => simp [hentry] at h
    | some found =>
      cases found with
      | file bytes => simp [hentry] at h
      | directory =>
        have hne : here ≠ parts := fun heq => hfree (heq ▸ hentry)
        simp only [get?_set_of_ne disk entry hne, hentry] at h ⊢
        by_cases hstay : part = "" ∨ part = "."
        · rw [if_pos hstay] at h ⊢
          exact ih h
        · rw [if_neg hstay] at h ⊢
          by_cases hup : part = ".."
          · rw [if_pos hup] at h ⊢
            exact ih h
          · rw [if_neg hup] at h ⊢
            exact ih h

theorem resolve_set (entry : DiskEntry) (hfree : disk.get? parts ≠ some .directory)
    {last : List String} (h : disk.resolve path = .ok last) :
    (disk.set parts entry).resolve path = .ok last := by
  unfold resolve at h ⊢
  by_cases houtside : path = "" ∨ Path.isAbsolute path
  · rw [if_pos houtside] at h
    cases h
  · rw [if_neg houtside] at h ⊢
    exact walk_set entry hfree h

theorem read_eq_ok_iff (disk : Disk) (path : String) (bytes : Bytes) :
    disk.read path = .ok bytes ↔
      ∃ parts, disk.resolve path = .ok parts ∧ disk.get? parts = some (.file bytes) := by
  unfold read
  cases disk.resolve path with
  | error reason => simp [bind, Except.bind]
  | ok parts =>
    cases hentry : disk.get? parts with
    | none => simp [bind, Except.bind, hentry]
    | some entry => cases entry <;> simp [bind, Except.bind, hentry]

/-- A write succeeds if its path leads to a place in a directory that is not one itself. -/
theorem write_eq_ok_iff (disk : Disk) (path : String) (bytes : Bytes) :
    (disk.write path bytes).1 = .ok () ↔
      ∃ parts, disk.resolve path = .ok parts ∧ disk.get? parts ≠ some .directory ∧
        disk.get? parts.dropLast = some .directory := by
  unfold write
  cases disk.resolve path with
  | error reason => simp
  | ok parts =>
    dsimp only
    split
    · next hdirectory => simp [hdirectory]
    · next hparent hfree => simpa [hparent] using hfree
    · next hparent _ => simp [hparent]
    · next hparent _ => simp [hparent]

theorem write_eq_set (h : (disk.write path bytes).1 = .ok ()) :
    ∃ parts, disk.resolve path = .ok parts ∧ disk.get? parts ≠ some .directory ∧
      (disk.write path bytes).2 = disk.set parts (.file bytes) := by
  obtain ⟨parts, hresolve, hfree, hparent⟩ := (write_eq_ok_iff disk path bytes).mp h
  refine ⟨parts, hresolve, hfree, ?_⟩
  simp only [write, hresolve]
  split
  · next hdirectory => exact absurd hdirectory hfree
  · rfl
  · next hfile _ => cases hparent.symm.trans hfile
  · next hnone _ => cases hparent.symm.trans hnone

theorem read_write_self (h : (disk.write path bytes).1 = .ok ()) :
    (disk.write path bytes).2.read path = .ok bytes := by
  obtain ⟨parts, hresolve, hfree, hwrite⟩ := write_eq_set h
  rw [hwrite, read_eq_ok_iff]
  exact ⟨parts, resolve_set _ hfree hresolve, get?_set_self disk parts _⟩

/-- Files elsewhere keep their contents. -/
theorem read_write_of_ne (h : (disk.write path bytes).1 = .ok ()) {other : String}
    {contents : Bytes} (hread : disk.read other = .ok contents)
    (hne : disk.resolve other ≠ disk.resolve path) :
    (disk.write path bytes).2.read other = .ok contents := by
  obtain ⟨parts, hresolve, hfree, hwrite⟩ := write_eq_set h
  obtain ⟨place, hplace, hcontents⟩ := (read_eq_ok_iff disk other contents).mp hread
  have hapart : place ≠ parts := fun heq => hne (by rw [hplace, hresolve, heq])
  rw [hwrite, read_eq_ok_iff]
  exact ⟨place, resolve_set _ hfree hplace, (get?_set_of_ne disk _ hapart).trans hcontents⟩

end TensorBench.Disk
