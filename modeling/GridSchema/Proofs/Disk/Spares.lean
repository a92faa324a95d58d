import GridSchema.Proofs.Disk.Directories

/-! Changes that concern one file only. They leave the other files, their names and the directories
as they are, whoever works with those. -/

namespace GridSchema.Disk

variable {disk before middle after : Disk} {path : String} {location : Location} {number : Nat}

/-- A change that spares all files but the one with a number, which may be a new one. -/
structure Spares (number : Nat) (before after : Disk) : Prop where
  keeps : Keeps (· ≠ number) before after
  files : ∀ other ≠ number, after.files[other]? = before.files[other]?
  grows : before.files.length ≤ after.files.length
  names : ∀ location other, other ≠ number → after.entryAt? location = some (.file other) →
    before.entryAt? location = some (.file other)

namespace Spares

theorem refl (number : Nat) (disk : Disk) : Spares number disk disk :=
  ⟨.refl _ _, fun _ _ => rfl, Nat.le_refl _, fun _ _ _ h => h⟩

theorem trans (first : Spares number before middle) (second : Spares number middle after) :
    Spares number before after where
  keeps := first.keeps.trans second.keeps
  files other ne := (second.files other ne).trans (first.files other ne)
  grows := Nat.le_trans first.grows second.grows
  names location other ne h := first.names location other ne (second.names location other ne h)

theorem change (disk : Disk) (number : Nat) (f : FileState → FileState) :
    Spares number disk (disk.change number f) where
  keeps := .change disk number f
  files other ne := by
    change (disk.files.modify number f)[other]? = _
    rw [List.getElem?_modify_ne _ _ (Ne.symm ne)]
  grows := by simp [Disk.change]
  names _ _ _ h := h

theorem addFile (disk : Disk) (location : Location) :
    Spares disk.files.length disk (disk.addFile location) where
  keeps := .addFile disk location
  files other ne := by
    change (disk.files ++ [_])[other]? = _
    rcases Nat.lt_or_gt_of_ne ne with lt | gt
    · rw [List.getElem?_append_left lt]
    · rw [List.getElem?_eq_none (by simp; omega), List.getElem?_eq_none (by omega)]
  grows := by simp [Disk.addFile]
  names place other ne h := by
    rw [entryAt?_addFile] at h
    cases there : disk.entryAt? place with
    | some entry => simpa [there] using h
    | none =>
      rw [there, Option.none_or] at h
      split_ifs at h
      cases h
      exact absurd rfl ne

theorem withFile (disk : Disk) (location : Location) (state : FileState) :
    Spares disk.files.length disk (disk.withFile location state) :=
  (addFile disk location).trans (change _ _ _)

theorem unlink (h : disk.entryAt? location = some (.file number)) :
    Spares number disk (disk.unlink location) where
  keeps := .unlink h
  files _ _ := rfl
  grows := Nat.le_refl _
  names place other _ ho := by
    rw [entryAt?_unlink disk (ne_nil_of_entryAt? h)] at ho
    split_ifs at ho
    exact ho

theorem of_onlyDirs (only : OnlyDirs before after) (number : Nat) : Spares number before after where
  keeps := only.keeps _
  files _ _ := by rw [only.files]
  grows := Nat.le_of_eq (by rw [only.files])
  names _ _ _ h := only.entryAt?_file.mp h

end Spares

end GridSchema.Disk
