import GridSchema.Proofs.Disk.Directories
import GridSchema.Proofs.Disk.Path

/-! What is listed in a directory, and what one more file in it changes: its name comes last, and
what was there keeps its name and its bytes. -/

namespace GridSchema.Disk

variable {disk before middle after : Disk} {path dir name : String} {around location : Location}

def namesAt (disk : Disk) (around : Location) : List String :=
  disk.entries.filterMap fun (location, _) =>
    if location.dropLast = around then location.getLast? else none

def content (disk : Disk) (dir : String) : List String :=
  match disk.names dir with
  | .ok names => names
  | .error _ => []

theorem names_eq_namesAt (listed : disk.lookup dir = .ok (around, .directory)) :
    disk.names dir = .ok (disk.namesAt around) := by
  unfold names
  rw [listed]
  rfl

theorem content_eq_namesAt (listed : disk.lookup dir = .ok (around, .directory)) :
    disk.content dir = disk.namesAt around := by
  rw [content, names_eq_namesAt listed]

theorem mem_namesAt_iff :
    name ∈ disk.namesAt around ↔ disk.entryAt? (around ++ [name]) ≠ none := by
  have below : (around ++ [name]).isEmpty = false := by simp
  unfold namesAt entryAt?
  rw [below, List.mem_filterMap, if_neg Bool.false_ne_true, ne_eq, List.lookup_eq_none_iff]
  constructor
  · rintro ⟨⟨place, entry⟩, kept, last⟩ absent
    obtain ⟨inside, last⟩ := Option.ite_none_right_eq_some.mp last
    obtain ⟨front, rfl⟩ := List.getLast?_eq_some_iff.mp last
    obtain rfl : front = around := by simpa using inside
    exact absurd (absent _ kept) (by simp)
  · intro present
    obtain ⟨⟨place, entry⟩, listed⟩ := Classical.not_forall.mp present
    obtain ⟨kept, same⟩ := Classical.not_imp.mp listed
    obtain rfl : around ++ [name] = place := by simpa using same
    exact ⟨_, kept, by simp⟩

theorem namesAt_withFile (disk : Disk) (around : Location) (name : String) (state : FileState) :
    (disk.withFile (around ++ [name]) state).namesAt around = disk.namesAt around ++ [name] := by
  simp [namesAt]

/-! ### Disks with one more file -/

theorem Keeps.withFile {kept : Nat → Prop} (disk : Disk) (location : Location) (state : FileState) :
    Keeps kept disk (disk.withFile location state) :=
  (Keeps.addFile disk location).trans (.change _ _ _)

/-- Without the new file its name is all that is missing. -/
theorem Keeps.withoutFile (disk : Disk) (location : Location) (state : FileState) :
    Keeps (· ≠ disk.files.length) (disk.withFile location state) disk where
  workingDir := rfl
  directory other h := by
    rw [entryAt?_withFile] at h
    cases there : disk.entryAt? other with
    | some entry => simpa [there] using h
    | none => split_ifs at h <;> simp [there] at h
  file other number old h := by
    rw [entryAt?_withFile] at h
    cases there : disk.entryAt? other with
    | some entry => simpa [there] using h
    | none =>
      split_ifs at h
      · simp [there, Ne.symm old] at h
      · simp [there] at h

/-- A directory that a new file stands in was there before it. -/
theorem lookup_directory_withFile {state : FileState} :
    (disk.withFile location state).lookup dir = .ok (around, .directory) ↔
      disk.lookup dir = .ok (around, .directory) := by
  constructor
  · intro found
    exact (Keeps.withoutFile disk location state).lookup found (by simp)
  · intro found
    have keeps : Keeps (fun _ => True) disk (disk.withFile location state) := .withFile _ _ _
    exact keeps.lookup found fun _ _ => trivial

/-! ### Bytes that stay -/

/-- What a path leads to on one disk holds the same bytes on another. -/
def Preserves (before after : Disk) : Prop :=
  ∀ path bytes, before.bytesAt? path = some bytes → after.bytesAt? path = some bytes

theorem bytesAt?_eq_some_iff {bytes : Bytes} :
    disk.bytesAt? path = some bytes ↔
      ∃ location number state, disk.lookup path = .ok (location, .file number) ∧
        disk.files[number]? = some state ∧ state.contents = bytes := by
  unfold bytesAt?
  cases found : disk.lookup path with
  | error fault => simp
  | ok place =>
    obtain ⟨location, _ | number⟩ := place
    · simp
    · simp only [Option.map_eq_some_iff, Except.ok.injEq, Prod.mk.injEq, Entry.file.injEq]
      constructor
      · rintro ⟨state, there, rfl⟩
        exact ⟨location, number, state, ⟨rfl, rfl⟩, there, rfl⟩
      · rintro ⟨_, _, state, ⟨rfl, rfl⟩, there, rfl⟩
        exact ⟨state, there, rfl⟩

namespace Preserves

theorem refl (disk : Disk) : Preserves disk disk :=
  fun _ _ h => h

theorem trans (first : Preserves before middle) (second : Preserves middle after) :
    Preserves before after :=
  fun path bytes h => second path bytes (first path bytes h)

/-- Files that keep their names and numbers keep their bytes at their paths. -/
theorem of_keeps {added : List FileState} (keeps : Keeps (fun _ => True) before after)
    (files : after.files = before.files ++ added) : Preserves before after := by
  intro path bytes held
  obtain ⟨location, number, state, found, there, rfl⟩ := bytesAt?_eq_some_iff.mp held
  refine bytesAt?_eq_some_iff.mpr ⟨location, number, state, ?_, ?_, rfl⟩
  · exact keeps.lookup found fun _ _ => trivial
  · obtain ⟨old, -⟩ := List.getElem?_eq_some_iff.mp there
    rw [files, List.getElem?_append_left old, there]

theorem of_onlyDirs (only : OnlyDirs before after) : Preserves before after :=
  of_keeps (only.keeps _) (only.files.trans (List.append_nil _).symm)

theorem withFile (disk : Disk) (location : Location) (state : FileState) :
    Preserves disk (disk.withFile location state) :=
  of_keeps (.withFile disk location state) (files_withFile disk location state)

theorem withLost (disk : Disk) (state : FileState) : Preserves disk (disk.withLost state) :=
  of_keeps ⟨rfl, fun _ h => h, fun _ _ _ h => h⟩ rfl

end Preserves

end GridSchema.Disk
