import GridSchema.Proofs.Disk.Entries

/-! The files of a disk: what stands in them, how a new one is made and how its name is removed. -/

namespace GridSchema.Disk

variable {disk before after : Disk} {path : String} {location : Location} {number : Nat}

def fileAt? (disk : Disk) (location : Location) : Option FileState :=
  match disk.entryAt? location with
  | some (.file number) => disk.files[number]?
  | _ => none

def bytesAt? (disk : Disk) (path : String) : Option Bytes :=
  match disk.lookup path with
  | .ok (_, .file number) => disk.files[number]?.map FileState.contents
  | _ => none

theorem fileAt?_eq_some_iff {state : FileState} :
    disk.fileAt? location = some state ↔
      ∃ number, disk.entryAt? location = some (.file number) ∧
        disk.files[number]? = some state := by
  unfold fileAt?
  cases h : disk.entryAt? location with
  | none => simp
  | some entry => cases entry <;> simp

/-! ### New files -/

theorem enter_eq_notFound_iff {dir : Location} {name : String} :
    disk.enter dir name = .error .notFound ↔
      name ≠ "." ∧ name ≠ ".." ∧ name.utf8ByteSize ≤ maxName ∧
        disk.entryAt? (dir ++ [name]) = none := by
  unfold enter
  split_ifs with dot dots long
  · simp [dot]
  · simp [dots]
  · simp [Nat.not_le.mpr long]
  · cases h : disk.entryAt? (dir ++ [name]) <;> simp [dot, dots, Nat.not_lt.mp long]

/-- A location is free for an address if the directory around it is there, the last name is a proper
one and nothing has it. -/
theorem free_eq_ok_iff {address : Address} {ofFile : Bool} :
    disk.free address ofFile = .ok location ↔
      ∃ last dir, address.parts.getLast? = some last ∧
        disk.walk (disk.origin address) address.parts.dropLast = .ok dir ∧
        last ≠ "." ∧ last ≠ ".." ∧ last.utf8ByteSize ≤ maxName ∧
        ¬ (ofFile = true ∧ address.endsInSlash = true) ∧
        location = dir ++ [last] ∧ disk.entryAt? location = none := by
  unfold free
  cases hlast : address.parts.getLast? with
  | none => simp
  | some last =>
    simp only [bind_eq_ok]
    constructor
    · rintro ⟨dir, walked, result⟩
      by_cases dots : last = "." ∨ last = ".."
      · rw [if_pos dots] at result
        cases result
      by_cases slash : ofFile = true ∧ address.endsInSlash = true
      · rw [if_neg dots, if_pos slash] at result
        cases result
      rw [if_neg dots, if_neg slash] at result
      split at result
      · cases result
      next missing =>
        cases result
        obtain ⟨dot, dotdot, short, vacant⟩ := enter_eq_notFound_iff.mp missing
        exact ⟨last, dir, rfl, walked, dot, dotdot, short, slash, rfl, vacant⟩
      · cases result
    · rintro ⟨_, dir, ⟨⟩, walked, dot, dotdot, short, slash, rfl, vacant⟩
      refine ⟨dir, walked, ?_⟩
      have missing := enter_eq_notFound_iff.mpr ⟨dot, dotdot, short, vacant⟩
      rw [if_neg (by simp [dot, dotdot]), if_neg slash, missing]
      rfl

/-- Making a file succeeds at a location that was free, below which the path then leads. -/
theorem createFile_eq_ok (h : disk.createFile path = .ok (number, after)) :
    ∃ location, number = disk.files.length ∧ after = disk.addFile location ∧
      disk.entryAt? location = none ∧ disk.pathExists path = false ∧
      after.lookup path = .ok (location, .file number) := by
  obtain ⟨address, parsed, h⟩ := bind_eq_ok.mp h
  obtain ⟨location, isFree, h⟩ := bind_eq_ok.mp h
  cases h
  obtain ⟨last, dir, hlast, walked, dot, dotdot, short, slash, rfl, vacant⟩ :=
    free_eq_ok_iff.mp isFree
  have missing := enter_eq_notFound_iff.mpr ⟨dot, dotdot, short, vacant⟩
  have noSlash : address.endsInSlash ≠ true := fun h => slash ⟨rfl, h⟩
  refine ⟨dir ++ [last], rfl, rfl, vacant, ?_, ?_⟩
  · have absent : disk.lookup path = .error .notFound := by
      simp only [lookup, parsed]
      change disk.find address = _
      simp only [find, hlast, walked]
      change (disk.enter dir last >>= _) = _
      rw [missing]
      rfl
    rw [pathExists, absent]
    rfl
  · have keeps : Keeps (fun _ => True) disk (disk.addFile (dir ++ [last])) := .addFile _ _
    refine lookup_eq_ok_iff.mpr ⟨address, parsed, find_eq_ok_iff.mpr (.inr ⟨last, dir, hlast, ?_⟩)⟩
    refine ⟨by rw [keeps.origin]; exact keeps.walk walked, ?_, fun h => absurd h noSlash⟩
    exact enter_eq_ok_iff.mpr (.inr (.inr ⟨dot, dotdot, short, rfl, by simp [vacant]⟩))

theorem removeFile_of_lookup (h : disk.lookup path = .ok (location, .file number)) :
    disk.removeFile path = .ok (disk.unlink location) := by
  unfold removeFile
  rw [h]
  rfl

/-- Only a name goes. -/
theorem files_of_removeFile (removed : disk.removeFile path = .ok after) :
    after.files = disk.files := by
  obtain ⟨⟨location, entry⟩, -, result⟩ := bind_eq_ok.mp removed
  cases entry <;> cases result
  rfl

/-! ### A disk with one more file -/

def withFile (disk : Disk) (location : Location) (state : FileState) : Disk :=
  (disk.addFile location).change disk.files.length fun _ => state

def withLost (disk : Disk) (state : FileState) : Disk where
  entries := disk.entries
  files := disk.files ++ [state]
  workingDir := disk.workingDir
  numbered := disk.numbered_append state

@[simp] theorem entries_withFile (disk : Disk) (location : Location) (state : FileState) :
    (disk.withFile location state).entries =
      disk.entries ++ [(location, .file disk.files.length)] := rfl

private theorem modify_length_append {α : Type} (front : List α) (last : α) (f : α → α) :
    (front ++ [last]).modify front.length f = front ++ [f last] := by
  induction front with
  | nil => rfl
  | cons head rest ih => simpa using ih

@[simp] theorem files_withFile (disk : Disk) (location : Location) (state : FileState) :
    (disk.withFile location state).files = disk.files ++ [state] :=
  modify_length_append disk.files ⟨[], false⟩ fun _ => state

@[simp] theorem change_withFile (disk : Disk) (location : Location) (state : FileState)
    (f : FileState → FileState) :
    (disk.withFile location state).change disk.files.length f =
      disk.withFile location (f state) := by
  ext1
  · rfl
  · simp only [change, files_withFile, modify_length_append]
  · rfl

@[simp] theorem change_withLost (disk : Disk) (state : FileState) (f : FileState → FileState) :
    (disk.withLost state).change disk.files.length f = disk.withLost (f state) := by
  ext1
  · rfl
  · exact modify_length_append disk.files state f
  · rfl

theorem addFile_eq_withFile (disk : Disk) (location : Location) :
    disk.addFile location = disk.withFile location ⟨[], false⟩ := by
  ext1
  · rfl
  · rw [files_withFile]
    rfl
  · rfl

theorem unlink_withFile (vacant : disk.entryAt? location = none) (state : FileState) :
    (disk.withFile location state).unlink location = disk.withLost state := by
  have absent : ∀ e ∈ disk.entries, e.1 ≠ location := by
    rintro ⟨other, kind⟩ he rfl
    simp only [entryAt?] at vacant
    split_ifs at vacant
    simpa using List.lookup_eq_none_iff.mp vacant _ he
  ext1
  · simpa [unlink, withLost] using absent
  · exact files_withFile disk location state
  · rfl

theorem entryAt?_withFile (disk : Disk) (location : Location) (state : FileState)
    (other : Location) :
    (disk.withFile location state).entryAt? other =
      (disk.entryAt? other).or
        (if other = location then some (.file disk.files.length) else none) := by
  simp [withFile]

/-! ### What is in the files of a disk with one more -/

theorem fileAt?_withLost (disk : Disk) (state : FileState) (location : Location) :
    (disk.withLost state).fileAt? location = disk.fileAt? location := by
  have same : (disk.withLost state).entryAt? location = disk.entryAt? location := rfl
  unfold fileAt?
  rw [same]
  cases h : disk.entryAt? location with
  | none => rfl
  | some entry =>
    cases entry with
    | directory => rfl
    | file number => exact List.getElem?_append_left (lt_of_entryAt? h)

theorem fileAt?_withFile (vacant : disk.entryAt? location = none) (state : FileState)
    (other : Location) :
    (disk.withFile location state).fileAt? other =
      if other = location then some state else disk.fileAt? other := by
  unfold fileAt?
  rw [entryAt?_withFile]
  split_ifs with h
  · subst h
    simp [vacant]
  · cases ho : disk.entryAt? other with
    | none => rfl
    | some entry =>
      cases entry with
      | directory => rfl
      | file number =>
        simp only [Option.or_none, files_withFile]
        exact List.getElem?_append_left (lt_of_entryAt? ho)

/-- What stands in a file does not matter to the path that leads to it. -/
theorem lookup_withFile {state : FileState} {entry : Entry}
    (found : (disk.withFile location state).lookup path = .ok (location, entry))
    (other : FileState) : (disk.withFile location other).lookup path = .ok (location, entry) := by
  have keeps : Keeps (fun _ => True) (disk.withFile location state)
      ((disk.withFile location state).change disk.files.length fun _ => other) :=
    .change _ _ _
  rw [change_withFile] at keeps
  exact keeps.lookup found fun _ _ => trivial

theorem bytesAt?_withFile {bytes : Bytes} {locked : Bool}
    (found : (disk.withFile location ⟨bytes, locked⟩).lookup path =
      .ok (location, .file disk.files.length)) :
    (disk.withFile location ⟨bytes, locked⟩).bytesAt? path = some bytes := by
  simp [bytesAt?, found]

/-- A file that nobody holds adds no lock. -/
theorem isLocked_of_files {bytes : Bytes} (h : after.files = before.files ++ [⟨bytes, false⟩])
    (number : Nat) : after.isLocked number = before.isLocked number := by
  unfold isLocked
  rw [h]
  rcases Nat.lt_trichotomy number before.files.length with lt | rfl | gt
  · rw [List.getElem?_append_left lt]
  · simp
  · rw [List.getElem?_eq_none (by simp; omega), List.getElem?_eq_none (by omega)]

end GridSchema.Disk
