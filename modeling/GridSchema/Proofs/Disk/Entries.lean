import GridSchema.Disk.Basic
import GridSchema.Proofs.Basic

/-! What stands where on a disk, and how that survives changes: as long as the directories stay, a
path that leads to a file goes on leading to it until that file's own name is taken away. -/

namespace GridSchema.Disk

variable {disk before after : Disk} {path : String} {location : Location} {number : Nat}

/-! ### Entries after a change -/

@[simp] theorem entryAt?_addFile (disk : Disk) (location other : Location) :
    (disk.addFile location).entryAt? other =
      (disk.entryAt? other).or
        (if other = location then some (.file disk.files.length) else none) := by
  unfold entryAt? addFile
  split
  · rfl
  · by_cases h : other = location
    · simp [List.lookup_append, h]
    · simp [List.lookup_append, List.lookup_cons, beq_eq_false_iff_ne.mpr h, h]

@[simp] theorem entryAt?_addDir (disk : Disk) (location other : Location) :
    (disk.addDir location).entryAt? other =
      (disk.entryAt? other).or (if other = location then some .directory else none) := by
  unfold entryAt? addDir
  split
  · rfl
  · by_cases h : other = location
    · simp [List.lookup_append, h]
    · simp [List.lookup_append, List.lookup_cons, beq_eq_false_iff_ne.mpr h, h]

/-- Only the root cannot be taken away. -/
theorem entryAt?_unlink (disk : Disk) (h : location ≠ []) (other : Location) :
    (disk.unlink location).entryAt? other =
      if other = location then none else disk.entryAt? other := by
  unfold entryAt? unlink
  by_cases ho : other = []
  · simp [ho, Ne.symm h]
  · simp [ho, lookup_filter_ne]

@[simp] theorem entryAt?_change (disk : Disk) (number : Nat) (f : FileState → FileState) :
    (disk.change number f).entryAt? = disk.entryAt? := rfl

/-- Every name of a file stands for a file that there is. -/
theorem lt_of_entryAt? (h : disk.entryAt? location = some (.file number)) :
    number < disk.files.length := by
  unfold entryAt? at h
  split at h
  · cases h
  · obtain ⟨front, back, split, -⟩ := List.lookup_eq_some_iff.mp h
    exact disk.numbered location number (by simp [split])

/-! ### What a path leads to -/

theorem enter_eq_ok_iff {dir : Location} {name : String} {entry : Entry} :
    disk.enter dir name = .ok (location, entry) ↔
      name = "." ∧ location = dir ∧ entry = .directory ∨
      name = ".." ∧ location = dir.dropLast ∧ entry = .directory ∨
      name ≠ "." ∧ name ≠ ".." ∧ name.utf8ByteSize ≤ maxName ∧ location = dir ++ [name] ∧
        disk.entryAt? location = some entry := by
  unfold enter
  split_ifs with dot dots long
  · simp [dot, @eq_comm _ dir location, @eq_comm _ Entry.directory entry]
  · simp [dots, @eq_comm _ dir.dropLast location, @eq_comm _ Entry.directory entry]
  · simp [dot, dots, Nat.not_le.mpr long]
  · simp only [dot, dots, Nat.not_lt.mp long, false_and, false_or, ne_eq, not_false_eq_true,
      true_and]
    cases h : disk.entryAt? (dir ++ [name]) with
    | none =>
      constructor
      · intro found
        cases found
      · rintro ⟨rfl, he⟩
        simp [h] at he
    | some e =>
      constructor
      · intro found
        cases found
        exact ⟨rfl, h⟩
      · rintro ⟨rfl, he⟩
        rw [h] at he
        cases he
        rfl

theorem find_eq_ok_iff {address : Address} {entry : Entry} :
    disk.find address = .ok (location, entry) ↔
      address.parts = [] ∧ location = disk.origin address ∧ entry = .directory ∨
      ∃ last dir, address.parts.getLast? = some last ∧
        disk.walk (disk.origin address) address.parts.dropLast = .ok dir ∧
        disk.enter dir last = .ok (location, entry) ∧
        (address.endsInSlash = true → entry = .directory) := by
  unfold find
  cases hlast : address.parts.getLast? with
  | none =>
    have : address.parts = [] := List.getLast?_eq_none_iff.mp hlast
    simp [this, @eq_comm _ location, @eq_comm _ entry]
  | some last =>
    have : address.parts ≠ [] := by rintro h; simp [h] at hlast
    simp only [this, false_and, false_or, bind_eq_ok, Prod.exists]
    constructor
    · rintro ⟨dir, walked, inner, kind, entered, result⟩
      cases kind with
      | directory =>
        cases result
        exact ⟨last, dir, rfl, walked, entered, fun _ => rfl⟩
      | file number =>
        simp only at result
        split_ifs at result with slash
        · cases result
          exact ⟨last, dir, rfl, walked, entered, fun h => absurd h slash⟩
    · rintro ⟨_, dir, ⟨⟩, walked, entered, slash⟩
      refine ⟨dir, walked, location, entry, entered, ?_⟩
      cases entry with
      | directory => rfl
      | file number =>
        have : address.endsInSlash = false := by
          cases h : address.endsInSlash with
          | false => rfl
          | true => exact nomatch slash h
        simp [this]
        rfl

theorem lookup_eq_ok_iff {found : Location × Entry} :
    disk.lookup path = .ok found ↔
      ∃ address, Address.parse path = .ok address ∧ disk.find address = .ok found :=
  bind_eq_ok

theorem pathExists_eq_true_iff :
    disk.pathExists path = true ↔ ∃ found, disk.lookup path = .ok found := by
  unfold pathExists
  cases disk.lookup path with
  | error fault => exact ⟨fun h => (nomatch h), fun ⟨_, h⟩ => (nomatch h)⟩
  | ok found => exact ⟨fun _ => ⟨found, rfl⟩, fun _ => rfl⟩

theorem entryAt?_of_lookup (h : disk.lookup path = .ok (location, .file number)) :
    disk.entryAt? location = some (.file number) := by
  obtain ⟨address, -, found⟩ := lookup_eq_ok_iff.mp h
  rcases find_eq_ok_iff.mp found with ⟨_, _, h⟩ | ⟨_, _, _, _, entered, _⟩
  · cases h
  · rcases enter_eq_ok_iff.mp entered with ⟨_, _, h⟩ | ⟨_, _, h⟩ | ⟨_, _, _, _, he⟩
    · cases h
    · cases h
    · exact he

theorem ne_nil_of_entryAt? (h : disk.entryAt? location = some (.file number)) : location ≠ [] := by
  rintro rfl
  cases h

/-! ### Disks that keep names -/

/-- A disk that keeps the names of another, but for those of files that `kept` does not hold of. -/
structure Keeps (kept : Nat → Prop) (before after : Disk) : Prop where
  workingDir : after.workingDir = before.workingDir
  directory : ∀ location, before.entryAt? location = some .directory →
    after.entryAt? location = some .directory
  file : ∀ location number, kept number → before.entryAt? location = some (.file number) →
    after.entryAt? location = some (.file number)

namespace Keeps

variable {kept : Nat → Prop}

theorem refl (kept : Nat → Prop) (disk : Disk) : Keeps kept disk disk :=
  ⟨rfl, fun _ h => h, fun _ _ _ h => h⟩

theorem trans {middle : Disk} (first : Keeps kept before middle)
    (second : Keeps kept middle after) :
    Keeps kept before after where
  workingDir := second.workingDir.trans first.workingDir
  directory location h := second.directory location (first.directory location h)
  file location number hk h := second.file location number hk (first.file location number hk h)

theorem mono {fewer : Nat → Prop} (keeps : Keeps kept before after)
    (h : ∀ number, fewer number → kept number) : Keeps fewer before after :=
  ⟨keeps.workingDir, keeps.directory,
    fun location number hn => keeps.file location number (h _ hn)⟩

theorem addFile (disk : Disk) (location : Location) : Keeps kept disk (disk.addFile location) where
  workingDir := rfl
  directory other h := by simp [h]
  file other number _ h := by simp [h]

theorem addDir (disk : Disk) (location : Location) : Keeps kept disk (disk.addDir location) where
  workingDir := rfl
  directory other h := by simp [h]
  file other number _ h := by simp [h]

theorem change (disk : Disk) (number : Nat) (f : FileState → FileState) :
    Keeps kept disk (disk.change number f) :=
  ⟨rfl, fun _ h => h, fun _ _ _ h => h⟩

/-- Taking the name of a file away keeps all names of other files. -/
theorem unlink (h : disk.entryAt? location = some (.file number)) :
    Keeps (· ≠ number) disk (disk.unlink location) where
  workingDir := rfl
  directory other ho := by
    have : other ≠ location := by rintro rfl; simp [h] at ho
    rw [entryAt?_unlink disk (ne_nil_of_entryAt? h), if_neg this, ho]
  file other n hn ho := by
    have : other ≠ location := by
      rintro rfl
      exact hn (by simpa [h] using ho.symm)
    rw [entryAt?_unlink disk (ne_nil_of_entryAt? h), if_neg this, ho]

variable (keeps : Keeps kept before after)
include keeps

theorem entry {kind : Entry} (found : before.entryAt? location = some kind)
    (spared : ∀ number, kind = .file number → kept number) :
    after.entryAt? location = some kind := by
  cases kind with
  | directory => exact keeps.directory location found
  | file number => exact keeps.file location number (spared number rfl) found

theorem enter {dir : Location} {name : String} {kind : Entry}
    (found : before.enter dir name = .ok (location, kind))
    (spared : ∀ number, kind = .file number → kept number) :
    after.enter dir name = .ok (location, kind) := by
  rw [enter_eq_ok_iff] at found ⊢
  rcases found with h | h | ⟨dot, dots, short, place, h⟩
  · exact .inl h
  · exact .inr (.inl h)
  · exact .inr (.inr ⟨dot, dots, short, place, keeps.entry h spared⟩)

theorem walk {names : List String} {dir : Location} (found : before.walk dir names = .ok location) :
    after.walk dir names = .ok location := by
  induction names generalizing dir with
  | nil => exact found
  | cons name names ih =>
    unfold Disk.walk at found ⊢
    cases he : before.enter dir name with
    | error fault => simp [he] at found
    | ok entered =>
      obtain ⟨inner, kind⟩ := entered
      cases kind with
      | file number => simp [he] at found
      | directory =>
        rw [he] at found
        rw [keeps.enter he (fun _ h => nomatch h)]
        exact ih found

theorem origin (address : Address) : after.origin address = before.origin address := by
  simp only [Disk.origin, keeps.workingDir]

theorem lookup {kind : Entry} (found : before.lookup path = .ok (location, kind))
    (spared : ∀ number, kind = .file number → kept number) :
    after.lookup path = .ok (location, kind) := by
  obtain ⟨address, parsed, found⟩ := lookup_eq_ok_iff.mp found
  refine lookup_eq_ok_iff.mpr ⟨address, parsed, ?_⟩
  rw [find_eq_ok_iff, keeps.origin]
  rcases find_eq_ok_iff.mp found with h | ⟨last, dir, hlast, walked, entered, slash⟩
  · exact .inl h
  · exact .inr ⟨last, dir, hlast, keeps.walk walked, keeps.enter entered spared, slash⟩

theorem pathExists_eq_false (spared : ∀ number < before.files.length, kept number)
    (absent : after.pathExists path = false) : before.pathExists path = false := by
  cases there : before.lookup path with
  | error fault =>
    rw [pathExists, there]
    rfl
  | ok place =>
    obtain ⟨location, entry⟩ := place
    have still := keeps.lookup there fun number file => by
      subst file
      exact spared number (lt_of_entryAt? (entryAt?_of_lookup there))
    rw [pathExists, still] at absent
    cases absent

end Keeps

end GridSchema.Disk
