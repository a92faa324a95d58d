import GridSchema.Proofs.Disk.Directories
import GridSchema.Snapshot.Name

/-! Disks with the same names on them. What is in their files does not matter to the directories and
files that are made on them, nor to the names that these get. -/

namespace GridSchema

namespace Disk

theorem createFile_eq_map (disk : Disk) (path : String) :
    disk.createFile path = ((Address.parse path).bind (disk.free · true)).map fun location =>
      (disk.files.length, disk.addFile location) := by
  unfold Disk.createFile
  cases Address.parse path with
  | error fault => rfl
  | ok address =>
    change (disk.free address true >>= _) = (disk.free address true).map _
    cases disk.free address true <;> rfl

theorem makeDir_eq_map (disk : Disk) (address : Address) :
    disk.makeDir address = (disk.free address false).map disk.addDir := by
  unfold makeDir
  cases disk.free address false <;> rfl

structure SameNames (disk disk' : Disk) : Prop where
  entries : disk'.entries = disk.entries
  workingDir : disk'.workingDir = disk.workingDir

namespace SameNames

variable {disk disk' : Disk}

theorem refl (disk : Disk) : SameNames disk disk :=
  ⟨rfl, rfl⟩

theorem addDir (same : SameNames disk disk') (location : Location) :
    SameNames (disk.addDir location) (disk'.addDir location) where
  entries := congrArg (· ++ [(location, Entry.directory)]) same.entries
  workingDir := same.workingDir

variable (same : SameNames disk disk')
include same

/-! ### What is found -/

theorem entryAt? (location : Location) : disk'.entryAt? location = disk.entryAt? location := by
  unfold Disk.entryAt?
  rw [same.entries]

theorem enter (dir : Location) (name : String) : disk'.enter dir name = disk.enter dir name := by
  unfold Disk.enter
  rw [same.entryAt?]

theorem walk (dir : Location) (names : List String) :
    disk'.walk dir names = disk.walk dir names := by
  induction names generalizing dir with
  | nil => rfl
  | cons name names ih =>
    unfold Disk.walk
    rw [same.enter]
    cases disk.enter dir name with
    | error fault => rfl
    | ok found =>
      obtain ⟨location, entry⟩ := found
      cases entry with
      | directory => exact ih location
      | file number => rfl

theorem origin (address : Address) : disk'.origin address = disk.origin address := by
  unfold Disk.origin
  rw [same.workingDir]

theorem find (address : Address) : disk'.find address = disk.find address := by
  unfold Disk.find
  simp only [same.origin, same.walk, same.enter]

theorem lookup (path : String) : disk'.lookup path = disk.lookup path := by
  unfold Disk.lookup
  simp only [same.find]

theorem names (path : String) : disk'.names path = disk.names path := by
  unfold Disk.names
  simp only [same.lookup, same.entries]

theorem nextPath (dir base : String) :
    Snapshot.nextPath disk' dir base = Snapshot.nextPath disk dir base := by
  unfold Snapshot.nextPath Disk.pathExists
  simp only [same.lookup, same.names]

/-! ### What is made -/

theorem free (address : Address) (ofFile : Bool) :
    disk'.free address ofFile = disk.free address ofFile := by
  unfold Disk.free
  simp only [same.origin, same.walk, same.enter]

theorem createFile (path : String) :
    (∃ fault, disk.createFile path = .error fault ∧ disk'.createFile path = .error fault) ∨
      ∃ made made', disk.createFile path = .ok made ∧ disk'.createFile path = .ok made' := by
  rw [createFile_eq_map, createFile_eq_map]
  simp only [same.free]
  cases (Address.parse path).bind (disk.free · true) with
  | error fault => exact .inl ⟨fault, rfl, rfl⟩
  | ok location => exact .inr ⟨_, _, rfl, rfl⟩

theorem isDir (address : Address) : disk'.isDir address = disk.isDir address := by
  unfold Disk.isDir
  rw [same.find]

theorem ensureDir (address : Address) :
    (∃ fault, disk.ensureDir address = .error fault ∧ disk'.ensureDir address = .error fault) ∨
      ∃ made made', disk.ensureDir address = .ok made ∧ disk'.ensureDir address = .ok made' ∧
        SameNames made made' := by
  unfold Disk.ensureDir
  rw [makeDir_eq_map, makeDir_eq_map, same.free, same.isDir]
  cases disk.free address false with
  | ok location => exact .inr ⟨_, _, rfl, rfl, same.addDir location⟩
  | error fault =>
    cases disk.isDir address with
    | true => exact .inr ⟨_, _, rfl, rfl, same⟩
    | false => exact .inl ⟨fault, rfl, rfl⟩

theorem ensureDir_ok {address : Address} {made : Disk} (ok : disk.ensureDir address = .ok made) :
    ∃ made', disk'.ensureDir address = .ok made' ∧ SameNames made made' := by
  obtain ⟨fault, failed, -⟩ | ⟨_, made', ok₀, ok', same'⟩ := same.ensureDir address
  · cases failed.symm.trans ok
  · cases ok₀.symm.trans ok
    exact ⟨made', ok', same'⟩

theorem ensureDir_error {address : Address} {fault : IoFault}
    (failed : disk.ensureDir address = .error fault) : disk'.ensureDir address = .error fault := by
  obtain ⟨_, failed₀, failed'⟩ | ⟨made, -, ok, -⟩ := same.ensureDir address
  · cases failed₀.symm.trans failed
    exact failed'
  · cases ok.symm.trans failed

omit same in
theorem makeParts (disk : Disk) (absolute : Bool) (parts : List String) :
    ∀ {disk' : Disk}, SameNames disk disk' →
      ∃ after', disk'.makeParts absolute parts = ((disk.makeParts absolute parts).1, after') ∧
        SameNames (disk.makeParts absolute parts).2 after' := by
  -- the second disk is bound in the conclusion, since it changes whenever the first one does
  fun_induction Disk.makeParts disk absolute parts
  case case1 =>
    intro disk' same
    exact ⟨disk', by rw [Disk.makeParts], same⟩
  case case2 last above address made there =>
    intro disk' same
    obtain ⟨made', there', same'⟩ := same.ensureDir_ok there
    exact ⟨made', by rw [Disk.makeParts, there'], same'⟩
  case case3 last above address missing fault middle failed ih =>
    intro disk' same
    have missing' := same.ensureDir_error missing
    obtain ⟨middle', failed', around⟩ := ih same
    rw [failed] at failed' around
    exact ⟨middle', by rw [Disk.makeParts, missing', failed'], around⟩
  case case4 last above address missing done middle passed made there ih =>
    intro disk' same
    have missing' := same.ensureDir_error missing
    obtain ⟨middle', passed', around⟩ := ih same
    rw [passed] at passed' around
    obtain ⟨made', there', same'⟩ := around.ensureDir_ok there
    refine ⟨made', ?_, same'⟩
    rw [Disk.makeParts, missing', passed']
    dsimp only
    rw [there']
  case case5 last above address missing done middle passed fault failed ih =>
    intro disk' same
    have missing' := same.ensureDir_error missing
    obtain ⟨middle', passed', around⟩ := ih same
    rw [passed] at passed' around
    have failed' := around.ensureDir_error failed
    refine ⟨middle', ?_, around⟩
    rw [Disk.makeParts, missing', passed']
    dsimp only
    rw [failed']
  case case6 last above address fault notMissing failed =>
    intro disk' same
    have failed' := same.ensureDir_error failed
    refine ⟨disk', ?_, same⟩
    rw [Disk.makeParts, failed']
    cases fault <;> first | rfl | exact absurd rfl notMissing

theorem makeDirs (path : String) :
    ∃ after', disk'.makeDirs path = ((disk.makeDirs path).1, after') ∧
      SameNames (disk.makeDirs path).2 after' := by
  unfold Disk.makeDirs
  by_cases blank : path.isEmpty = true
  · rw [if_pos blank, if_pos blank]
    exact ⟨disk', rfl, same⟩
  · rw [if_neg blank, if_neg blank]
    cases Address.parse path with
    | error fault => exact ⟨disk', rfl, same⟩
    | ok address => exact makeParts disk address.absolute address.parts.reverse same

end SameNames

end Disk

end GridSchema
