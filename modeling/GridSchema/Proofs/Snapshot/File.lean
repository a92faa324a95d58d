import GridSchema.Proofs.Disk.Existing
import GridSchema.Snapshot.File

/-! What the operations of a snapshot file do to a disk with nobody else on it: they build one more
file, statement by statement, or leave one more file without a name. -/

namespace GridSchema

theorem Disk.overwrite_length (old new : Bytes) : overwrite old.length new old = old ++ new := by
  simp [overwrite]

namespace SnapshotFile

variable {disk after : Disk} {path : String} {location : Location} {file : SnapshotFile}

/-- The lock of a file that was just made is free, whatever other locks are held. -/
theorem isLocked_of_createFile {number : Nat}
    (h : disk.createFile path = .ok (number, after)) : after.isLocked number = false := by
  obtain ⟨location, rfl, rfl, -⟩ := Disk.createFile_eq_ok h
  simp [Disk.isLocked, Disk.addFile]

theorem acquire_of_createFile {number : Nat} (h : disk.createFile path = .ok (number, after)) :
    ∃ location, disk.entryAt? location = none ∧ disk.pathExists path = false ∧
      number = disk.files.length ∧ after = disk.withFile location ⟨[], false⟩ ∧
      (disk.withFile location ⟨[], true⟩).lookup path = .ok (location, .file number) ∧
      acquire disk path = .ok (⟨number, path, 0⟩, disk.withFile location ⟨[], true⟩) := by
  obtain ⟨location, rfl, rfl, vacant, absent, found⟩ := Disk.createFile_eq_ok h
  rw [Disk.addFile_eq_withFile] at h found ⊢
  refine ⟨location, vacant, absent, rfl, rfl, ?_, ?_⟩
  · exact Disk.lookup_withFile found _
  · simp [acquire, h, Disk.setLock]

theorem acquire_eq_ok (h : acquire disk path = .ok (file, after)) :
    ∃ location, disk.entryAt? location = none ∧ disk.pathExists path = false ∧
      file = ⟨disk.files.length, path, 0⟩ ∧ after = disk.withFile location ⟨[], true⟩ ∧
      after.lookup path = .ok (location, .file file.number) := by
  cases hc : disk.createFile path with
  | error fault => cases fault <;> simp [acquire, hc] at h
  | ok made =>
    obtain ⟨number, opened⟩ := made
    obtain ⟨location, vacant, absent, rfl, rfl, found, taken⟩ := acquire_of_createFile hc
    rw [taken] at h
    cases h
    exact ⟨location, vacant, absent, rfl, rfl, found⟩

/-- Nothing is taken where something is. What keeps it from being taken is that it is there, or that
the path can only be that of a directory. -/
theorem acquire_of_pathExists (there : disk.pathExists path = true) :
    acquire disk path =
      .error (if Path.slashed path then .io .isDirectory else .lockContention path) := by
  unfold acquire
  rw [Disk.createFile_of_pathExists there]
  cases Path.slashed path <;> rfl

theorem pathExists_of_contention {blamed : String}
    (refused : acquire disk path = .error (.lockContention blamed)) :
    blamed = path ∧ disk.pathExists path = true := by
  unfold acquire at refused
  cases creation : disk.createFile path with
  | ok made =>
    rw [creation] at refused
    cases refused
  | error fault =>
    rw [creation] at refused
    cases fault <;> cases refused
    exact ⟨rfl, Disk.pathExists_of_createFile creation⟩

theorem append_withFile (disk : Disk) (location : Location) (bytes : Bytes) (locked : Bool)
    (path statement : String) :
    append ⟨disk.files.length, path, bytes.length⟩ (disk.withFile location ⟨bytes, locked⟩)
        statement =
      (⟨disk.files.length, path, (bytes ++ line statement).length⟩,
        disk.withFile location ⟨bytes ++ line statement, locked⟩) := by
  simp [append, Disk.writeAt, Disk.overwrite_length]

theorem release_withFile (disk : Disk) (location : Location) (bytes : Bytes) (locked : Bool)
    (path : String) (written : Nat) :
    release ⟨disk.files.length, path, written⟩ (disk.withFile location ⟨bytes, locked⟩) =
      disk.withFile location ⟨bytes, false⟩ := by
  simp [release, Disk.setLock]

/-- Discarding a file that its path still leads to leaves the names as they were without it. -/
theorem discard_withFile (vacant : disk.entryAt? location = none) {bytes : Bytes} {locked : Bool}
    (found : (disk.withFile location ⟨bytes, locked⟩).lookup path =
      .ok (location, .file disk.files.length)) (written : Nat) :
    discard ⟨disk.files.length, path, written⟩ (disk.withFile location ⟨bytes, locked⟩) =
      disk.withLost ⟨bytes, false⟩ := by
  unfold discard
  rw [Disk.removeFile_of_lookup found]
  simp [Disk.unlink_withFile vacant, release, Disk.setLock]

end SnapshotFile

end GridSchema
