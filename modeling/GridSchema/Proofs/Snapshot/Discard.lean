import GridSchema.Proofs.Snapshot.Handles

/-! What a discard removes. A handle has its file by number, but a discard goes by the path. That is
the same as long as the file has its name: no file that was taken ever stands anywhere but at the
path of its handle. Once others have removed the name, the path is that of another file or of none,
and a discard removes what is there. -/

namespace GridSchema

namespace Disk

variable {disk before after : Disk} {path : String} {location : Location} {number other : Nat}

/-- A file that stands where a path leads, or nowhere. -/
structure OnlyAt (disk : Disk) (path : String) (number : Nat) : Prop where
  there : number < disk.files.length
  leads : ∀ location, disk.entryAt? location = some (.file number) →
    disk.lookup path = .ok (location, .file number)

namespace OnlyAt

theorem of_lookup {state : FileState}
    (found : (disk.withFile location state).lookup path = .ok (location, .file disk.files.length)) :
    (disk.withFile location state).OnlyAt path disk.files.length where
  there := by simp
  leads place named := by
    rw [entryAt?_withFile] at named
    cases there : disk.entryAt? place with
    | some entry =>
      rw [there, Option.some_or] at named
      cases named
      exact absurd (lt_of_entryAt? there) (Nat.lt_irrefl _)
    | none =>
      rw [there, Option.none_or] at named
      split_ifs at named with here
      exact here ▸ found

/-- A change of another file, or a new one, leaves it where it stood. -/
theorem spares (only : before.OnlyAt path number) (spares : Spares other before after)
    (ne : number ≠ other) : after.OnlyAt path number where
  there := Nat.lt_of_lt_of_le only.there spares.grows
  leads location named := by
    have led := only.leads location (spares.names location number ne named)
    refine spares.keeps.lookup led ?_
    rintro _ ⟨⟩
    exact ne

theorem change (only : disk.OnlyAt path number) (f : FileState → FileState) :
    (disk.change other f).OnlyAt path number where
  there := by simpa [Disk.change] using only.there
  leads location named := by
    have keeps : Keeps (fun _ => True) disk (disk.change other f) := .change disk other f
    exact keeps.lookup (only.leads location named) fun _ _ => trivial

theorem unlink (only : disk.OnlyAt path number)
    (there : disk.entryAt? location = some (.file other)) :
    (disk.unlink location).OnlyAt path number := by
  by_cases own : number = other
  · -- It had no other name, so that none is left that could lead anywhere else.
    subst own
    refine ⟨only.there, fun place named => ?_⟩
    rw [entryAt?_unlink disk (ne_nil_of_entryAt? there)] at named
    split_ifs at named with here
    have led := (only.leads place named).symm.trans (only.leads location there)
    cases led
    exact absurd rfl here
  · exact only.spares (.unlink there) own

theorem removeFile (only : disk.OnlyAt path number) {removed : String}
    (gone : disk.removeFile removed = .ok after) : after.OnlyAt path number := by
  obtain ⟨⟨location, entry⟩, found, result⟩ := bind_eq_ok.mp gone
  cases entry with
  | directory => cases result
  | file other =>
    cases result
    exact only.unlink (entryAt?_of_lookup found)

end OnlyAt

end Disk

/-! ### One discard -/

namespace SnapshotFile

variable {file : SnapshotFile} {disk : Disk}

theorem entryAt?_release : (file.release disk).entryAt? = disk.entryAt? := rfl

theorem contents_release (number : Nat) :
    (file.release disk).contents number = disk.contents number := by
  unfold Disk.contents release Disk.setLock Disk.change
  rw [List.getElem?_modify]
  cases disk.files[number]? with
  | none => rfl
  | some state => by_cases own : file.number = number <;> simp [own]

theorem entryAt?_discard_iff {location : Location} {entry : Entry} :
    (file.discard disk).entryAt? location = some entry ↔
      disk.entryAt? location = some entry ∧
        ∀ number, disk.lookup file.path ≠ .ok (location, .file number) := by
  unfold discard
  rw [entryAt?_release]
  cases found : disk.lookup file.path with
  | error fault =>
    have refused : disk.removeFile file.path = .error fault := by
      rw [Disk.removeFile, found]
      rfl
    simp [refused]
  | ok place =>
    obtain ⟨there, _ | number⟩ := place
    · have refused : disk.removeFile file.path = .error .isDirectory := by
        rw [Disk.removeFile, found]
        rfl
      simp [refused]
    · have named := Disk.ne_nil_of_entryAt? (Disk.entryAt?_of_lookup found)
      rw [Disk.removeFile_of_lookup found]
      simp only [Disk.entryAt?_unlink disk named]
      by_cases here : location = there
      · simp [here]
      · simp [here, Ne.symm here]

/-- Only a name goes: whoever has a file open finds in it what was there. -/
theorem contents_discard (number : Nat) :
    (file.discard disk).contents number = disk.contents number := by
  unfold discard
  rw [contents_release]
  cases removed : disk.removeFile file.path with
  | error fault => rfl
  | ok after =>
    have same := Disk.files_of_removeFile removed
    simp only [Disk.contents, same]

end SnapshotFile

namespace Handles

variable {ι : Type} {handles : Handles ι}

def Placed (handles : Handles ι) : Prop :=
  ∀ i handle, handles.held i = some handle →
    handles.disk.OnlyAt handle.file.path handle.file.number

namespace Placed

theorem start (disk : Disk) : (Handles.start disk : Handles ι).Placed :=
  fun _ _ own => nomatch own

/-- The others may do what leaves such files at their paths. -/
theorem others (h : handles.Placed) {after : Disk}
    (kept : ∀ path number, handles.disk.OnlyAt path number → after.OnlyAt path number) :
    Handles.Placed { handles with disk := after } :=
  fun i handle own => kept _ _ (h i handle own)

variable [DecidableEq ι]

theorem put (h : handles.Placed) {after : Disk} {i : ι} {handle : Option Handle}
    (kept : ∀ path number, handles.disk.OnlyAt path number → after.OnlyAt path number)
    (new : ∀ changed, handle = some changed →
      after.OnlyAt changed.file.path changed.file.number) :
    (handles.put after i handle).Placed := by
  intro j other own
  by_cases self : j = i
  · subst self
    rw [held_put_self] at own
    exact new other own
  · rw [held_put_of_ne self] at own
    exact kept _ _ (h j other own)

theorem giveUp (h : handles.Placed) {after : Disk} {i : ι}
    (kept : ∀ path number, handles.disk.OnlyAt path number → after.OnlyAt path number) :
    (handles.put after i none).Placed :=
  h.put kept nofun

theorem step (h : handles.Placed) (event : HandleEvent ι) : (handles.step event).Placed := by
  cases event with
  | acquire i path =>
    simp only [Handles.step]
    cases unused : handles.held i with
    | some handle => exact h
    | none =>
      cases taken : SnapshotFile.acquire handles.disk path with
      | error e => exact h
      | ok held =>
        obtain ⟨file, after⟩ := held
        obtain ⟨location, -, -, rfl, rfl, found⟩ := SnapshotFile.acquire_eq_ok taken
        refine h.put (fun path number only => ?_) ?_
        · exact only.spares (.withFile handles.disk location _) (Nat.ne_of_lt only.there)
        · rintro _ ⟨⟩
          exact .of_lookup found
  | append i statement =>
    simp only [Handles.step]
    cases own : handles.held i with
    | none => exact h
    | some handle =>
      refine h.put (fun _ _ only => only.change _) ?_
      rintro _ ⟨⟩
      exact (h i handle own).change _
  | sync i => exact h
  | discard i =>
    simp only [Handles.step]
    cases own : handles.held i with
    | none => exact h
    | some handle =>
      refine h.giveUp fun path number only => ?_
      cases removed : handles.disk.removeFile handle.file.path with
      | error fault =>
        simp only [SnapshotFile.discard, removed]
        exact only.change _
      | ok after =>
        simp only [SnapshotFile.discard, removed]
        exact (only.removeFile removed).change _
  | drop i =>
    simp only [Handles.step]
    cases own : handles.held i with
    | none => exact h
    | some handle => exact h.giveUp fun _ _ only => only.change _
  | othersRemove path =>
    simp only [Handles.step]
    cases removed : handles.disk.removeFile path with
    | error fault => exact h
    | ok after => exact h.others fun _ _ only => only.removeFile removed
  | othersCreate path =>
    simp only [Handles.step]
    cases made : handles.disk.createFile path with
    | error fault => exact h
    | ok held =>
      obtain ⟨number, after⟩ := held
      obtain ⟨location, -, rfl, -⟩ := Disk.createFile_eq_ok made
      refine h.others fun _ _ only => ?_
      exact only.spares (.addFile handles.disk location) (Nat.ne_of_lt only.there)
  | othersMakeDirs path =>
    have dirs := Disk.makeDirs_onlyDirs handles.disk path
    refine h.others fun _ _ only => ?_
    exact only.spares (.of_onlyDirs dirs _) (Nat.ne_of_lt only.there)
  | othersWrite number contents =>
    simp only [Handles.step]
    split_ifs with locked
    · exact h
    · exact h.others fun _ _ only => only.change _

theorem run (h : handles.Placed) (events : List (HandleEvent ι)) : (handles.run events).Placed := by
  induction events generalizing handles with
  | nil => exact h
  | cons event events ih => exact ih (h.step event)

end Placed

variable [DecidableEq ι] {i : ι} {handle : Handle}

theorem disk_step_discard (own : handles.held i = some handle) :
    (handles.step (.discard i)).disk = handle.file.discard handles.disk := by
  simp only [step, own]
  rfl

/-- What a discard removes after any events: the name of the file that the handle's path leads to, if
there is one. If the handle's own file still has its name, that is the one, and every other file keeps
its own. The contents of files stay, for those who have them open. -/
theorem discard_removes (disk : Disk) (events : List (HandleEvent ι))
    (own : ((start disk).run events).held i = some handle) :
    let before := ((start disk).run events).disk
    let after := (((start disk).run events).step (.discard i)).disk
    (∀ number, after.contents number = before.contents number) ∧
    (∀ location entry, after.entryAt? location = some entry ↔
      before.entryAt? location = some entry ∧
        ∀ number, before.lookup handle.file.path ≠ .ok (location, .file number)) ∧
    ((∃ location, before.entryAt? location = some (.file handle.file.number)) →
      ∀ location entry, after.entryAt? location = some entry ↔
        before.entryAt? location = some entry ∧ entry ≠ .file handle.file.number) := by
  intro before after
  have discarded : after = handle.file.discard before := disk_step_discard own
  have placed : ((start disk).run events).Placed := (Placed.start disk).run events
  rw [discarded]
  refine ⟨SnapshotFile.contents_discard, fun _ _ => SnapshotFile.entryAt?_discard_iff, ?_⟩
  rintro ⟨place, named⟩ location entry
  have led : before.lookup handle.file.path = .ok (place, .file handle.file.number) :=
    (placed i handle own).leads place named
  rw [SnapshotFile.entryAt?_discard_iff, led]
  refine and_congr_right fun stands => ?_
  constructor
  · rintro other rfl
    have only := (placed i handle own).leads location stands
    have same : location = place := by
      have both := only.symm.trans led
      cases both
      rfl
    exact other handle.file.number (same ▸ rfl)
  · rintro other number ⟨⟩
    exact other (Option.some.inj (stands.symm.trans named))

/-- In `renamed` the second handle has its file where the first one had it. The second one's discard
removes that file, and the first one's contents stay. -/
theorem discard_removes_renamed :
    let handles := (start (Disk.empty ["w"])).run renamed
    handles.disk.entryAt? ["w", "s.sql"] = some (.file 1) ∧
      (handles.step (.discard true)).disk.entryAt? ["w", "s.sql"] = none ∧
      (handles.step (.discard true)).disk.entryAt? ["w"] = some .directory ∧
      (handles.step (.discard true)).disk.contents 0 = "A\nB\n".toUTF8.data.toList := by
  intro handles
  have own : handles.held true = some ⟨⟨1, "s.sql", 0⟩, []⟩ := by decide +kernel
  have named : handles.disk.entryAt? ["w", "s.sql"] = some (.file 1) := by decide +kernel
  have around : handles.disk.entryAt? ["w"] = some .directory := by decide +kernel
  have written : handles.disk.contents 0 = "A\nB\n".toUTF8.data.toList := by
    decide +kernel
  obtain ⟨contents, -, inPlace⟩ := discard_removes (Disk.empty ["w"]) renamed own
  have exactly := inPlace ⟨_, named⟩
  refine ⟨named, ?_, (exactly _ _).mpr ⟨around, nofun⟩, (contents 0).trans written⟩
  refine Option.eq_none_iff_forall_ne_some.mpr fun entry stands => ?_
  obtain ⟨stood, other⟩ := (exactly _ entry).mp stands
  exact other (Option.some.inj (stood.symm.trans named))

/-- The first handle of `renamed` lost the name of its file. Its discard takes away the file of the
second handle, which is still being written. -/
theorem discard_removes_anothers_file :
    let handles := (start (Disk.empty ["w"])).run renamed
    ∃ own other, handles.held false = some own ∧ handles.held true = some other ∧
      other.file.number ≠ own.file.number ∧
      handles.disk.entryAt? ["w", "s.sql"] = some (.file other.file.number) ∧
      (handles.step (.discard false)).disk.entryAt? ["w", "s.sql"] = none := by
  refine ⟨⟨⟨0, "s.sql", 4⟩, ["A", "B"]⟩, ⟨⟨1, "s.sql", 0⟩, []⟩, ?_⟩
  decide +kernel

end Handles

end GridSchema
