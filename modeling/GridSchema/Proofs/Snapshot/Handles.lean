import GridSchema.Proofs.Disk.Spares
import GridSchema.Proofs.Snapshot.File
import Mathlib.Logic.Function.Basic

/-! Handles on snapshot files, taken and given up in any order on a disk where others remove, make
and write files too. A handle has its file by number but discards by path, so that the two may part
ways. What holds nevertheless holds file by file: a file is locked for the one handle that wrote all
that is in it, or it is not locked and no handle has it. -/

namespace GridSchema

/-- Whether the lock of what a path leads to is refused to someone who opens it anew. -/
def Disk.refusesLock (disk : Disk) (path : String) : Bool :=
  match disk.lookup path with
  | .ok (_, .file number) => disk.isLocked number
  | _ => false

structure Handle where
  file : SnapshotFile
  statements : List String
  deriving DecidableEq, Repr

/-- What those statements put into a file, each with a line feed behind it. -/
def Handle.contents (handle : Handle) : Bytes :=
  handle.statements.flatMap fun statement => Utf8.encode statement ++ [0x0A]

/-- A disk, and the handles that are held on it, by name. -/
structure Handles (ι : Type) where
  disk : Disk
  held : ι → Option Handle

/-- What is done with handles, and what others do to the disk. -/
inductive HandleEvent (ι : Type) where
  | acquire (i : ι) (path : String)
  | append (i : ι) (statement : String)
  | sync (i : ι)
  | discard (i : ι)
  | drop (i : ι)
  | othersRemove (path : String)
  | othersCreate (path : String)
  | othersMakeDirs (path : String)
  | othersWrite (number : Nat) (contents : Bytes)

namespace Handles

variable {ι : Type}

def start (disk : Disk) : Handles ι :=
  ⟨disk, fun _ => none⟩

variable [DecidableEq ι]

def put (handles : Handles ι) (disk : Disk) (i : ι) (handle : Option Handle) : Handles ι :=
  ⟨disk, Function.update handles.held i handle⟩

@[simp] theorem held_put_self (handles : Handles ι) (disk : Disk) (i : ι) (handle : Option Handle) :
    (handles.put disk i handle).held i = handle :=
  Function.update_self ..

theorem held_put_of_ne {i j : ι} (ne : j ≠ i) (handles : Handles ι) (disk : Disk)
    (handle : Option Handle) : (handles.put disk i handle).held j = handles.held j :=
  Function.update_of_ne ne ..

/-- A name in use is not given to a second handle, and without a handle nothing is done with it. The
others take no locks, and write into no file that is locked. -/
def step (handles : Handles ι) : HandleEvent ι → Handles ι
  | .acquire i path =>
    match handles.held i, SnapshotFile.acquire handles.disk path with
    | none, .ok (file, disk) => handles.put disk i (some ⟨file, []⟩)
    | _, _ => handles
  | .append i statement =>
    match handles.held i with
    | some handle =>
      let (file, disk) := handle.file.append handles.disk statement
      handles.put disk i (some ⟨file, handle.statements ++ [statement]⟩)
    | none => handles
  | .sync _ => handles
  | .discard i =>
    match handles.held i with
    | some handle => handles.put (handle.file.discard handles.disk) i none
    | none => handles
  | .drop i =>
    match handles.held i with
    | some handle => handles.put (handle.file.release handles.disk) i none
    | none => handles
  | .othersRemove path =>
    match handles.disk.removeFile path with
    | .ok disk => { handles with disk }
    | .error _ => handles
  | .othersCreate path =>
    match handles.disk.createFile path with
    | .ok (_, disk) => { handles with disk }
    | .error _ => handles
  | .othersMakeDirs path => { handles with disk := (handles.disk.makeDirs path).2 }
  | .othersWrite number contents =>
    if handles.disk.isLocked number then handles
    else { handles with disk := handles.disk.change number fun file => { file with contents } }

def run (handles : Handles ι) (events : List (HandleEvent ι)) : Handles ι :=
  events.foldl step handles

end Handles

/-! ### File by file -/

namespace Handles

variable {ι : Type} {handles : Handles ι} {disk : Disk} {number : Nat}

/-- Whose a file is. -/
inductive Keeping (handles : Handles ι) (number : Nat) : Prop where
  | held (i : ι) (handle : Handle) (own : handles.held i = some handle)
      (numbered : handle.file.number = number)
      (only : ∀ j other, handles.held j = some other → other.file.number = number → j = i)
      (written : handle.file.written = handle.contents.length)
      (stands : handles.disk.files[number]? = some ⟨handle.contents, true⟩)
  | free (unheld : ∀ i handle, handles.held i = some handle → handle.file.number ≠ number)
      (unlocked : handles.disk.isLocked number = false)

/-- What is true of all files at any time. -/
def Consistent (handles : Handles ι) : Prop :=
  ∀ number, handles.Keeping number

namespace Consistent

theorem start (unlocked : ∀ number, disk.isLocked number = false) :
    (Handles.start disk : Handles ι).Consistent := by
  intro number
  exact .free (fun _ _ own => nomatch own) (unlocked number)

theorem of_held (h : handles.Consistent) {i : ι} {handle : Handle}
    (own : handles.held i = some handle) :
    handle.file.written = handle.contents.length ∧
      handles.disk.files[handle.file.number]? = some ⟨handle.contents, true⟩ ∧
      ∀ j other, handles.held j = some other → other.file.number = handle.file.number → j = i := by
  cases h handle.file.number with
  | held j other own' numbered only written stands =>
    obtain rfl := only i handle own rfl
    obtain rfl : handle = other := Option.some.inj (own.symm.trans own')
    exact ⟨written, stands, only⟩
  | free unheld _ => exact absurd rfl (unheld i handle own)

theorem isLocked_of_held (h : handles.Consistent) {i : ι} {handle : Handle}
    (own : handles.held i = some handle) : handles.disk.isLocked handle.file.number = true := by
  obtain ⟨-, stands, -⟩ := h.of_held own
  simp [Disk.isLocked, stands]

theorem unheld_of_unlocked (h : handles.Consistent)
    (unlocked : handles.disk.isLocked number = false) (i : ι) (handle : Handle)
    (own : handles.held i = some handle) :
    handle.file.number ≠ number := by
  rintro rfl
  rw [h.isLocked_of_held own] at unlocked
  cases unlocked

theorem isLocked_iff (h : handles.Consistent) :
    handles.disk.isLocked number = true ↔
      ∃ i handle, handles.held i = some handle ∧ handle.file.number = number := by
  constructor
  · intro locked
    cases h number with
    | held i handle own numbered => exact ⟨i, handle, own, numbered⟩
    | free _ unlocked =>
      rw [locked] at unlocked
      cases unlocked
  · rintro ⟨i, handle, own, rfl⟩
    exact h.isLocked_of_held own

/-- The lock of what a path leads to is refused just if that is the file of a handle. -/
theorem refusesLock_iff (h : handles.Consistent) (path : String) :
    handles.disk.refusesLock path = true ↔
      ∃ i handle location, handles.held i = some handle ∧
        handles.disk.lookup path = .ok (location, .file handle.file.number) := by
  unfold Disk.refusesLock
  cases found : handles.disk.lookup path with
  | error fault => simp
  | ok place =>
    obtain ⟨location, _ | number⟩ := place
    · simp
    · simp only [h.isLocked_iff, Except.ok.injEq, Prod.mk.injEq, Entry.file.injEq]
      constructor
      · rintro ⟨i, handle, own, rfl⟩
        exact ⟨i, handle, location, own, rfl, rfl⟩
      · rintro ⟨i, handle, -, own, -, numbered⟩
        exact ⟨i, handle, own, numbered.symm⟩

end Consistent

theorem Keeping.frame {after : Handles ι} (keeping : handles.Keeping number)
    (files : after.disk.files[number]? = handles.disk.files[number]?)
    (owners : ∀ i handle, handle.file.number = number →
      (after.held i = some handle ↔ handles.held i = some handle)) : after.Keeping number := by
  cases keeping with
  | held i handle own numbered only written stands =>
    refine .held i handle ((owners i handle numbered).mpr own) numbered ?_ written
      (files.trans stands)
    intro j other own' numbered'
    exact only j other ((owners j other numbered').mp own') numbered'
  | free unheld unlocked =>
    refine .free ?_ ?_
    · intro i handle own numbered
      exact unheld i handle ((owners i handle numbered).mp own) numbered
    · unfold Disk.isLocked at unlocked ⊢
      rw [files]
      exact unlocked

/-- A handle that is put has its file to itself if no other one had it. -/
theorem Keeping.of_put [DecidableEq ι] {after : Disk} {i : ι} {handle : Handle}
    (only : ∀ j other, handles.held j = some other →
      other.file.number = handle.file.number → j = i)
    (written : handle.file.written = handle.contents.length)
    (stands : after.files[handle.file.number]? = some ⟨handle.contents, true⟩) :
    (handles.put after i (some handle)).Keeping handle.file.number := by
  refine .held i handle (held_put_self ..) rfl ?_ written stands
  intro j other own numbered
  by_cases self : j = i
  · exact self
  · rw [held_put_of_ne self] at own
    exact only j other own numbered

namespace Consistent

theorem others (h : handles.Consistent) {after : Disk}
    (files : ∀ other ≠ number, after.files[other]? = handles.disk.files[other]?)
    (before : handles.disk.isLocked number = false) (unlocked : after.isLocked number = false) :
    Handles.Consistent { handles with disk := after } := by
  intro other
  by_cases here : other = number
  · subst here
    exact .free (h.unheld_of_unlocked before) unlocked
  · exact (h other).frame (files other here) fun _ _ _ => Iff.rfl

theorem of_files (h : handles.Consistent) {after : Disk}
    (same : after.files = handles.disk.files) :
    Handles.Consistent { handles with disk := after } := by
  intro number
  refine (h number).frame ?_ fun _ _ _ => Iff.rfl
  simp only [same]

theorem othersCreate (h : handles.Consistent) {path : String} {after : Disk}
    (made : handles.disk.createFile path = .ok (number, after)) :
    Handles.Consistent { handles with disk := after } := by
  obtain ⟨location, rfl, rfl, -⟩ := Disk.createFile_eq_ok made
  refine h.others (Disk.Spares.addFile handles.disk location).files ?_ ?_
  · simp [Disk.isLocked]
  · simp [Disk.isLocked, Disk.addFile]

theorem othersWrite (h : handles.Consistent) (unlocked : handles.disk.isLocked number = false)
    (contents : Bytes) :
    Handles.Consistent { handles with
      disk := handles.disk.change number fun file => { file with contents } } := by
  refine h.others (Disk.Spares.change handles.disk number _).files unlocked ?_
  unfold Disk.isLocked at unlocked ⊢
  change ((handles.disk.files.modify number _)[number]?.any _) = false
  rw [List.getElem?_modify_eq]
  cases there : handles.disk.files[number]? with
  | none => rfl
  | some file => simpa [there] using unlocked

variable [DecidableEq ι]

theorem put (h : handles.Consistent) {after : Disk} {i : ι} {handle : Option Handle}
    (files : ∀ other ≠ number, after.files[other]? = handles.disk.files[other]?)
    (before : ∀ old, handles.held i = some old → old.file.number = number)
    (numbered : ∀ new, handle = some new → new.file.number = number)
    (there : (handles.put after i handle).Keeping number) :
    (handles.put after i handle).Consistent := by
  intro other
  by_cases here : other = number
  · exact here ▸ there
  · refine (h other).frame (files other here) ?_
    intro j owner apart
    by_cases self : j = i
    · subst self
      rw [held_put_self]
      constructor
      · intro own
        exact absurd (apart.symm.trans (numbered owner own)) here
      · intro own
        exact absurd (apart.symm.trans (before owner own)) here
    · rw [held_put_of_ne self]

/-! ### What each event does -/

theorem acquire (h : handles.Consistent) {i : ι} (unused : handles.held i = none) {path : String}
    {file : SnapshotFile} {after : Disk}
    (taken : SnapshotFile.acquire handles.disk path = .ok (file, after)) :
    (handles.put after i (some ⟨file, []⟩)).Consistent := by
  obtain ⟨location, -, -, rfl, rfl, -⟩ := SnapshotFile.acquire_eq_ok taken
  have spares := Disk.Spares.withFile handles.disk location ⟨[], true⟩
  refine h.put spares.files ?_ ?_ ?_
  · intro old own
    rw [unused] at own
    cases own
  · rintro _ ⟨⟩
    rfl
  · refine .of_put ?_ rfl ?_
    · intro j other own numbered
      -- The file of another handle is there already, and this one is new.
      obtain ⟨-, stands, -⟩ := h.of_held own
      have below := (List.getElem?_eq_some_iff.mp stands).1
      rw [numbered] at below
      exact absurd below (Nat.lt_irrefl _)
    · simp [Handle.contents]

theorem append (h : handles.Consistent) {i : ι} {handle : Handle}
    (own : handles.held i = some handle) (statement : String) :
    let (file, after) := handle.file.append handles.disk statement
    (handles.put after i (some ⟨file, handle.statements ++ [statement]⟩)).Consistent := by
  obtain ⟨written, stands, only⟩ := h.of_held own
  have longer (file : SnapshotFile) :
      Handle.contents ⟨file, handle.statements ++ [statement]⟩ =
        handle.contents ++ SnapshotFile.line statement := by
    simp [Handle.contents, SnapshotFile.line]
  refine h.put (Disk.Spares.change handles.disk handle.file.number _).files ?_ ?_ ?_
  · intro old own'
    rw [Option.some.inj (own.symm.trans own')]
  · rintro _ ⟨⟩
    rfl
  · refine .of_put only ?_ ?_
    · rw [longer, List.length_append, ← written]
    · rw [longer]
      change (handles.disk.files.modify handle.file.number _)[handle.file.number]? = _
      rw [List.getElem?_modify_eq, stands, written, ← Disk.overwrite_length]
      rfl

theorem release (h : handles.Consistent) {i : ι} {handle : Handle}
    (own : handles.held i = some handle) {middle : Disk}
    (same : middle.files = handles.disk.files) :
    (handles.put (handle.file.release middle) i none).Consistent := by
  obtain ⟨-, stands, only⟩ := h.of_held own
  have files : ∀ other ≠ handle.file.number,
      (handle.file.release middle).files[other]? = handles.disk.files[other]? := by
    intro other ne
    rw [← same]
    exact (Disk.Spares.change middle handle.file.number _).files other ne
  refine h.put files ?_ nofun (.free ?_ ?_)
  · intro old own'
    rw [Option.some.inj (own.symm.trans own')]
  · intro j other own' numbered
    by_cases self : j = i
    · subst self
      rw [held_put_self] at own'
      cases own'
    · rw [held_put_of_ne self] at own'
      exact self (only j other own' numbered)
  · unfold Disk.isLocked
    change ((middle.files.modify handle.file.number _)[handle.file.number]?.any _) = false
    rw [List.getElem?_modify_eq, same, stands]
    rfl

theorem step (h : handles.Consistent) (event : HandleEvent ι) :
    (handles.step event).Consistent := by
  cases event with
  | acquire i path =>
    simp only [Handles.step]
    cases unused : handles.held i with
    | some handle => exact h
    | none =>
      cases taken : SnapshotFile.acquire handles.disk path with
      | error e => exact h
      | ok held => exact h.acquire unused taken
  | append i statement =>
    simp only [Handles.step]
    cases own : handles.held i with
    | none => exact h
    | some handle => exact h.append own statement
  | sync i => exact h
  | discard i =>
    simp only [Handles.step]
    cases own : handles.held i with
    | none => exact h
    | some handle =>
      refine h.release own ?_
      cases removed : handles.disk.removeFile handle.file.path with
      | error fault => rfl
      | ok after => exact Disk.files_of_removeFile removed
  | drop i =>
    simp only [Handles.step]
    cases own : handles.held i with
    | none => exact h
    | some handle => exact h.release own rfl
  | othersRemove path =>
    simp only [Handles.step]
    cases removed : handles.disk.removeFile path with
    | error fault => exact h
    | ok after => exact h.of_files (Disk.files_of_removeFile removed)
  | othersCreate path =>
    simp only [Handles.step]
    cases made : handles.disk.createFile path with
    | error fault => exact h
    | ok made' => exact h.othersCreate made
  | othersMakeDirs path => exact h.of_files (Disk.makeDirs_onlyDirs handles.disk path).files
  | othersWrite number contents =>
    simp only [Handles.step]
    split_ifs with locked
    · exact h
    · exact h.othersWrite (by simpa using locked) contents

theorem run (h : handles.Consistent) (events : List (HandleEvent ι)) :
    (handles.run events).Consistent := by
  induction events generalizing handles with
  | nil => exact h
  | cons event events ih => exact ih (h.step event)

end Consistent

variable [DecidableEq ι]

/-- Handles, their files and the locks in step. What a handle appended is what its own file holds,
under whatever name or none, and the handle knows how much that is. What is at a path keeps it from
being taken, for being there or, where a slash follows a name, for being a directory. -/
structure InStep (handles : Handles ι) : Prop where
  contents : ∀ i handle, handles.held i = some handle →
    handles.disk.files[handle.file.number]?.map FileState.contents = some handle.contents
  written : ∀ i handle, handles.held i = some handle →
    handle.file.written = handle.contents.length
  separate : ∀ i j handle other, handles.held i = some handle → handles.held j = some other →
    handle.file.number = other.file.number → i = j
  refused : ∀ i path, handles.disk.pathExists path = true →
    SnapshotFile.acquire handles.disk path =
        .error (if Path.slashed path then .io .isDirectory else .lockContention path) ∧
      handles.step (.acquire i path) = handles
  locked : ∀ path, handles.disk.refusesLock path = true ↔
    ∃ i handle location, handles.held i = some handle ∧
      handles.disk.lookup path = .ok (location, .file handle.file.number)

theorem step_acquire_of_pathExists {path : String} (there : handles.disk.pathExists path = true)
    (i : ι) : handles.step (.acquire i path) = handles := by
  have refused := SnapshotFile.acquire_of_pathExists there
  simp only [step, refused]
  cases handles.held i <;> rfl

/-- Where nobody holds a lock at first, handles, files and locks are in step after any events. -/
theorem stay_in_step (disk : Disk) (unlocked : ∀ number, disk.isLocked number = false)
    (events : List (HandleEvent ι)) : ((start disk : Handles ι).run events).InStep := by
  have consistent : ((start disk : Handles ι).run events).Consistent :=
    (Consistent.start unlocked).run events
  refine ⟨?_, ?_, ?_, ?_, consistent.refusesLock_iff⟩
  · intro i handle own
    obtain ⟨-, stands, -⟩ := consistent.of_held own
    rw [stands]
    rfl
  · intro i handle own
    exact (consistent.of_held own).1
  · intro i j handle other own own' same
    obtain ⟨-, -, only⟩ := consistent.of_held own'
    exact only i handle own same
  · intro i path there
    exact ⟨SnapshotFile.acquire_of_pathExists there, step_acquire_of_pathExists there i⟩

/-- A file loses its name while it is written, and the name is given to another. -/
def renamed : List (HandleEvent Bool) :=
  [.acquire false "s.sql", .append false "A", .othersRemove "s.sql", .acquire true "s.sql",
    .append false "B"]

theorem stay_in_step_renamed :
    (∀ number, (Disk.empty ["w"]).isLocked number = false) ∧
    let handles := (start (Disk.empty ["w"])).run renamed
    (∃ handle, handles.held false = some handle ∧ handle.file.written = 4 ∧
      handles.disk.files[handle.file.number]?.map FileState.contents =
        some "A\nB\n".toUTF8.data.toList) ∧
    SnapshotFile.acquire handles.disk "s.sql" = .error (.lockContention "s.sql") ∧
    handles.disk.refusesLock "s.sql" = true := by
  have unlocked (number : Nat) : (Disk.empty ["w"]).isLocked number = false := by
    simp [Disk.isLocked, Disk.empty]
  have inStep := stay_in_step (Disk.empty ["w"]) unlocked renamed
  have first : ((start (Disk.empty ["w"])).run renamed).held false =
      some ⟨⟨0, "s.sql", 4⟩, ["A", "B"]⟩ := by decide +kernel
  have second : ((start (Disk.empty ["w"])).run renamed).held true =
      some ⟨⟨1, "s.sql", 0⟩, []⟩ := by decide +kernel
  have found : ((start (Disk.empty ["w"])).run renamed).disk.lookup "s.sql" =
      .ok (["w", "s.sql"], .file 1) := by rfl
  have there := Disk.pathExists_eq_true_iff.mpr ⟨_, found⟩
  refine ⟨unlocked, ⟨_, first, rfl, inStep.contents false _ first⟩, ?_, ?_⟩
  · exact (inStep.refused false "s.sql" there).1
  · exact (inStep.locked "s.sql").mpr ⟨true, _, _, second, found⟩

/-- A directory with a slash behind its name is there, and is no contention. -/
theorem acquire_not_always_contention :
    ¬ ∀ (disk : Disk) (path : String), disk.pathExists path = true →
      SnapshotFile.acquire disk path = .error (.lockContention path) := by
  intro contention
  have there : ((Disk.empty ["w"]).addDir ["w", "d"]).pathExists "d/" = true := by decide +kernel
  have refused := contention _ _ there
  rw [SnapshotFile.acquire_of_pathExists there] at refused
  have slashed : Path.slashed "d/" = true := by decide +kernel
  rw [slashed] at refused
  cases refused

end Handles

end GridSchema
