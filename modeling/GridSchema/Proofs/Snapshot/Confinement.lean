import GridSchema.Options.Validation
import GridSchema.Proofs.Disk.Path
import GridSchema.Proofs.Json.Spelling
import GridSchema.Proofs.Snapshot.Run

/-! Runs with options that were accepted stay in their directory. All that they write is one file
there, whose name is made of the base name. -/

namespace GridSchema

theorem refuseIf_eq_ok {condition : Bool} {fault : ConfigFault} {done : Unit} :
    refuseIf condition fault = .ok done ↔ condition = false := by
  cases condition <;> simp [refuseIf]

/-- Accepted options have a base name without slashes and a directory. -/
theorem SnapshotOptions.of_validate {options : SnapshotOptions}
    (valid : options.validate = .ok ()) :
    '/' ∉ options.baseName.toList ∧ options.dir ≠ "" := by
  simp only [validate, bind_eq_ok, refuseIf_eq_ok] at valid
  obtain ⟨_, -, _, separated, _, missing, -⟩ := valid
  constructor
  · intro slash
    have := List.any_eq_false.mp separated '/' slash
    simp at this
  · simpa using missing

namespace Snapshot

variable {disk before after : Disk} {dir base name : String}

/-! ### Names of snapshots -/

/-- Whether a text is a base name, decimal digits or none, and the extension. -/
def IsSnapshotName (base name : String) : Prop :=
  ∃ digits : String, (∀ c ∈ digits.toList, c.isDigit = true) ∧ name = base ++ digits ++ extension

theorem isSnapshotName_first (base : String) : IsSnapshotName base (base ++ extension) :=
  ⟨"", by simp, by simp⟩

theorem isSnapshotName_index (base : String) (index : Nat) :
    IsSnapshotName base (base ++ toString index ++ extension) := by
  refine ⟨toString index, ?_, rfl⟩
  rw [Json.toList_toString]
  exact Json.isDigit_toDigits index

/-- The extension keeps such a name from being one of the dots, and digits hold no slash. -/
theorem IsSnapshotName.isName (isSnapshot : IsSnapshotName base name)
    (plain : '/' ∉ base.toList) : Path.IsName name := by
  obtain ⟨digits, decimal, rfl⟩ := isSnapshot
  have ends : (base ++ digits ++ extension).toList.getLast? = some 'l' := by
    simp [extension]
  have noDigit : '/' ∉ digits.toList := fun h => absurd (decimal '/' h) (by decide)
  refine ⟨?_, ?_, ?_, ?_⟩
  · intro h
    rw [h] at ends
    cases ends
  · simpa [extension] using ⟨plain, noDigit⟩
  · intro h
    rw [h] at ends
    cases ends
  · intro h
    rw [h] at ends
    cases ends

theorem names_of_lookup {path : String} {location : Location}
    (listed : disk.lookup path = .ok (location, .directory)) :
    ∃ names, disk.names path = .ok names := by
  unfold Disk.names
  rw [listed]
  exact ⟨_, rfl⟩

/-- A name that the next snapshot of a base name gets in a directory, as one step behind those to the
directory. -/
structure IsNext (disk : Disk) (dir base name : String) : Prop where
  isSnapshotName : IsSnapshotName base name
  nextPath : nextPath disk dir base = .ok (Path.join dir name)
  steps : Path.steps (Path.join dir name) = Path.steps dir ++ [.into name]
  stepsAround : Path.stepsAround? (Path.join dir name) = some (Path.steps dir)
  fileName : Path.fileName? (Path.join dir name) = some name

/-- There always is a next name, since a directory that holds something can be listed. -/
theorem exists_isNext (disk : Disk) (given : dir ≠ "") (plain : '/' ∉ base.toList) :
    ∃ name, IsNext disk dir base name := by
  have step {name : String} (isSnapshotName : IsSnapshotName base name)
      (next : nextPath disk dir base = .ok (Path.join dir name)) : IsNext disk dir base name := by
    have isName := isSnapshotName.isName plain
    exact ⟨isSnapshotName, next, Path.steps_join given isName,
      Path.stepsAround?_join given isName, Path.fileName?_join given isName⟩
  have first := isSnapshotName_first base
  by_cases taken : disk.pathExists (Path.join dir (base ++ extension)) = true
  · cases there : disk.lookup (Path.join dir (base ++ extension)) with
    | error fault =>
      rw [Disk.pathExists, there] at taken
      cases taken
    | ok found =>
      obtain ⟨location, entry⟩ := found
      obtain ⟨around, listed, -⟩ := Disk.lookup_join given (first.isName plain) there
      obtain ⟨names, listing⟩ := names_of_lookup listed
      let index := min (lastIndex base names + 1) maxIndex
      refine ⟨_, step (isSnapshotName_index base index) ?_⟩
      rw [nextPath, if_pos taken, listing]
      rfl
  · refine ⟨_, step first ?_⟩
    rw [nextPath, if_neg taken]
    rfl

/-! ### What a run changes -/

section run

variable {σ : Type} (client : Catalog σ) (degrade : Bool) (selection : Selection) (state : σ)

theorem fileName_of_runToPath {path : String} {report : Report}
    (ok : (runToPath (client.beside Disk) degrade path selection (disk, state)).1 = .ok report) :
    report.path = path ∧ report.fileName = (Path.fileName? path).getD "" := by
  cases taken : SnapshotFile.acquire disk path with
  | error e =>
    rw [runToPath_refused client degrade selection state taken] at ok
    cases ok
  | ok held =>
    obtain ⟨file, opened⟩ := held
    obtain ⟨location, vacant, -, rfl, rfl, found⟩ := SnapshotFile.acquire_eq_ok taken
    rw [runToPath_taken client degrade selection state vacant found taken] at ok
    cases known : enumerate client selection state with | mk listing listed
    rw [known] at ok
    cases listing with
    | error e => cases ok
    | ok names =>
      cases ok
      exact ⟨rfl, rfl⟩

theorem fileName_of_run (request : Request)
    (next : IsNext (disk.makeDirs request.dir).2 request.dir request.baseName name)
    {report : Report}
    (ok : (run (client.beside Disk) degrade request (disk, state)).1 = .ok report) :
    report.path = Path.join request.dir name ∧ report.fileName = name := by
  have named := next.nextPath
  cases dirs : disk.makeDirs request.dir with | mk outcome middle
  rw [dirs] at named
  cases outcome with
  | error fault =>
    simp only [run, dirs] at ok
    cases ok
  | ok _ =>
    simp only [run, dirs, named] at ok
    obtain ⟨path, fileName⟩ := fileName_of_runToPath client degrade request.selection state ok
    rw [next.fileName] at fileName
    exact ⟨path, fileName⟩

end run

/-- A location whose file a run has changed is that of its report. -/
theorem Ends.lookup_of_changed {made : List Location} {result : Except Error Report}
    {location : Location} (ends : Ends before made result after)
    (changed : after.fileAt? location ≠ before.fileAt? location) :
    ∃ report number, result = .ok report ∧
      after.lookup report.path = .ok (location, .file number) := by
  cases result with
  | error e => exact absurd (ends.files location (by simp)) changed
  | ok report =>
    obtain ⟨place, number, -, -, -, -, found, leaves⟩ := ends
    by_cases here : location = place
    · exact ⟨report, number, rfl, here ▸ found⟩
    · exact absurd (leaves.files location (by simpa using here)) changed

/-- With accepted options the next path is one name behind the directory, made of the base name. A
run with them reports of this path, and no other file is made, changed or removed by it. -/
theorem accepted_options_confine {σ : Type} (options : SnapshotOptions)
    (valid : options.validate = .ok ()) (client : Catalog σ) (disk : Disk) (state : σ) :
    (∃ name, IsNext disk options.dir options.baseName name) ∧
    let (result, after, _) :=
      run (client.beside Disk) options.degrade (.ofOptions options) (disk, state)
    ∃ name, IsNext (disk.makeDirs options.dir).2 options.dir options.baseName name ∧
      (∀ report, result = .ok report →
        report.path = Path.join options.dir name ∧ report.fileName = name) ∧
      ∀ location, after.fileAt? location ≠ disk.fileAt? location →
        ∃ around number, after.lookup options.dir = .ok (around, .directory) ∧
          location = around ++ [name] ∧
          after.lookup (Path.join options.dir name) = .ok (location, .file number) := by
  obtain ⟨plain, given⟩ := SnapshotOptions.of_validate valid
  refine ⟨exists_isNext disk given plain, ?_⟩
  obtain ⟨name, next⟩ := exists_isNext (disk.makeDirs options.dir).2 given plain
  have reports (report : Report)
      (ok : (run (client.beside Disk) options.degrade (.ofOptions options) (disk, state)).1 =
        .ok report) : report.path = Path.join options.dir name ∧ report.fileName = name :=
    fileName_of_run client options.degrade state (.ofOptions options) next ok
  refine ⟨name, next, reports, ?_⟩
  intro location changed
  obtain ⟨made, -, ends⟩ := run_ends client options.degrade (.ofOptions options) disk state
  obtain ⟨report, number, ok, found⟩ := ends.lookup_of_changed changed
  rw [(reports report ok).1] at found
  obtain ⟨around, listed, place⟩ :=
    Disk.lookup_join given (next.isSnapshotName.isName plain) found
  exact ⟨around, number, listed, place, found⟩

/-- Options whose base name is a dot, for a directory with a dot and slashes in a row. -/
def dottedOptions : SnapshotOptions :=
  ⟨"a/./b//", "..sql", true, true, []⟩

theorem accepted_options_confine_dotted :
    dottedOptions.validate = .ok () ∧
    Path.stepsAround? "a/./b//..sql" = some (Path.steps dottedOptions.dir) ∧
    let (result, after, _) :=
      run ((oddAnswers.catalog Unit).beside Disk) true (.ofOptions dottedOptions) (.empty ["d"], ())
    (∀ report, result = .ok report →
      report.path = "a/./b//..sql" ∧ report.fileName = "..sql") ∧
    ∀ location, after.fileAt? location ≠ (Disk.empty ["d"]).fileAt? location →
      ∃ number, after.lookup "a/./b//..sql" = .ok (location, .file number) := by
  have valid : dottedOptions.validate = .ok () := rfl
  obtain ⟨name, next, reports, changes⟩ :=
    (accepted_options_confine dottedOptions valid (oddAnswers.catalog Unit) (.empty ["d"]) ()).2
  have chosen : nextPath ((Disk.empty ["d"]).makeDirs dottedOptions.dir).2 dottedOptions.dir
      dottedOptions.baseName = .ok "a/./b//..sql" := by
    decide +kernel
  obtain path : Path.join dottedOptions.dir name = "a/./b//..sql" := by
    simpa [next.nextPath] using chosen
  have named : name = "..sql" := by
    have fileName := next.fileName
    rw [path] at fileName
    exact (Option.some.inj fileName).symm
  rw [path] at reports changes
  refine ⟨valid, path ▸ next.stepsAround, named ▸ reports, ?_⟩
  intro location changed
  obtain ⟨around, number, -, -, found⟩ := changes location changed
  exact ⟨number, found⟩

end Snapshot

end GridSchema
