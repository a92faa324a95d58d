import GridSchema.Proofs.Disk.Directories
import GridSchema.Proofs.Snapshot.Interview

/-! Whole runs of clients that leave the disk alone: what the report says is what stands in the
file, and a run changes one file or none. -/

namespace GridSchema.Snapshot

variable {σ : Type} {path : String} {disk before middle after : Disk} {made : List Location}

/-! ### How a run ends -/

section endings

variable (client : Catalog σ) (degrade : Bool) (selection : Selection) (state : σ)

theorem runToPath_refused {e : Error} (refused : SnapshotFile.acquire disk path = .error e) :
    runToPath (client.beside Disk) degrade path selection (disk, state) =
      (.error (.snapshotOperation .locking e), disk, state) := by
  simp only [runToPath, refused]

/-- A run that took its file leaves one more file, which holds the contents of the answers, or loses
the name of an empty one. -/
theorem runToPath_taken {location : Location} (vacant : disk.entryAt? location = none)
    (found : (disk.withFile location ⟨[], true⟩).lookup path =
      .ok (location, .file disk.files.length))
    (taken : SnapshotFile.acquire disk path =
      .ok (⟨disk.files.length, path, 0⟩, disk.withFile location ⟨[], true⟩)) :
    runToPath (client.beside Disk) degrade path selection (disk, state) =
      match enumerate client selection state with
      | (.error e, left) =>
        (.error (.snapshotOperation .creation e), disk.withLost ⟨[], false⟩, left)
      | (.ok names, listed) =>
        let (answers, left) := interview client degrade names listed
        (.ok (report path (.ofAnswers answers)),
          disk.withFile location ⟨contents answers, false⟩, left) := by
  simp only [runToPath, taken, enumerate_beside]
  obtain ⟨listing, listed⟩ := enumerate client selection state
  cases listing with
  | error e => simp only [SnapshotFile.discard_withFile vacant found]
  | ok names =>
    have dumped := dumpCaches_withFile client degrade path names disk location [] listed
    simp only [List.length_nil, List.nil_append] at dumped
    simp only [dumped, SnapshotFile.release_withFile]

/-- A run that can make its file and is told names writes the contents of the answers. -/
theorem runToPath_of_createFile {number : Nat} {opened : Disk}
    (creatable : disk.createFile path = .ok (number, opened)) {names : List String} {listed left : σ}
    {answers : List Answer} (known : enumerate client selection state = (.ok names, listed))
    (answered : interview client degrade names listed = (answers, left)) :
    ∃ after, runToPath (client.beside Disk) degrade path selection (disk, state) =
        (.ok (report path (.ofAnswers answers)), after, left) ∧
      after.bytesAt? path = some (contents answers) := by
  obtain ⟨location, vacant, -, rfl, rfl, found, taken⟩ :=
    SnapshotFile.acquire_of_createFile creatable
  have ends := runToPath_taken client degrade selection state vacant found taken
  simp only [known, answered] at ends
  exact ⟨_, ends, Disk.bytesAt?_withFile (Disk.lookup_withFile found _)⟩

end endings

/-! ### The report and the file -/

/-- If the file can be made and the names are known, a run succeeds. Each name was asked for once;
the file holds the statements of those that have a table, in the order of the names, and the report
lists these, their warnings, the others with their reasons and the digest of the file. -/
theorem report_agrees_with_file (client : Catalog σ) (degrade : Bool) (selection : Selection)
    (path : String) (disk : Disk) (state : σ) {number : Nat} {opened : Disk}
    (creatable : disk.createFile path = .ok (number, opened)) {names : List String} {listed : σ}
    (known : enumerate client selection state = (.ok names, listed)) :
    ∃ result after answers left bytes,
      interview client degrade names listed = (answers, left) ∧
      runToPath (client.beside Disk) degrade path selection (disk, state) =
        (.ok result, after, left) ∧
      answers.map Prod.fst = names ∧
      after.bytesAt? path = some bytes ∧
      bytes = ((answers.filterMap Answer.statement?).flatMap fun statement =>
        Utf8.encode statement ++ [0x0A]) ∧
      result.dumped = answers.filterMap Answer.dumped? ∧
      result.skipped = answers.filterMap Answer.skipped? ∧
      result.warnings = answers.flatMap Answer.warnings ∧
      result.sha256 = Sha256.hexDigest bytes := by
  obtain ⟨location, vacant, -, rfl, rfl, found, taken⟩ :=
    SnapshotFile.acquire_of_createFile creatable
  have ends := runToPath_taken client degrade selection state vacant found taken
  have asked := names_interview client degrade names listed
  cases answered : interview client degrade names listed with | mk answers left
  rw [answered] at asked
  simp only [known, answered] at ends
  refine ⟨_, _, answers, left, contents answers, rfl, ends, asked, ?_, rfl, rfl, ?_, rfl, rfl⟩
  · exact Disk.bytesAt?_withFile (Disk.lookup_withFile found _)
  · simp only [report, Outcome.ofAnswers, List.map_filterMap]
    rfl

/-- A cache with a column of an unknown class. -/
def oddCache : CacheDefinition where
  name := "odd"
  group := none
  dataRegion := none
  parallelism := defaultParallelism
  backups := defaultBackups
  atomicity := none
  writeSync := defaultWriteSync
  entities := [{
    keyType := defaultKeyType
    valueType := "Row"
    declaredTable := none
    schema := none
    keyField := some "id"
    fields := [⟨"id", "java.lang.Long"⟩, ⟨"tag", "Odd"⟩]
    notNull := ∅
    precisions := ∅ }]

/-- A cluster that lists the cache twice, and a name that stands for no cache between. -/
def oddAnswers : FixedAnswers where
  names := .ok ["odd", "none", "odd"]
  definitions name := if name = "odd" then .ok oddCache else .error (.cacheNotFound name)

theorem report_agrees_with_file_odd :
    ∃ result after,
      runToPath ((oddAnswers.catalog Unit).beside Disk) true "s.sql" .all (.empty ["d"], ()) =
        (.ok result, after, ()) ∧
      after.bytesAt? "s.sql" = some
        ("CREATE TABLE IF NOT EXISTS ROW (\n    id BIGINT PRIMARY KEY,\n    tag OBJECT\n) " ++
          "WITH \"cache_name=odd\";\n" ++
          "CREATE TABLE IF NOT EXISTS ROW (\n    id BIGINT PRIMARY KEY,\n    tag OBJECT\n) " ++
          "WITH \"cache_name=odd\";\n").toUTF8.data.toList ∧
      result.dumped = ["odd", "odd"] ∧
      result.skipped = [⟨"none", "Cache not found: none"⟩] ∧
      result.warnings = [⟨"ROW", "tag", "Odd"⟩, ⟨"ROW", "tag", "Odd"⟩] := by
  have creatable : (Disk.empty ["d"]).createFile "s.sql" =
      .ok (0, (Disk.empty ["d"]).addFile ["d", "s.sql"]) := by rfl
  have known : enumerate (oddAnswers.catalog Unit) .all () =
      (.ok ["odd", "none", "odd"], ()) := by rfl
  obtain ⟨result, after, answers, left, bytes, answered, ends, -, written, text, dumped, skipped,
    warnings, -⟩ := report_agrees_with_file (oddAnswers.catalog Unit) true .all "s.sql"
      (.empty ["d"]) () creatable known
  rw [interview_fixed] at answered
  cases answered
  refine ⟨result, after, ends, ?_, dumped, skipped, warnings⟩
  rw [written, text]
  decide +kernel

/-! ### What else a run changes -/

/-- How a disk is left when directories and files have been made at some locations: the other files
are as they were, and the same locks are held. -/
structure Leaves (before : Disk) (made : List Location) (added : List (Location × Nat))
    (after : Disk) : Prop where
  entries : after.entries = before.entries ++ made.map (·, .directory) ++
    added.map fun (location, number) => (location, .file number)
  files : ∀ location, location ∉ added.map Prod.fst →
    after.fileAt? location = before.fileAt? location
  locks : ∀ number, after.isLocked number = before.isLocked number

/-- How a run may end: with an error and no file, or with a new file, held by nobody, where its
report says that it is and nothing was. -/
def Ends (before : Disk) (made : List Location) : Except Error Report → Disk → Prop
  | .error _, after => Leaves before made [] after
  | .ok report, after => ∃ location number,
      before.pathExists report.path = false ∧ before.fileAt? location = none ∧
      before.files.length ≤ number ∧ after.isLocked number = false ∧
      after.lookup report.path = .ok (location, .file number) ∧
      Leaves before made [(location, number)] after

theorem Leaves.withLost (disk : Disk) (bytes : Bytes) :
    Leaves disk [] [] (disk.withLost ⟨bytes, false⟩) where
  entries := by simp [Disk.withLost]
  files location _ := Disk.fileAt?_withLost disk _ location
  locks := Disk.isLocked_of_files rfl

theorem Leaves.withFile {location : Location} (vacant : disk.entryAt? location = none)
    (bytes : Bytes) :
    Leaves disk [] [(location, disk.files.length)] (disk.withFile location ⟨bytes, false⟩) where
  entries := by simp
  files other missing := by
    rw [Disk.fileAt?_withFile vacant, if_neg (by simpa using missing)]
  locks := Disk.isLocked_of_files (Disk.files_withFile ..)

theorem runToPath_ends (client : Catalog σ) (degrade : Bool) (path : String)
    (selection : Selection) (disk : Disk) (state : σ) :
    Ends disk [] (runToPath (client.beside Disk) degrade path selection (disk, state)).1
      (runToPath (client.beside Disk) degrade path selection (disk, state)).2.1 := by
  cases taken : SnapshotFile.acquire disk path with
  | error e =>
    rw [runToPath_refused client degrade selection state taken]
    exact ⟨by simp, fun _ _ => rfl, fun _ => rfl⟩
  | ok held =>
    obtain ⟨file, opened⟩ := held
    obtain ⟨location, vacant, absent, rfl, rfl, found⟩ := SnapshotFile.acquire_eq_ok taken
    rw [runToPath_taken client degrade selection state vacant found taken]
    cases enumerate client selection state with | mk listing listed
    cases listing with
    | error e => exact .withLost disk []
    | ok names =>
      refine ⟨location, disk.files.length, absent, ?_, Nat.le_refl _, ?_,
        Disk.lookup_withFile found _, .withFile vacant _⟩
      · simp only [Disk.fileAt?, vacant]
      · simp [Disk.isLocked]

/-- What a run changes does not depend on the directories that were made for it. -/
theorem Ends.of_onlyDirs {result : Except Error Report} (only : Disk.OnlyDirs before middle)
    (made_eq : middle.entries = before.entries ++ made.map (·, .directory))
    (ends : Ends middle [] result after) : Ends before made result after := by
  have leaves {added} (h : Leaves middle [] added after) : Leaves before made added after := by
    refine ⟨?_, fun l missing => ?_, fun number => ?_⟩
    · rw [h.entries, made_eq, List.map_nil, List.append_nil]
    · rw [h.files l missing, only.fileAt?]
    · rw [h.locks, Disk.isLocked, Disk.isLocked, only.files]
  cases result with
  | error e => exact leaves ends
  | ok report =>
    obtain ⟨location, number, absent, vacant, new, unlocked, found, h⟩ := ends
    rw [only.files] at new
    have absent := (only.keeps fun _ => True).pathExists_eq_false (fun _ _ => trivial) absent
    refine ⟨location, number, absent, ?_, new, unlocked, found, leaves h⟩
    rw [← only.fileAt?, vacant]

theorem run_ends (client : Catalog σ) (degrade : Bool) (request : Request) (disk : Disk)
    (state : σ) :
    ∃ made, (disk.makeDirs request.dir).2.entries = disk.entries ++ made.map (·, .directory) ∧
      Ends disk made (run (client.beside Disk) degrade request (disk, state)).1
        (run (client.beside Disk) degrade request (disk, state)).2.1 := by
  have only := Disk.makeDirs_onlyDirs disk request.dir
  obtain ⟨made, made_eq⟩ := only.entries
  refine ⟨made, made_eq, ?_⟩
  have nothing {e} : Ends disk made (.error e) (disk.makeDirs request.dir).2 :=
    .of_onlyDirs only made_eq ⟨by simp, fun _ _ => rfl, fun _ => rfl⟩
  cases dirs : disk.makeDirs request.dir with | mk outcome middle
  rw [dirs] at only made_eq nothing
  cases outcome with
  | error fault =>
    simp only [run, dirs]
    exact nothing
  | ok _ =>
    cases named : nextPath middle request.dir request.baseName with
    | error fault =>
      simp only [run, dirs, named]
      exact nothing
    | ok path =>
      have ends := runToPath_ends client degrade path request.selection middle state
      simp only [run, dirs, named]
      exact .of_onlyDirs only made_eq ends

/-- A run that fails leaves all files as they were, and one that succeeds adds the file of its
report. Apart from that there are only new directories: those around the file, which a run into a
directory makes first. -/
theorem run_changes_one_file_or_none (client : Catalog σ) (degrade : Bool) (disk : Disk)
    (state : σ) :
    (∀ path selection,
      let (result, after, _) := runToPath (client.beside Disk) degrade path selection (disk, state)
      Ends disk [] result after) ∧
    ∀ request,
      let (result, after, _) := run (client.beside Disk) degrade request (disk, state)
      ∃ made, (disk.makeDirs request.dir).2.entries = disk.entries ++ made.map (·, .directory) ∧
        Ends disk made result after :=
  ⟨fun path selection => runToPath_ends client degrade path selection disk state,
    fun request => run_ends client degrade request disk state⟩

end GridSchema.Snapshot
