import GridSchema.Proofs.Disk.Listing
import GridSchema.Proofs.Snapshot.Fresh
import GridSchema.Proofs.Snapshot.Steps
import Mathlib.Data.List.Basic

/-! Runs one after the other into one directory, with nobody else on the disk. Each gets the name
behind that of the run before, since a number is read back from the name that it was given, and the
files of the earlier runs stay as they are. -/

namespace GridSchema.Snapshot

variable {base name dir : String} {names : List String} {last number : Nat}

/-! ### The last number in a directory -/

/-- Whether a name is a base name, digits for a number and the extension. -/
def IsNumbered (base name : String) (number : Nat) : Prop :=
  ∃ digits : List Char, digits ≠ [] ∧ (∀ c ∈ digits, c.isDigit = true) ∧
    name.toList = base.toList ++ digits ++ extension.toList ∧ Text.decimal digits = number

/-- The largest number among names that is not too large, or zero if there is none. -/
structure IsLast (base : String) (names : List String) (last : Nat) : Prop where
  bound : ∀ name ∈ names, ∀ number ≤ maxIndex, IsNumbered base name number → number ≤ last
  attained : last = 0 ∨ last ≤ maxIndex ∧ ∃ name ∈ names, IsNumbered base name last

theorem index?_eq_some_iff_isNumbered :
    index? base name = some number ↔ IsNumbered base name number ∧ number ≤ maxIndex := by
  rw [index?_eq_some_iff]
  constructor
  · rintro ⟨digits, given, decimal, spelled, value, fits⟩
    exact ⟨⟨digits, given, decimal, spelled, value⟩, fits⟩
  · rintro ⟨⟨digits, given, decimal, spelled, value⟩, fits⟩
    exact ⟨digits, given, decimal, spelled, value, fits⟩

theorem foldl_max_mem (numbers : List Nat) (first : Nat) :
    numbers.foldl max first = first ∨ numbers.foldl max first ∈ numbers := by
  induction numbers generalizing first with
  | nil => exact .inl rfl
  | cons number numbers ih =>
    rw [List.foldl_cons]
    rcases ih (max first number) with h | h
    · rw [h]
      rcases Nat.le_total first number with le | le
      · exact .inr (by simp [Nat.max_eq_right le])
      · exact .inl (Nat.max_eq_left le)
    · exact .inr (List.mem_cons_of_mem _ h)

theorem isLast_lastIndex (base : String) (names : List String) :
    IsLast base names (lastIndex base names) where
  bound name listed number fits numbered :=
    le_lastIndex listed (index?_eq_some_iff_isNumbered.mpr ⟨numbered, fits⟩)
  attained := by
    refine (foldl_max_mem (names.filterMap (index? base)) 0).imp_right ?_
    intro among
    obtain ⟨name, listed, numbered⟩ := List.mem_filterMap.mp among
    obtain ⟨numbered, fits⟩ := index?_eq_some_iff_isNumbered.mp numbered
    exact ⟨fits, name, listed, numbered⟩

theorem IsLast.eq_lastIndex (isLast : IsLast base names last) : last = lastIndex base names := by
  apply Nat.le_antisymm
  · rcases isLast.attained with rfl | ⟨fits, name, listed, numbered⟩
    · exact Nat.zero_le _
    · exact (isLast_lastIndex base names).bound name listed last fits numbered
  · rw [lastIndex_le_iff]
    intro name listed number numbered
    obtain ⟨numbered, fits⟩ := index?_eq_some_iff_isNumbered.mp numbered
    exact isLast.bound name listed number fits numbered

theorem lastIndex_concat (base : String) (names : List String) (name : String) :
    lastIndex base (names ++ [name]) = max (lastIndex base names) ((index? base name).getD 0) := by
  unfold lastIndex
  rw [List.filterMap_append, List.foldl_append]
  cases read : index? base name with
  | none => simp [read]
  | some number => simp [read]

/-! ### Names in a row -/

/-- The names in a row behind a last number: that without a number, and those with the numbers that
come next. -/
def inRow (base : String) (last : Nat) : Nat → String
  | 0 => base ++ extension
  | place + 1 => base ++ toString (last + (place + 1)) ++ extension

/-- How many of the names in a row a directory has: that without a number, or none. -/
def taken (base : String) (names : List String) : Nat :=
  if base ++ extension ∈ names then 1 else 0

/-- The name that comes next in a directory with some names. -/
def nextName (base : String) (names : List String) : String :=
  if base ++ extension ∈ names then
    base ++ toString (min (lastIndex base names + 1) maxIndex) ++ extension
  else base ++ extension

theorem index?_first (base : String) : index? base (base ++ extension) = none := by
  rw [Option.eq_none_iff_forall_ne_some]
  intro number numbered
  obtain ⟨digits, given, -, spelled, -⟩ := index?_eq_some_iff.mp numbered
  exact given (by simpa using spelled)

theorem inRow_add (base : String) (last place skipped : Nat) :
    inRow base (last + skipped) (place + 1) = inRow base last (place + 1 + skipped) := by
  have sum : last + skipped + (place + 1) = last + (place + skipped + 1) := by omega
  rw [show place + 1 + skipped = place + skipped + 1 by omega, inRow, inRow, sum]

theorem taken_next (base : String) (names : List String) :
    taken base (names ++ [nextName base names]) = 1 := by
  unfold taken nextName
  split_ifs with first there
  · rfl
  · exact absurd (List.mem_append_left _ first) there
  · rfl
  · simp_all

section next

variable (fits : lastIndex base names + taken base names ≤ maxIndex)
include fits

theorem nextName_eq_inRow :
    nextName base names = inRow base (lastIndex base names) (taken base names) := by
  unfold nextName taken at *
  split_ifs at fits ⊢ with first
  · rw [Nat.min_eq_left fits]
    rfl
  · rfl

/-- The number in the next name is read back, and is the last one then. -/
theorem lastIndex_next :
    lastIndex base (names ++ [nextName base names]) =
      lastIndex base names + taken base names := by
  rw [lastIndex_concat]
  unfold nextName taken at *
  split_ifs at fits ⊢ with first
  · rw [Nat.min_eq_left fits, index?_toString base fits, Option.getD_some]
    omega
  · rw [index?_first]
    exact Nat.max_eq_left (Nat.zero_le _)

end next

/-! ### One run -/

variable {disk middle after : Disk} {σ : Type} {request : Request} {report : Report}

/-- What a run that succeeds does once its directory is made: one more file is at the path of its
report, with the bytes that the report has the digest of. -/
structure Wrote (middle : Disk) (report : Report) (location : Location) (bytes : Bytes)
    (after : Disk) : Prop where
  vacant : middle.entryAt? location = none
  added : after = middle.withFile location ⟨bytes, false⟩
  found : after.lookup report.path = .ok (location, .file middle.files.length)
  digest : report.sha256 = Sha256.hexDigest bytes

theorem Wrote.bytesAt? {location : Location} {bytes : Bytes}
    (wrote : Wrote middle report location bytes after) :
    after.bytesAt? report.path = some bytes := by
  have found := wrote.found
  rw [wrote.added] at found ⊢
  exact Disk.bytesAt?_withFile found

section run

variable (client : Catalog σ) (degrade : Bool) (state : σ)

theorem runToPath_preserves (path : String) (selection : Selection) (disk : Disk) :
    disk.Preserves (runToPath (client.beside Disk) degrade path selection (disk, state)).2.1 := by
  cases taken : SnapshotFile.acquire disk path with
  | error e =>
    rw [runToPath_refused client degrade selection state taken]
    exact .refl disk
  | ok held =>
    obtain ⟨file, opened⟩ := held
    obtain ⟨location, vacant, -, rfl, rfl, found⟩ := SnapshotFile.acquire_eq_ok taken
    rw [runToPath_taken client degrade selection state vacant found taken]
    cases enumerate client selection state with | mk listing listed
    cases listing with
    | error e => exact .withLost disk _
    | ok names => exact .withFile disk location _

theorem run_preserves (request : Request) (disk : Disk) :
    disk.Preserves (run (client.beside Disk) degrade request (disk, state)).2.1 := by
  have prepared := Disk.Preserves.of_onlyDirs (Disk.makeDirs_onlyDirs disk request.dir)
  cases dirs : disk.makeDirs request.dir with | mk outcome middle
  rw [dirs] at prepared
  cases outcome with
  | error fault =>
    simp only [run, dirs]
    exact prepared
  | ok _ =>
    cases named : nextPath middle request.dir request.baseName with
    | error fault =>
      simp only [run, dirs, named]
      exact prepared
    | ok path =>
      simp only [run, dirs, named]
      exact prepared.trans (runToPath_preserves client degrade state path _ middle)

theorem wrote_of_run
    (ok : (run (client.beside Disk) degrade request (disk, state)).1 = .ok report) :
    nextPath (disk.makeDirs request.dir).2 request.dir request.baseName = .ok report.path ∧
      ∃ location bytes, Wrote (disk.makeDirs request.dir).2 report location bytes
        (run (client.beside Disk) degrade request (disk, state)).2.1 := by
  cases dirs : disk.makeDirs request.dir with | mk outcome middle
  cases outcome with
  | error fault =>
    simp only [run, dirs] at ok
    cases ok
  | ok _ =>
    cases named : nextPath middle request.dir request.baseName with
    | error fault =>
      simp only [run, dirs, named] at ok
      cases ok
    | ok path =>
      simp only [run, dirs, named] at ok ⊢
      cases taken : SnapshotFile.acquire middle path with
      | error e =>
        rw [runToPath_refused client degrade _ state taken] at ok
        cases ok
      | ok held =>
        obtain ⟨file, opened⟩ := held
        obtain ⟨location, vacant, -, rfl, rfl, found⟩ := SnapshotFile.acquire_eq_ok taken
        rw [runToPath_taken client degrade _ state vacant found taken] at ok ⊢
        cases known : enumerate client request.selection state with | mk listing listed
        rw [known] at ok
        cases listing with
        | error e => cases ok
        | ok names =>
          cases ok
          exact ⟨rfl, location, _, vacant, rfl, Disk.lookup_withFile found _, rfl⟩

end run

section step

variable (plain : '/' ∉ base.toList) {location : Location} {bytes : Bytes}
  (next : nextPath middle dir base = .ok report.path)
  (wrote : Wrote middle report location bytes after)
include plain next wrote

/-- The new file stands in the directory, which was there, by the name that comes next in it. -/
theorem Wrote.place (given : dir ≠ "") :
    ∃ around, middle.lookup dir = .ok (around, .directory) ∧
      location = around ++ [nextName base (middle.namesAt around)] ∧
      report.path = Path.join dir (nextName base (middle.namesAt around)) := by
  have place {name : String} (isSnapshotName : IsSnapshotName base name)
      (path : report.path = Path.join dir name) :
      ∃ around, middle.lookup dir = .ok (around, .directory) ∧ location = around ++ [name] := by
    have found := wrote.found
    rw [path, wrote.added] at found
    obtain ⟨around, listed, here⟩ :=
      Disk.lookup_join given (isSnapshotName.isName plain) found
    exact ⟨around, Disk.lookup_directory_withFile.mp listed, here⟩
  rcases nextPath_eq_ok_iff.mp next with ⟨-, path⟩ | ⟨first, names, listing, path⟩
  · obtain ⟨around, listed, here⟩ := place (isSnapshotName_first base) path
    -- Whatever has the first name would be where the new file was made.
    have absent : base ++ extension ∉ middle.namesAt around := by
      rw [Disk.mem_namesAt_iff, ← here, not_not]
      exact wrote.vacant
    have name : nextName base (middle.namesAt around) = base ++ extension := if_neg absent
    exact ⟨around, listed, by rw [name, here], by rw [name, path]⟩
  · obtain ⟨around, listed, here⟩ := place (isSnapshotName_index base _) path
    have isName := (isSnapshotName_first base).isName plain
    obtain ⟨names', listing', present⟩ := Disk.exists_names_of_pathExists given isName first
    cases listing.symm.trans listing'
    cases listing.symm.trans (Disk.names_eq_namesAt listed)
    have name : nextName base (middle.namesAt around) =
        base ++ toString (min (lastIndex base (middle.namesAt around) + 1) maxIndex) ++
          extension := if_pos present
    exact ⟨around, listed, by rw [name, here], by rw [name, path]⟩

theorem Wrote.path : report.path = Path.join dir (nextName base (middle.content dir)) := by
  by_cases given : dir = ""
  · subst given
    -- The empty path cannot be listed, and so only the first name was to be had.
    have name : nextName base (middle.content "") = base ++ extension := if_neg List.not_mem_nil
    rcases nextPath_eq_ok_iff.mp next with ⟨-, path⟩ | ⟨-, names, listing, -⟩
    · rw [name, path]
    · exact absurd rfl (ne_empty_of_names listing)
  · obtain ⟨around, listed, -, path⟩ := wrote.place plain next given
    rw [Disk.content_eq_namesAt listed, path]

/-- For the next run in the same directory, the new name is there behind the others. -/
theorem Wrote.content (given : dir ≠ "") :
    (after.makeDirs dir).2.content dir =
      middle.content dir ++ [nextName base (middle.content dir)] := by
  obtain ⟨around, listed, here, -⟩ := wrote.place plain next given
  have still : after.lookup dir = .ok (around, .directory) := by
    rw [wrote.added]
    exact Disk.lookup_directory_withFile.mpr listed
  rw [Disk.makeDirs_of_lookup still, Disk.content_eq_namesAt still, Disk.content_eq_namesAt listed,
    wrote.added, here, Disk.namesAt_withFile]

end step

/-- Into the empty path there is no second run: what stands at the first name cannot be listed. -/
theorem Wrote.no_second {location : Location} {bytes : Bytes}
    (next : nextPath middle "" base = .ok report.path)
    (wrote : Wrote middle report location bytes after) (path : String) :
    nextPath (after.makeDirs "").2 "" base ≠ .ok path := by
  have unlisted (disk : Disk) {names : List String} : disk.names "" ≠ .ok names :=
    fun listing => ne_empty_of_names listing rfl
  have same : (after.makeDirs "").2 = after := rfl
  rw [same]
  intro again
  rcases nextPath_eq_ok_iff.mp next with ⟨-, first⟩ | ⟨-, names, listing, -⟩
  · rcases nextPath_eq_ok_iff.mp again with ⟨absent, -⟩ | ⟨-, names, listing, -⟩
    · rw [← first, Disk.pathExists, wrote.found] at absent
      cases absent
    · exact unlisted after listing
  · exact unlisted middle listing

/-! ### Runs one after the other -/

/-- Runs one after the other on one disk: what each answers, and the disk after it. -/
def runs : List (Job σ × σ) → Disk → List (Except Error Report × Disk)
  | [], _ => []
  | (job, state) :: jobs, disk =>
    let (result, after, _) := run (job.client.beside Disk) job.degrade job.request (disk, state)
    (result, after) :: runs jobs after

theorem runs_preserve (jobs : List (Job σ × σ)) (disk : Disk) :
    (disk :: (runs jobs disk).map Prod.snd).Pairwise Disk.Preserves := by
  induction jobs generalizing disk with
  | nil => exact List.pairwise_singleton _ _
  | cons head jobs ih =>
    obtain ⟨job, state⟩ := head
    have rest := ih (run (job.client.beside Disk) job.degrade job.request (disk, state)).2.1
    have step := run_preserves job.client job.degrade state job.request disk
    refine List.pairwise_cons.mpr ⟨?_, rest⟩
    intro later among
    rcases List.mem_cons.mp among with rfl | among
    · exact step
    · exact step.trans (List.rel_of_pairwise_cons rest among)

theorem exists_run_of_mem {jobs : List (Job σ × σ)} {ended : Except Error Report × Disk}
    (among : ended ∈ runs jobs disk) :
    ∃ (job : Job σ) (state : σ) (before : Disk),
      ended.1 = (run (job.client.beside Disk) job.degrade job.request (before, state)).1 ∧
      ended.2 = (run (job.client.beside Disk) job.degrade job.request (before, state)).2.1 := by
  induction jobs generalizing disk with
  | nil => cases among
  | cons head jobs ih =>
    obtain ⟨job, state⟩ := head
    rcases List.mem_cons.mp among with rfl | among
    · exact ⟨job, state, disk, rfl, rfl⟩
    · exact ih among

/-- A run into the empty path that has succeeded is the last one that does. -/
theorem Wrote.eq_nil {location : Location} {bytes : Bytes} {jobs : List (Job σ × σ)}
    (next : nextPath middle "" base = .ok report.path)
    (wrote : Wrote middle report location bytes after)
    (asked : ∀ job ∈ jobs, job.1.request.dir = "" ∧ job.1.request.baseName = base)
    (succeed : ∀ ended ∈ runs jobs after, ∃ report, ended.1 = .ok report) : jobs = [] := by
  cases jobs with
  | nil => rfl
  | cons second jobs =>
    obtain ⟨job, state⟩ := second
    obtain ⟨second, -⟩ := List.forall_mem_cons.mp asked
    obtain ⟨dir, named⟩ : job.request.dir = "" ∧ job.request.baseName = base := second
    obtain ⟨⟨report', ok⟩, -⟩ := List.forall_mem_cons.mp succeed
    obtain ⟨again, -⟩ := wrote_of_run job.client job.degrade state ok
    rw [dir, named] at again
    exact absurd again (wrote.no_second next report'.path)

/-- The induction is on the runs still to come. What the first of them leaves decides on their names
as what it found decided on its own. -/
theorem path_of_runs (plain : '/' ∉ base.toList) {jobs : List (Job σ × σ)}
    (asked : ∀ job ∈ jobs, job.1.request.dir = dir ∧ job.1.request.baseName = base)
    (succeed : ∀ ended ∈ runs jobs disk, ∃ report, ended.1 = .ok report) {place : Nat}
    (there : (runs jobs disk)[place]? = some (.ok report, after))
    (listed : (disk.makeDirs dir).2.content dir = names)
    (fits : lastIndex base names + (place + taken base names) ≤ maxIndex) :
    report.path =
      Path.join dir (inRow base (lastIndex base names) (place + taken base names)) := by
  induction jobs generalizing disk place names with
  | nil => cases there
  | cons head jobs ih =>
    obtain ⟨job, state⟩ := head
    obtain ⟨head, asked⟩ := List.forall_mem_cons.mp asked
    obtain ⟨rfl, rfl⟩ : job.request.dir = dir ∧ job.request.baseName = base := head
    obtain ⟨⟨first, ok⟩, succeed⟩ := List.forall_mem_cons.mp succeed
    obtain ⟨next, location, bytes, wrote⟩ := wrote_of_run job.client job.degrade state ok
    have begins : lastIndex job.request.baseName names + taken job.request.baseName names ≤
        maxIndex := by omega
    cases place with
    | zero =>
      have here := congrArg Prod.fst (Option.some.inj there)
      cases ok.symm.trans here
      rw [wrote.path plain next, listed, nextName_eq_inRow begins, Nat.zero_add]
    | succ place =>
      by_cases given : job.request.dir = ""
      · rw [given] at next wrote asked
        cases wrote.eq_nil next asked succeed
        cases there
      · have content := wrote.content plain next given
        rw [listed] at content
        have last := lastIndex_next begins
        have one := taken_next job.request.baseName names
        have path := ih asked succeed there content (by rw [last, one]; omega)
        rw [path, last, one, inRow_add]

/-- Successive runs with one base name into one directory, all of which succeed, get the names in a
row behind the last number of a name there, from that without a number on if nothing has it yet, as
far as there are numbers. Each writes what its report has the digest of, and what was written or was
there before it stays. Only a directory that is missing is made. -/
theorem successive_runs_numbered (plain : '/' ∉ base.toList) (disk : Disk) (dir : String)
    (listed : (disk.makeDirs dir).2.content dir = names) (isLast : IsLast base names last)
    (jobs : List (Job σ × σ))
    (asked : ∀ job ∈ jobs, job.1.request.dir = dir ∧ job.1.request.baseName = base)
    (succeed : ∀ ended ∈ runs jobs disk, ∃ report, ended.1 = .ok report) :
    (∀ around, disk.lookup dir = .ok (around, .directory) → (disk.makeDirs dir).2 = disk) ∧
    (∀ place report after, (runs jobs disk)[place]? = some (.ok report, after) →
      (last + (place + taken base names) ≤ maxIndex →
        report.path = Path.join dir (inRow base last (place + taken base names))) ∧
      ∃ bytes, after.bytesAt? report.path = some bytes ∧
        report.sha256 = Sha256.hexDigest bytes) ∧
    (disk :: (runs jobs disk).map Prod.snd).Pairwise Disk.Preserves := by
  refine ⟨?_, ?_, runs_preserve jobs disk⟩
  · intro around there
    rw [Disk.makeDirs_of_lookup there]
  · intro place report after there
    constructor
    · intro fits
      obtain rfl := isLast.eq_lastIndex
      exact path_of_runs plain asked succeed there listed fits
    · obtain ⟨job, state, before, result, left⟩ :=
        exists_run_of_mem (List.mem_of_getElem? there)
      obtain ⟨-, location, bytes, wrote⟩ :=
        wrote_of_run job.client job.degrade state result.symm
      rw [← left] at wrote
      exact ⟨bytes, wrote.bytesAt?, wrote.digest⟩

def crowdedDisk : Disk :=
  ((((Disk.empty ["w"]).addDir ["w", "d"]).addFile ["w", "d", "s007.sql"]).addFile
    ["w", "d", "s18446744073709551616.sql"]).addFile ["w", "d", "s+9.sql"]

def emptyJobs (dir base : String) (count : Nat) : List (Job Unit × Unit) :=
  List.replicate count
    (⟨(FixedAnswers.mk (.ok []) fun name => .error (.cacheNotFound name)).catalog Unit, true,
      ⟨dir, base, .all⟩⟩, ())

theorem successive_runs_numbered_crowded :
    '/' ∉ "s".toList ∧ IsLast "s" ["s007.sql", "s18446744073709551616.sql", "s+9.sql"] 7 ∧
    ∃ first second third d₁ d₂ d₃,
      runs (emptyJobs "d" "s" 3) crowdedDisk =
        [(.ok first, d₁), (.ok second, d₂), (.ok third, d₃)] ∧
      first.path = "d/s.sql" ∧ second.path = "d/s8.sql" ∧ third.path = "d/s9.sql" ∧
      d₃.bytesAt? "d/s.sql" = d₁.bytesAt? "d/s.sql" := by
  have plain : '/' ∉ "s".toList := by decide
  have isLast : IsLast "s" ["s007.sql", "s18446744073709551616.sql", "s+9.sql"] 7 := by
    have last : lastIndex "s" ["s007.sql", "s18446744073709551616.sql", "s+9.sql"] = 7 := by
      decide +kernel
    rw [← last]
    exact isLast_lastIndex _ _
  have listed : (crowdedDisk.makeDirs "d").2.content "d" =
      ["s007.sql", "s18446744073709551616.sql", "s+9.sql"] := by decide +kernel
  have asked : ∀ job ∈ emptyJobs "d" "s" 3,
      job.1.request.dir = "d" ∧ job.1.request.baseName = "s" := by
    intro job among
    rw [List.eq_of_mem_replicate among]
    exact ⟨rfl, rfl⟩
  have answers : (runs (emptyJobs "d" "s" 3) crowdedDisk).map (·.1.toBool) =
      [true, true, true] := by decide +kernel
  have succeed : ∀ ended ∈ runs (emptyJobs "d" "s" 3) crowdedDisk,
      ∃ report, ended.1 = .ok report := by
    rintro ⟨result, after⟩ among
    have answered := List.mem_map_of_mem (f := fun ended => ended.1.toBool) among
    rw [answers] at answered
    cases result with
    | error e => simp [Except.toBool] at answered
    | ok report => exact ⟨report, rfl⟩
  obtain ⟨⟨r₁, d₁⟩, ⟨r₂, d₂⟩, ⟨r₃, d₃⟩, shape⟩ :=
    List.length_eq_three.mp (by simpa using congrArg List.length answers)
  have result := successive_runs_numbered plain crowdedDisk "d" listed isLast _ asked succeed
  rw [shape] at succeed result
  obtain ⟨first, rfl⟩ := succeed (r₁, d₁) (by simp)
  obtain ⟨second, rfl⟩ := succeed (r₂, d₂) (by simp)
  obtain ⟨third, rfl⟩ := succeed (r₃, d₃) (by simp)
  obtain ⟨-, named, kept⟩ := result
  have path₁ := (named 0 first d₁ rfl).1 (by decide +kernel)
  have path₂ := (named 1 second d₂ rfl).1 (by decide +kernel)
  have path₃ := (named 2 third d₃ rfl).1 (by decide +kernel)
  obtain ⟨bytes, written, -⟩ := (named 0 first d₁ rfl).2
  have spelled : first.path = "d/s.sql" := path₁.trans (by decide +kernel)
  refine ⟨plain, isLast, first, second, third, d₁, d₂, d₃, shape, spelled,
    path₂.trans (by decide +kernel), path₃.trans (by decide +kernel), ?_⟩
  have later : d₁.Preserves d₃ := by
    have behind := (List.pairwise_cons.mp kept).2
    exact List.rel_of_pairwise_cons behind (by simp)
  rw [spelled] at written
  rw [written, later _ _ written]

end GridSchema.Snapshot
