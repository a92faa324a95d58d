import GridSchema.Proofs.Snapshot.Confinement
import GridSchema.Proofs.Snapshot.Index

/-! The name that the next snapshot gets is one that nothing has, unless the directory is full: the
largest index has been given, and it is given again. -/

namespace GridSchema.Snapshot

variable {disk : Disk} {dir base path : String}

/-- Whether a directory has a snapshot without an index and one with the largest. -/
def IsFull (disk : Disk) (dir base : String) : Prop :=
  disk.pathExists (Path.join dir (base ++ extension)) = true ∧
    disk.pathExists (Path.join dir (base ++ toString maxIndex ++ extension)) = true

theorem nextPath_eq_ok_iff :
    nextPath disk dir base = .ok path ↔
      disk.pathExists (Path.join dir (base ++ extension)) = false ∧
        path = Path.join dir (base ++ extension) ∨
      disk.pathExists (Path.join dir (base ++ extension)) = true ∧
        ∃ names, disk.names dir = .ok names ∧
          path = Path.join dir
            (base ++ toString (min (lastIndex base names + 1) maxIndex) ++ extension) := by
  unfold nextPath
  by_cases first : disk.pathExists (Path.join dir (base ++ extension)) = true
  · simp only [first, if_true, Bool.true_eq_false, false_and, false_or, true_and, bind_eq_ok]
    refine exists_congr fun names => and_congr_right fun _ => ?_
    constructor
    · rintro ⟨⟩
      rfl
    · rintro rfl
      rfl
  · rw [if_neg first]
    rw [Bool.not_eq_true] at first
    simp only [first, true_and, Bool.false_eq_true, false_and, or_false]
    constructor
    · rintro ⟨⟩
      rfl
    · rintro rfl
      rfl

theorem ne_empty_of_names {names : List String} (listing : disk.names dir = .ok names) :
    dir ≠ "" := by
  rintro rfl
  cases listing

/-- A run with nobody else on the disk is refused its file if its next path cannot be taken. -/
theorem run_eq_locking_iff {σ : Type} (client : Catalog σ) (degrade : Bool) (request : Request)
    (state : σ) {e : Error} :
    (run (client.beside Disk) degrade request (disk, state)).1 =
        .error (.snapshotOperation .locking e) ↔
      (disk.makeDirs request.dir).1 = .ok () ∧
        ∃ path, nextPath (disk.makeDirs request.dir).2 request.dir request.baseName = .ok path ∧
          SnapshotFile.acquire (disk.makeDirs request.dir).2 path = .error e := by
  cases dirs : disk.makeDirs request.dir with | mk outcome around
  cases outcome with
  | error fault =>
    simp only [run, dirs]
    constructor
    · rintro ⟨⟩
    · rintro ⟨⟨⟩, -⟩
  | ok _ =>
    cases named : nextPath around request.dir request.baseName with
    | error fault =>
      simp only [run, dirs, named]
      constructor
      · rintro ⟨⟩
      · rintro ⟨-, _, ⟨⟩, -⟩
    | ok path =>
      cases taken : SnapshotFile.acquire around path with
      | error e' =>
        have refused := runToPath_refused client degrade request.selection state taken
        simp only [run, dirs, named, refused]
        constructor
        · rintro ⟨⟩
          exact ⟨trivial, path, rfl, taken⟩
        · rintro ⟨-, _, ⟨⟩, taken'⟩
          cases taken.symm.trans taken'
          rfl
      | ok held =>
        obtain ⟨file, opened⟩ := held
        obtain ⟨location, vacant, -, rfl, rfl, found⟩ := SnapshotFile.acquire_eq_ok taken
        have ends := runToPath_taken client degrade request.selection state vacant found taken
        simp only [run, dirs, named, ends]
        constructor
        · cases enumerate client request.selection state with | mk listing listed
          cases listing <;> rintro ⟨⟩
        · rintro ⟨-, _, ⟨⟩, taken'⟩
          cases taken.symm.trans taken'

/-! ### A full directory -/

section full

variable (plain : '/' ∉ base.toList)
include plain

/-- What is there by the name of an index is listed, and so the last index is not below it. -/
theorem le_lastIndex_of_pathExists {names : List String} (listing : disk.names dir = .ok names)
    {index : Nat} (fits : index ≤ maxIndex)
    (there : disk.pathExists (Path.join dir (base ++ toString index ++ extension)) = true) :
    index ≤ lastIndex base names := by
  have isName := (isSnapshotName_index base index).isName plain
  obtain ⟨names', listing', listed⟩ :=
    Disk.exists_names_of_pathExists (ne_empty_of_names listing) isName there
  obtain rfl : names = names' := Except.ok.inj (listing.symm.trans listing')
  exact le_lastIndex listed (index?_toString base fits)

theorem isFull_of_pathExists (next : nextPath disk dir base = .ok path)
    (there : disk.pathExists path = true) : IsFull disk dir base := by
  rcases nextPath_eq_ok_iff.mp next with ⟨absent, rfl⟩ | ⟨first, names, listing, rfl⟩
  · rw [absent] at there
    cases there
  · have last := lastIndex_le base names
    have fits : min (lastIndex base names + 1) maxIndex ≤ maxIndex := Nat.min_le_right _ _
    have counted := le_lastIndex_of_pathExists plain listing fits there
    -- No index past the last one is counted, so there is none past it.
    have largest : min (lastIndex base names + 1) maxIndex = maxIndex := by omega
    rw [largest] at there
    exact ⟨first, there⟩

theorem nextPath_of_isFull (full : IsFull disk dir base)
    (next : nextPath disk dir base = .ok path) :
    dir ≠ "" ∧ path = Path.join dir (base ++ toString maxIndex ++ extension) := by
  obtain ⟨first, there⟩ := full
  rcases nextPath_eq_ok_iff.mp next with ⟨absent, -⟩ | ⟨-, names, listing, rfl⟩
  · rw [first] at absent
    cases absent
  · have counted := le_lastIndex_of_pathExists plain listing (Nat.le_refl _) there
    have largest : min (lastIndex base names + 1) maxIndex = maxIndex := by omega
    rw [largest]
    exact ⟨ne_empty_of_names listing, rfl⟩

theorem pathExists_nextPath_iff (next : nextPath disk dir base = .ok path) :
    disk.pathExists path = true ↔ IsFull disk dir base := by
  refine ⟨isFull_of_pathExists plain next, ?_⟩
  intro full
  rw [(nextPath_of_isFull plain full next).2]
  exact full.2

/-! ### Runs with nobody else on the disk -/

theorem acquire_of_isFull (given : dir ≠ "") (full : IsFull disk dir base) :
    SnapshotFile.acquire disk (Path.join dir (base ++ toString maxIndex ++ extension)) =
      .error (.lockContention (Path.join dir (base ++ toString maxIndex ++ extension))) := by
  have isName := (isSnapshotName_index base maxIndex).isName plain
  have unslashed :
      Path.slashed (Path.join dir (base ++ toString maxIndex ++ extension)) = false := by
    unfold Path.slashed Address.slashed
    rw [Path.endsInSlash_join given isName, Bool.false_and]
  rw [SnapshotFile.acquire_of_pathExists full.2, unslashed]
  rfl

theorem contention_iff_isFull {σ : Type} (client : Catalog σ) (degrade : Bool)
    (selection : Selection) (state : σ) :
    (run (client.beside Disk) degrade ⟨dir, base, selection⟩ (disk, state)).1 =
        .error (.snapshotOperation .locking (.lockContention path)) ↔
      dir ≠ "" ∧ (disk.makeDirs dir).1 = .ok () ∧ IsFull (disk.makeDirs dir).2 dir base ∧
        path = Path.join dir (base ++ toString maxIndex ++ extension) := by
  rw [run_eq_locking_iff]
  constructor
  · rintro ⟨made, chosen, next, taken⟩
    obtain ⟨rfl, there⟩ := SnapshotFile.pathExists_of_contention taken
    have full := isFull_of_pathExists plain next there
    obtain ⟨given, last⟩ := nextPath_of_isFull plain full next
    exact ⟨given, made, full, last⟩
  · rintro ⟨given, made, full, rfl⟩
    obtain ⟨name, isNext⟩ := exists_isNext (disk.makeDirs dir).2 given plain
    have next := isNext.nextPath
    rw [(nextPath_of_isFull plain full next).2] at next
    exact ⟨made, _, next, acquire_of_isFull plain given full⟩

end full

/-- A directory other than the empty path has a next path for a base name without slashes. Nothing
is at that path unless the directory is full, and only then is a run with nobody else on the disk
refused its file for being there. A disk has directories and files only: a symbolic link that leads
nowhere would be a name at which nothing can be found and no file be made. -/
theorem next_fresh_unless_full (plain : '/' ∉ base.toList) (disk : Disk) (dir : String) :
    (dir ≠ "" → ∃ path, nextPath disk dir base = .ok path) ∧
    (∀ path, nextPath disk dir base = .ok path →
      (disk.pathExists path = true ↔ IsFull disk dir base)) ∧
    ∀ {σ : Type} (client : Catalog σ) (degrade : Bool) (selection : Selection) (state : σ)
        (path : String),
      (run (client.beside Disk) degrade ⟨dir, base, selection⟩ (disk, state)).1 =
          .error (.snapshotOperation .locking (.lockContention path)) ↔
        dir ≠ "" ∧ (disk.makeDirs dir).1 = .ok () ∧ IsFull (disk.makeDirs dir).2 dir base ∧
          path = Path.join dir (base ++ toString maxIndex ++ extension) := by
  refine ⟨?_, fun path => pathExists_nextPath_iff plain, ?_⟩
  · intro given
    obtain ⟨name, isNext⟩ := exists_isNext disk given plain
    exact ⟨_, isNext.nextPath⟩
  · intro σ client degrade selection state path
    exact contention_iff_isFull plain client degrade selection state

def fullDisk : Disk :=
  (((Disk.empty ["w"]).addDir ["w", "d"]).addFile ["w", "d", "s.sql"]).addFile
    ["w", "d", "s18446744073709551615.sql"]

theorem isFull_fullDisk : IsFull fullDisk "d" "s" := by
  unfold IsFull
  decide +kernel

theorem next_fresh_unless_full_last :
    '/' ∉ "s".toList ∧
    (∀ path, nextPath fullDisk "d" "s" = .ok path → fullDisk.pathExists path = true) ∧
    (run ((oddAnswers.catalog Unit).beside Disk) true ⟨"d", "s", .all⟩ (fullDisk, ())).1 =
      .error (.snapshotOperation .locking (.lockContention "d/s18446744073709551615.sql")) := by
  have plain : '/' ∉ "s".toList := by decide
  have dirs : fullDisk.makeDirs "d" = (.ok (), fullDisk) := by decide +kernel
  have last : "d/s18446744073709551615.sql" =
      Path.join "d" ("s" ++ toString maxIndex ++ extension) := by decide +kernel
  obtain ⟨-, fresh, refused⟩ := next_fresh_unless_full plain fullDisk "d"
  refine ⟨plain, fun path next => (fresh path next).mpr isFull_fullDisk, ?_⟩
  refine (refused (oddAnswers.catalog Unit) true .all () _).mpr ⟨by decide, ?_, ?_, last⟩
  · rw [dirs]
  · rw [dirs]
    exact isFull_fullDisk

/-- The path of a full directory is one that something is at. -/
theorem next_not_always_fresh :
    ¬ ∀ (disk : Disk) (dir base path : String), '/' ∉ base.toList →
      nextPath disk dir base = .ok path → disk.pathExists path = false := by
  intro fresh
  have next : nextPath fullDisk "d" "s" = .ok "d/s18446744073709551615.sql" := by decide +kernel
  have absent := fresh fullDisk "d" "s" _ (by decide) next
  have there : fullDisk.pathExists "d/s18446744073709551615.sql" = true := by decide +kernel
  rw [there] at absent
  cases absent

end GridSchema.Snapshot
