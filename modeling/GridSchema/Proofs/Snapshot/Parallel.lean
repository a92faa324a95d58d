import GridSchema.Proofs.Disk.Spares
import GridSchema.Proofs.Snapshot.Steps

/-! Runs side by side on one disk, on which nobody else works. Whichever of them takes the next
step, none touches a file of another or one that was there before them. -/

namespace GridSchema.Snapshot

variable {before disk after : Disk} {path : String} {number : Nat} {state : FileState}

/-! ### The file of one run -/

/-- A file that was made since a disk was as it was before: its path, which led to nothing, leads to
it now, and it has no other name. -/
structure Made (before disk : Disk) (number : Nat) (path : String) (state : FileState) : Prop where
  new : before.files.length ≤ number
  absent : before.pathExists path = false
  stands : disk.files[number]? = some state
  named : ∃ location, disk.lookup path = .ok (location, .file number) ∧
    ∀ other, disk.entryAt? other = some (.file number) → other = location

namespace Made

theorem spared {other : Nat} (made : Made before disk number path state)
    (spares : Disk.Spares other disk after) (ne : number ≠ other) :
    Made before after number path state where
  new := made.new
  absent := made.absent
  stands := by rw [spares.files number ne, made.stands]
  named := by
    obtain ⟨location, found, only⟩ := made.named
    refine ⟨location, spares.keeps.lookup found ?_, fun place h => ?_⟩
    · rintro n ⟨⟩
      exact ne
    · exact only place (spares.names place number ne h)

theorem change (made : Made before disk number path state) (f : FileState → FileState) :
    Made before (disk.change number f) number path (f state) where
  new := made.new
  absent := made.absent
  stands := by
    change (disk.files.modify number f)[number]? = _
    rw [List.getElem?_modify_eq, made.stands]
    rfl
  named := by
    obtain ⟨location, found, only⟩ := made.named
    have keeps : Disk.Keeps (fun _ => True) disk (disk.change number f) := .change _ _ _
    exact ⟨location, keeps.lookup found fun _ _ => trivial, only⟩

/-- What a run takes is a file that was made, as long as all that was there before is still there.
-/
theorem of_acquire {file : SnapshotFile}
    (taken : SnapshotFile.acquire disk path = .ok (file, after))
    (kept : Disk.Keeps (· < before.files.length) before disk)
    (grown : before.files.length ≤ disk.files.length) :
    file = ⟨disk.files.length, path, 0⟩ ∧ Disk.Spares disk.files.length disk after ∧
      Made before after disk.files.length path ⟨[], true⟩ := by
  obtain ⟨location, vacant, absent, rfl, rfl, found⟩ := SnapshotFile.acquire_eq_ok taken
  refine ⟨rfl, .withFile disk location _, grown, ?_, by simp, location, found, fun other h => ?_⟩
  · exact kept.pathExists_eq_false (fun _ lt => lt) absent
  · rw [Disk.entryAt?_withFile] at h
    cases ho : disk.entryAt? other with
    | none =>
      rw [ho, Option.none_or] at h
      split_ifs at h with same
      exact same
    | some entry =>
      rw [ho] at h
      cases h
      exact absurd (Disk.lt_of_entryAt? ho) (Nat.lt_irrefl _)

theorem bytesAt? (made : Made before disk number path state) :
    disk.bytesAt? path = some state.contents := by
  obtain ⟨location, found, -⟩ := made.named
  simp [Disk.bytesAt?, found, made.stands]

theorem discard (made : Made before disk number path state) (written : Nat) :
    Disk.Spares number disk (SnapshotFile.discard ⟨number, path, written⟩ disk) ∧
      ∀ location, (SnapshotFile.discard ⟨number, path, written⟩ disk).entryAt? location ≠
        some (.file number) := by
  obtain ⟨location, found, only⟩ := made.named
  have there := Disk.entryAt?_of_lookup found
  have discarded : SnapshotFile.discard ⟨number, path, written⟩ disk =
      (disk.unlink location).setLock number false := by
    simp only [SnapshotFile.discard, Disk.removeFile_of_lookup found, SnapshotFile.release]
  rw [discarded]
  refine ⟨(Disk.Spares.unlink there).trans (.change _ _ _), fun other h => ?_⟩
  have h : (disk.unlink location).entryAt? other = some (.file number) := h
  rw [Disk.entryAt?_unlink disk (Disk.ne_nil_of_entryAt? there)] at h
  split_ifs at h with same
  exact same (only other h)

theorem appendTable {file : SnapshotFile} {answers : List Answer}
    (made : Made before disk file.number file.path ⟨contents answers, true⟩)
    (written : file.written = (contents answers).length) (name : String)
    (mapped : Except Error MappedTable) :
    let (longer, after) := Snapshot.appendTable file disk mapped
    (∃ written, longer = { file with written }) ∧
      longer.written = (contents (answers ++ [(name, mapped)])).length ∧
      Disk.Spares file.number disk after ∧
      Made before after longer.number longer.path
        ⟨contents (answers ++ [(name, mapped)]), true⟩ := by
  cases mapped with
  | error reason =>
    rw [contents_append, contents_error, List.append_nil]
    exact ⟨⟨_, rfl⟩, written, .refl _ _, made⟩
  | ok mapped =>
    rw [contents_append, contents_ok]
    simp only [Snapshot.appendTable, SnapshotFile.append]
    refine ⟨⟨_, rfl⟩, by rw [List.length_append, written], .change _ _ _, ?_⟩
    have appended := Disk.overwrite_length (contents answers) (SnapshotFile.line mapped.table.ddl)
    rw [← written] at appended
    rw [← appended]
    exact made.change _

end Made

/-! ### One run among others -/

section single

variable {σ : Type} {job : Job σ} {start client : σ} {stage : Stage}

/-- What is true of a run whose client was in a state when it started. Its file, while it has one,
holds the contents of the answers so far; these and the answers still to come are those to all
names. -/
def Stage.Valid (job : Job σ) (before disk : Disk) (start : σ) : Stage → σ → Prop
  | .preparing, client | .naming, client | .locking _, client => client = start
  | .failed _, _ => True
  | .listing file, client =>
    client = start ∧ file.written = 0 ∧ Made before disk file.number file.path ⟨[], true⟩
  | .abandoning file _, _ => Made before disk file.number file.path ⟨[], true⟩
  | .writing file answers names, client =>
    file.written = (contents answers).length ∧
      Made before disk file.number file.path ⟨contents answers, true⟩ ∧
      ∃ all listed, enumerate job.client job.request.selection start = (.ok all, listed) ∧
        (interview job.client job.degrade all listed).1 =
          answers ++ (interview job.client job.degrade names client).1
  | .finished file report, _ =>
    ∃ all listed, enumerate job.client job.request.selection start = (.ok all, listed) ∧
      let answers := (interview job.client job.degrade all listed).1
      report = Snapshot.report file.path (.ofAnswers answers) ∧
        Made before disk file.number file.path ⟨contents answers, false⟩

/-- The file that the next step of a run may change: its own, or the next one to be made. -/
def Stage.target (disk : Disk) (stage : Stage) : Nat :=
  (stage.file?.map SnapshotFile.number).getD disk.files.length

theorem Stage.Valid.made (valid : stage.Valid job before disk start client) {file : SnapshotFile}
    (own : stage.file? = some file) :
    ∃ state, Made before disk file.number file.path state := by
  cases stage with
  | preparing | naming | locking _ | failed _ => cases own
  | listing _ | abandoning _ _ | writing _ _ _ | finished _ _ =>
    cases own
    simp only [Stage.Valid] at valid
    grind

/-- What is true of a run stays true while others work on other files. -/
theorem Stage.Valid.spared (valid : stage.Valid job before disk start client) {other : Nat}
    (spares : Disk.Spares other disk after)
    (ne : ∀ file, stage.file? = some file → file.number ≠ other) :
    stage.Valid job before after start client := by
  cases stage with
  | preparing | naming | locking _ | failed _ => exact valid
  | listing file => exact ⟨valid.1, valid.2.1, valid.2.2.spared spares (ne file rfl)⟩
  | abandoning file _ => exact Made.spared valid spares (ne file rfl)
  | writing file answers names =>
    exact ⟨valid.1, valid.2.1.spared spares (ne file rfl), valid.2.2⟩
  | finished file report =>
    obtain ⟨all, listed, known, text, made⟩ := valid
    exact ⟨all, listed, known, text, made.spared spares (ne file rfl)⟩

/-- What a step of one run does: it changes one file at most, and what was true of the run stays
true. If the file has a name afterwards it is the run's own. -/
structure Advances (job : Job σ) (before : Disk) (start : σ) (target : Nat) (disk : Disk)
    (next : Stage × Disk × σ) : Prop where
  spares : Disk.Spares target disk next.2.1
  valid : next.1.Valid job before next.2.1 start next.2.2
  own : ∀ file, next.1.file? = some file → file.number = target
  rest : ∀ location, next.2.1.entryAt? location = some (.file target) →
    ∃ file, next.1.file? = some file

/-- A step that takes no file and makes nothing but directories. -/
theorem Advances.of_onlyDirs (only : Disk.OnlyDirs disk after)
    (valid : stage.Valid job before after start client) (none : stage.file? = none) :
    Advances job before start disk.files.length disk (stage, after, client) where
  spares := .of_onlyDirs only _
  valid := valid
  own file h := by
    rw [none] at h
    cases h
  rest location h :=
    absurd (Disk.lt_of_entryAt? (only.entryAt?_file.mp h)) (Nat.lt_irrefl _)

theorem Advances.of_change {file : SnapshotFile} (spares : Disk.Spares file.number disk after)
    (valid : stage.Valid job before after start client)
    (own : ∃ written, stage.file? = some { file with written }) :
    Advances job before start file.number disk (stage, after, client) where
  spares := spares
  valid := valid
  own other h := by
    obtain ⟨written, own⟩ := own
    rw [own] at h
    cases h
    rfl
  rest _ _ := ⟨_, own.choose_spec⟩

theorem advances_listing {file : SnapshotFile}
    (valid : (Stage.listing file).Valid job before disk start client) :
    Advances job before start file.number disk (job.advance (.listing file) disk client) := by
  obtain ⟨rfl, none, made⟩ := valid
  simp only [Job.advance]
  cases known : enumerate job.client job.request.selection client with | mk listing listed
  cases listing with
  | error e => exact .of_change (.refl _ _) made ⟨file.written, rfl⟩
  | ok names => exact .of_change (.refl _ _) ⟨none, made, names, listed, known, rfl⟩ ⟨_, rfl⟩

theorem advances_writing {file : SnapshotFile} {answers : List Answer} {names : List String}
    (valid : (Stage.writing file answers names).Valid job before disk start client) :
    Advances job before start file.number disk
      (job.advance (.writing file answers names) disk client) := by
  obtain ⟨written, made, all, listed, known, asked⟩ := valid
  cases names with
  | nil =>
    simp only [Job.advance]
    rw [interview, List.append_nil] at asked
    refine .of_change (.change _ _ _) ⟨all, listed, known, by rw [asked], ?_⟩ ⟨_, rfl⟩
    rw [asked]
    exact made.change _
  | cons name names =>
    simp only [Job.advance]
    simp only [interview] at asked
    cases answer : mapCache job.client job.degrade name client with | mk mapped next
    rw [answer] at asked
    have asked : (interview job.client job.degrade all listed).1 =
        answers ++ [(name, mapped)] ++ (interview job.client job.degrade names next).1 := by
      rw [asked, List.append_assoc, List.singleton_append]
    obtain ⟨⟨_, own⟩, longer, spares, text⟩ := made.appendTable written name mapped
    exact .of_change spares ⟨longer, text, all, listed, known, asked⟩ ⟨_, congrArg some own⟩

/-- What one step does, wherever a run is and whatever others have done to the disk. -/
theorem advances (kept : Disk.Keeps (· < before.files.length) before disk)
    (grown : before.files.length ≤ disk.files.length)
    (valid : stage.Valid job before disk start client) :
    Advances job before start (stage.target disk) disk (job.advance stage disk client) := by
  cases stage with
  | preparing =>
    have only := Disk.makeDirs_onlyDirs disk job.request.dir
    simp only [Job.advance]
    cases dirs : disk.makeDirs job.request.dir with | mk outcome middle
    rw [dirs] at only
    cases outcome with
    | error fault => exact .of_onlyDirs only trivial rfl
    | ok _ => exact .of_onlyDirs only valid rfl
  | naming =>
    simp only [Job.advance]
    cases nextPath disk job.request.dir job.request.baseName with
    | error fault => exact .of_onlyDirs (.refl _) trivial rfl
    | ok path => exact .of_onlyDirs (.refl _) valid rfl
  | locking path =>
    simp only [Job.advance]
    cases taken : SnapshotFile.acquire disk path with
    | error e => exact .of_onlyDirs (.refl _) trivial rfl
    | ok held =>
      obtain ⟨file, opened⟩ := held
      obtain ⟨rfl, spares, made⟩ := Made.of_acquire taken kept grown
      exact ⟨spares, ⟨valid, rfl, made⟩, fun file own => by cases own; rfl, fun _ _ => ⟨_, rfl⟩⟩
  | listing file => exact advances_listing valid
  | abandoning file reason =>
    obtain ⟨spares, gone⟩ := Made.discard valid file.written
    refine ⟨spares, trivial, fun file own => ?_, fun location h => absurd h (gone location)⟩
    cases own
  | writing file answers names => exact advances_writing valid
  | failed reason => exact .of_onlyDirs (.refl _) trivial rfl
  | finished file report => exact .of_change (.refl _ _) valid ⟨_, rfl⟩

end single

/-! ### All runs -/

variable {ι : Type} {σ : ι → Type}

/-- Runs in progress on one disk: how far each has come, and the state of its client. -/
structure Parallel (σ : ι → Type) where
  disk : Disk
  stage : ι → Stage
  client : ∀ i, σ i

namespace Parallel

def start (disk : Disk) (client : ∀ i, σ i) : Parallel σ :=
  ⟨disk, fun _ => .preparing, client⟩

variable [DecidableEq ι]

def step (jobs : ∀ i, Job (σ i)) (runs : Parallel σ) (i : ι) : Parallel σ :=
  let (stage, disk, client) := (jobs i).advance (runs.stage i) runs.disk (runs.client i)
  ⟨disk, Function.update runs.stage i stage, Function.update runs.client i client⟩

def follow (jobs : ∀ i, Job (σ i)) (runs : Parallel σ) (schedule : List ι) : Parallel σ :=
  schedule.foldl (step jobs) runs

end Parallel

/-- What stays true while runs take steps: the disk has kept what was on it, every other file is
that of a run, and each run has a file of its own. -/
structure Invariant (jobs : ∀ i, Job (σ i)) (before : Disk) (start : ∀ i, σ i)
    (runs : Parallel σ) : Prop where
  kept : Disk.Keeps (· < before.files.length) before runs.disk
  files : ∀ number < before.files.length, runs.disk.files[number]? = before.files[number]?
  grown : before.files.length ≤ runs.disk.files.length
  names : ∀ location number, runs.disk.entryAt? location = some (.file number) →
    before.entryAt? location = some (.file number) ∨
      ∃ i file, (runs.stage i).file? = some file ∧ file.number = number
  apart : ∀ i j file other, (runs.stage i).file? = some file →
    (runs.stage j).file? = some other → file.number = other.number → i = j
  valid : ∀ i, (runs.stage i).Valid (jobs i) before runs.disk (start i) (runs.client i)

namespace Invariant

variable {jobs : ∀ i, Job (σ i)} {start : ∀ i, σ i} {runs : Parallel σ}

theorem init (jobs : ∀ i, Job (σ i)) (disk : Disk) (start : ∀ i, σ i) :
    Invariant jobs disk start (.start disk start) where
  kept := .refl _ _
  files _ _ := rfl
  grown := Nat.le_refl _
  names _ _ h := .inl h
  apart _ _ _ _ h := nomatch h
  valid _ := rfl

theorem ne_target (h : Invariant jobs before start runs) {i j : ι} (ne : j ≠ i)
    {file : SnapshotFile} (own : (runs.stage j).file? = some file) :
    file.number ≠ (runs.stage i).target runs.disk := by
  unfold Stage.target
  cases other : (runs.stage i).file? with
  | some held =>
    intro same
    exact ne (h.apart j i file held own other same)
  | none =>
    obtain ⟨state, made⟩ := (h.valid j).made own
    have := (List.getElem?_eq_some_iff.mp made.stands).1
    exact Nat.ne_of_lt this

theorem le_target (h : Invariant jobs before start runs) (i : ι) :
    before.files.length ≤ (runs.stage i).target runs.disk := by
  unfold Stage.target
  cases own : (runs.stage i).file? with
  | some held =>
    obtain ⟨state, made⟩ := (h.valid i).made own
    exact made.new
  | none => exact h.grown

variable [DecidableEq ι]

theorem step (h : Invariant jobs before start runs) (i : ι) :
    Invariant jobs before start (runs.step jobs i) := by
  have moved := advances h.kept h.grown (h.valid i)
  have old := h.le_target i
  have foreign {j : ι} {file : SnapshotFile} (ne : j ≠ i)
      (own : (runs.stage j).file? = some file) : file.number ≠ (runs.stage i).target runs.disk :=
    h.ne_target ne own
  have mine {file} (own : (runs.stage i).file? = some file) :
      file.number = (runs.stage i).target runs.disk := by
    simp [Stage.target, own]
  unfold Parallel.step
  generalize (runs.stage i).target runs.disk = target at moved old foreign mine
  generalize (jobs i).advance (runs.stage i) runs.disk (runs.client i) = next at moved
  obtain ⟨stage, after, client⟩ := next
  obtain ⟨spares, valid, own, rest⟩ := moved
  simp only at spares valid own rest ⊢
  have others {j : ι} (ne : j ≠ i) : Function.update runs.stage i stage j = runs.stage j :=
    Function.update_of_ne ne _ _
  have self : Function.update runs.stage i stage i = stage := Function.update_self ..
  refine ⟨?_, ?_, Nat.le_trans h.grown spares.grows, ?_, ?_, ?_⟩
  · exact h.kept.trans (spares.keeps.mono fun number lt => by omega)
  · intro number lt
    rw [← h.files number lt]
    exact spares.files number (by omega)
  · intro location number there
    by_cases same : number = target
    · subst same
      obtain ⟨file, held⟩ := rest location there
      exact .inr ⟨i, file, (congrArg Stage.file? self).trans held, own file held⟩
    · rcases h.names location number (spares.names location number same there) with old | held
      · exact .inl old
      · obtain ⟨j, file, held, rfl⟩ := held
        have ne : j ≠ i := by
          rintro rfl
          exact same (mine held)
        exact .inr ⟨j, file, (congrArg Stage.file? (others ne)).trans held, rfl⟩
  · intro j k file other hj hk same
    simp only at hj hk
    by_cases ej : j = i <;> by_cases ek : k = i
    · rw [ej, ek]
    · subst ej
      rw [self] at hj
      rw [others ek] at hk
      exact absurd (same.symm.trans (own file hj)) (foreign ek hk)
    · subst ek
      rw [self] at hk
      rw [others ej] at hj
      exact absurd (same.trans (own other hk)) (foreign ej hj)
    · rw [others ej] at hj
      rw [others ek] at hk
      exact h.apart j k file other hj hk same
  · intro j
    by_cases ej : j = i
    · subst ej
      simpa using valid
    · simpa [Function.update_of_ne ej] using (h.valid j).spared spares fun file => foreign ej

theorem follow (h : Invariant jobs before start runs) (schedule : List ι) :
    Invariant jobs before start (runs.follow jobs schedule) := by
  induction schedule generalizing runs with
  | nil => exact h
  | cons i rest ih => exact ih (h.step i)

end Invariant

/-- What runs leave of each other and of what was there before them. Those that hold a file or have
written one have different files at different paths, which led to nothing at the start; each file
has the contents of its own run's answers, and the other files are those that there were. -/
structure Separate (jobs : ∀ i, Job (σ i)) (before : Disk) (start : ∀ i, σ i)
    (runs : Parallel σ) : Prop where
  apart : ∀ i j file other, (runs.stage i).file? = some file → (runs.stage j).file? = some other →
    file.number = other.number ∨ file.path = other.path → i = j
  absent : ∀ i file, (runs.stage i).file? = some file → before.pathExists file.path = false
  writing : ∀ i file answers names, runs.stage i = .writing file answers names →
    runs.disk.bytesAt? file.path = some (contents answers)
  finished : ∀ i file report, runs.stage i = .finished file report →
    ∃ names listed,
      enumerate (jobs i).client (jobs i).request.selection (start i) = (.ok names, listed) ∧
      let answers := (interview (jobs i).client (jobs i).degrade names listed).1
      report = Snapshot.report file.path (.ofAnswers answers) ∧
        runs.disk.bytesAt? report.path = some (contents answers) ∧
        runs.disk.isLocked file.number = false
  names : ∀ location number, runs.disk.entryAt? location = some (.file number) →
    before.entryAt? location = some (.file number) ∨
      ∃ i file, (runs.stage i).file? = some file ∧
        runs.disk.lookup file.path = .ok (location, .file number)
  files : ∀ location state, before.fileAt? location = some state →
    runs.disk.fileAt? location = some state

/-- However many runs work on a disk, and in whatever order they take their steps, at every moment
no two of them have one file, a run that failed has left none, and no file of another is changed. -/
theorem parallel_runs_share_no_file [DecidableEq ι] (jobs : ∀ i, Job (σ i)) (disk : Disk)
    (start : ∀ i, σ i) (schedule : List ι) :
    Separate jobs disk start ((Parallel.start disk start).follow jobs schedule) := by
  have h := (Invariant.init jobs disk start).follow schedule
  generalize (Parallel.start disk start).follow jobs schedule = runs at h
  refine ⟨?_, ?_, ?_, ?_, ?_, ?_⟩
  · intro i j file other hi hj same
    rcases same with number | path
    · exact h.apart i j file other hi hj number
    · obtain ⟨_, mine⟩ := (h.valid i).made hi
      obtain ⟨_, theirs⟩ := (h.valid j).made hj
      obtain ⟨_, found, -⟩ := mine.named
      obtain ⟨_, found', -⟩ := theirs.named
      -- one path leads to one file
      rw [path, found'] at found
      simp only [Except.ok.injEq, Prod.mk.injEq, Entry.file.injEq] at found
      exact h.apart i j file other hi hj found.2.symm
  · intro i file own
    obtain ⟨_, made⟩ := (h.valid i).made own
    exact made.absent
  · intro i file answers names at_i
    have valid := h.valid i
    rw [at_i] at valid
    exact valid.2.1.bytesAt?
  · intro i file report at_i
    have valid := h.valid i
    rw [at_i] at valid
    obtain ⟨names, listed, known, rfl, made⟩ := valid
    exact ⟨names, listed, known, rfl, made.bytesAt?, by simp [Disk.isLocked, made.stands]⟩
  · intro location number there
    rcases h.names location number there with old | ⟨i, file, own, rfl⟩
    · exact .inl old
    · obtain ⟨_, made⟩ := (h.valid i).made own
      obtain ⟨place, found, only⟩ := made.named
      rw [only location there]
      exact .inr ⟨i, file, own, found⟩
  · intro location state old
    obtain ⟨number, there, stands⟩ := Disk.fileAt?_eq_some_iff.mp old
    have lt := Disk.lt_of_entryAt? there
    refine Disk.fileAt?_eq_some_iff.mpr ⟨number, h.kept.file location number lt there, ?_⟩
    rw [h.files number lt, stands]

def olderDisk : Disk where
  entries := [(["d"], .directory), (["d", "out"], .directory), (["d", "out", "s.sql"], .file 0)]
  files := [⟨"old\n".toUTF8.data.toList, false⟩]
  workingDir := ["d"]
  numbered location number mem := by
    obtain ⟨-, rfl⟩ : location = ["d", "out", "s.sql"] ∧ number = 0 := by simpa using mem
    exact Nat.zero_lt_one

def silentAnswers : FixedAnswers :=
  { oddAnswers with names := .error .clientClosed }

/-- Two runs that find the same name, one with a name of its own, and one that is not told what to
ask for. -/
def crowd (i : Fin 4) : Job Unit :=
  match i with
  | 0 => ⟨oddAnswers.catalog Unit, true, ⟨"out", "s", .only ["odd"]⟩⟩
  | 1 => ⟨oddAnswers.catalog Unit, true, ⟨"out", "s", .all⟩⟩
  | 2 => ⟨oddAnswers.catalog Unit, true, ⟨"out", "t", .all⟩⟩
  | 3 => ⟨silentAnswers.catalog Unit, true, ⟨"out", "u", .all⟩⟩

/-- The four runs take their steps in turn. -/
def rounds : List (Fin 4) :=
  (List.replicate 8 [0, 1, 2, 3]).flatten

/-- Why a run failed, if it did. -/
def Stage.reason? : Stage → Option Error
  | failed reason => some reason
  | _ => none

theorem Stage.exists_finished {stage : Stage} {path : String}
    (done : (stage.result?.bind Except.toOption).map Report.path = some path) :
    ∃ file report, stage = .finished file report ∧ report.path = path := by
  cases stage with
  | finished file report => exact ⟨file, report, rfl, Option.some.inj done⟩
  | _ => cases done

theorem parallel_runs_share_no_file_crowd :
    let runs := (Parallel.start olderDisk fun _ => ()).follow crowd rounds
    runs.disk.bytesAt? "out/s1.sql" = some
        ("CREATE TABLE IF NOT EXISTS ROW (\n    id BIGINT PRIMARY KEY,\n    tag OBJECT\n) " ++
          "WITH \"cache_name=odd\";\n").toUTF8.data.toList ∧
      runs.disk.bytesAt? "out/t.sql" = some
        ("CREATE TABLE IF NOT EXISTS ROW (\n    id BIGINT PRIMARY KEY,\n    tag OBJECT\n) " ++
          "WITH \"cache_name=odd\";\n" ++
          "CREATE TABLE IF NOT EXISTS ROW (\n    id BIGINT PRIMARY KEY,\n    tag OBJECT\n) " ++
          "WITH \"cache_name=odd\";\n").toUTF8.data.toList ∧
      runs.disk.fileAt? ["d", "out", "s.sql"] = some ⟨"old\n".toUTF8.data.toList, false⟩ ∧
      (runs.stage 1).reason? =
        some (.snapshotOperation .locking (.lockContention "out/s1.sql")) ∧
      (runs.stage 3).reason? = some (.snapshotOperation .creation .clientClosed) ∧
      runs.disk.pathExists "out/u.sql" = false := by
  intro runs
  have separate := parallel_runs_share_no_file crowd olderDisk (fun _ => ()) rounds
  have one : ((runs.stage 0).result?.bind Except.toOption).map Report.path =
      some "out/s1.sql" := by
    decide +kernel
  have other : ((runs.stage 2).result?.bind Except.toOption).map Report.path =
      some "out/t.sql" := by
    decide +kernel
  obtain ⟨file, report, at_one, place⟩ := Stage.exists_finished one
  obtain ⟨file', report', at_other, place'⟩ := Stage.exists_finished other
  obtain ⟨names, listed, known, -, bytes, -⟩ := separate.finished 0 file report at_one
  obtain ⟨names', listed', known', -, bytes', -⟩ := separate.finished 2 file' report' at_other
  cases known
  cases known'
  rw [place] at bytes
  rw [place'] at bytes'
  refine ⟨bytes.trans ?_, bytes'.trans ?_, separate.files _ _ rfl, ?_, ?_, ?_⟩
  all_goals decide +kernel

end GridSchema.Snapshot
