import GridSchema.Proofs.Snapshot.Run
import Mathlib.Logic.Function.Iterate

/-! A run in single steps, between which others may work on the same disk. Taken one after the other
the steps are the whole run. -/

namespace GridSchema.Snapshot

/-- A run to be done: whom it asks, whether unknown classes become objects, and what it is asked
for. -/
structure Job (σ : Type) where
  client : Catalog σ
  degrade : Bool
  request : Request

/-- How far a run has come. One that writes has the answers so far and the names still to ask for.
-/
inductive Stage where
  | preparing
  | naming
  | locking (path : String)
  | listing (file : SnapshotFile)
  | abandoning (file : SnapshotFile) (reason : Error)
  | writing (file : SnapshotFile) (answers : List Answer) (names : List String)
  | failed (reason : Error)
  | finished (file : SnapshotFile) (report : Report)

namespace Stage

def file? : Stage → Option SnapshotFile
  | listing file | abandoning file _ | writing file _ _ | finished file _ => some file
  | preparing | naming | locking _ | failed _ => none

def result? : Stage → Option (Except Error Report)
  | failed reason => some (.error reason)
  | finished _ report => some (.ok report)
  | _ => none

/-- What follows when a name was looked for. -/
def named : Except IoFault String → Stage
  | .error fault => failed (.snapshotOperation .naming (.io fault))
  | .ok path => locking path

end Stage

variable {σ : Type}

/-- The next step of a run: make the directory, find a name, take the file, ask for the names, write
one cache, release the file, or remove it when the names cannot be had. -/
def Job.advance (job : Job σ) : Stage → Disk → σ → Stage × Disk × σ
  | .preparing, disk, state =>
    match disk.makeDirs job.request.dir with
    | (.error fault, disk) =>
      (.failed (.snapshotOperation (.directory job.request.dir) (.io fault)), disk, state)
    | (.ok _, disk) => (.naming, disk, state)
  | .naming, disk, state =>
    (.named (nextPath disk job.request.dir job.request.baseName), disk, state)
  | .locking path, disk, state =>
    match SnapshotFile.acquire disk path with
    | .error e => (.failed (.snapshotOperation .locking e), disk, state)
    | .ok (file, disk) => (.listing file, disk, state)
  | .listing file, disk, state =>
    match enumerate job.client job.request.selection state with
    | (.error e, state) => (.abandoning file e, disk, state)
    | (.ok names, state) => (.writing file [] names, disk, state)
  | .abandoning file e, disk, state =>
    (.failed (.snapshotOperation .creation e), file.discard disk, state)
  | .writing file answers (name :: names), disk, state =>
    let (mapped, state) := mapCache job.client job.degrade name state
    let (file, disk) := appendTable file disk mapped
    (.writing file (answers ++ [(name, mapped)]) names, disk, state)
  | .writing file answers [], disk, state =>
    (.finished file (report file.path (.ofAnswers answers)), file.release disk, state)
  | .failed e, disk, state => (.failed e, disk, state)
  | .finished file report, disk, state => (.finished file report, disk, state)

/-- The steps of a run lead from one state of it, of the disk and of its client to another. -/
inductive Job.Leads (job : Job σ) : Stage × Disk × σ → Stage × Disk × σ → Prop where
  | refl (world : Stage × Disk × σ) : Leads job world world
  | step {stage : Stage} {disk : Disk} {state : σ} {last : Stage × Disk × σ} :
    Leads job (job.advance stage disk state) last → Leads job (stage, disk, state) last

/-- The steps from the first name to the release, if nobody else works on the disk. -/
theorem leads_of_writing (job : Job σ) (path : String) (disk : Disk) (location : Location)
    (answers : List Answer) (names : List String) (state : σ) :
    let (rest, left) := interview job.client job.degrade names state
    job.Leads
      (.writing ⟨disk.files.length, path, (contents answers).length⟩ answers names,
        disk.withFile location ⟨contents answers, true⟩, state)
      (.finished ⟨disk.files.length, path, (contents (answers ++ rest)).length⟩
          (report path (.ofAnswers (answers ++ rest))),
        disk.withFile location ⟨contents (answers ++ rest), false⟩, left) := by
  induction names generalizing answers state with
  | nil =>
    simp only [interview, List.append_nil]
    refine .step ?_
    simp only [Job.advance, SnapshotFile.release_withFile]
    exact .refl _
  | cons name names ih =>
    simp only [interview]
    cases asked : mapCache job.client job.degrade name state with | mk mapped next
    have rest := ih (answers ++ [(name, mapped)]) next
    simp only [contents_append answers, List.append_assoc, List.singleton_append] at rest ⊢
    refine .step ?_
    simp only [Job.advance, asked, appendTable_withFile disk location _ path name mapped]
    exact rest

/-- Alone on a disk, the steps of a run lead to the result of the run, and leave the disk and the
client as it leaves them. -/
theorem leads_to_run (job : Job σ) (disk : Disk) (state : σ) :
    ∃ stage,
      stage.result? =
        some (run (job.client.beside Disk) job.degrade job.request (disk, state)).1 ∧
      job.Leads (.preparing, disk, state)
        (stage, (run (job.client.beside Disk) job.degrade job.request (disk, state)).2) := by
  cases dirs : disk.makeDirs job.request.dir with | mk outcome middle
  cases outcome with
  | error fault =>
    simp only [run, dirs]
    refine ⟨.failed _, rfl, .step ?_⟩
    simp only [Job.advance, dirs]
    exact .refl _
  | ok _ =>
    have prepared {last} (h : job.Leads (.naming, middle, state) last) :
        job.Leads (.preparing, disk, state) last := by
      refine .step ?_
      simpa only [Job.advance, dirs] using h
    cases named : nextPath middle job.request.dir job.request.baseName with
    | error fault =>
      simp only [run, dirs, named]
      refine ⟨.failed _, rfl, prepared (.step ?_)⟩
      simp only [Job.advance, named, Stage.named]
      exact .refl _
    | ok path =>
      have located {last} (h : job.Leads (.locking path, middle, state) last) :
          job.Leads (.preparing, disk, state) last := by
        refine prepared (.step ?_)
        simpa only [Job.advance, named, Stage.named] using h
      simp only [run, dirs, named]
      cases taken : SnapshotFile.acquire middle path with
      | error e =>
        rw [runToPath_refused _ _ _ _ taken]
        refine ⟨.failed _, rfl, located (.step ?_)⟩
        simp only [Job.advance, taken]
        exact .refl _
      | ok held =>
        obtain ⟨file, opened⟩ := held
        obtain ⟨location, vacant, -, rfl, rfl, found⟩ := SnapshotFile.acquire_eq_ok taken
        rw [runToPath_taken _ _ _ _ vacant found taken]
        have locked {last} (h : job.Leads (.listing ⟨middle.files.length, path, 0⟩,
            middle.withFile location ⟨[], true⟩, state) last) :
            job.Leads (.preparing, disk, state) last := by
          refine located (.step ?_)
          simpa only [Job.advance, taken] using h
        cases known : enumerate job.client job.request.selection state with | mk listing listed
        cases listing with
        | error e =>
          refine ⟨.failed _, rfl, locked (.step ?_)⟩
          simp only [Job.advance, known]
          refine .step ?_
          simp only [Job.advance, SnapshotFile.discard_withFile vacant found]
          exact .refl _
        | ok names =>
          have listed {last} (h : job.Leads (.writing ⟨middle.files.length, path, 0⟩ [] names,
              middle.withFile location ⟨[], true⟩, listed) last) :
              job.Leads (.preparing, disk, state) last := by
            refine locked (.step ?_)
            simpa only [Job.advance, known] using h
          exact ⟨.finished _ _, rfl, listed (leads_of_writing job path middle location [] names _)⟩

end GridSchema.Snapshot
