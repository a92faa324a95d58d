import GridSchema.Proofs.Disk.SameNames
import GridSchema.Proofs.Snapshot.Concurrent

/-! What a run depends on: the place that the disk has for its file, and what its client tells
it. -/

namespace GridSchema.Snapshot

/-! ### The order of a report -/

theorem dumped_sublist (answers : List Answer) :
    (answers.filterMap Answer.dumped?).Sublist (answers.map Prod.fst) := by
  induction answers with
  | nil => exact .slnil
  | cons answer answers ih =>
    obtain ⟨name, mapped⟩ := answer
    cases mapped with
    | ok mapped => exact ih.cons_cons name
    | error reason => exact ih.cons name

theorem skipped_sublist (answers : List Answer) :
    ((answers.filterMap Answer.skipped?).map SkippedCache.name).Sublist
      (answers.map Prod.fst) := by
  induction answers with
  | nil => exact .slnil
  | cons answer answers ih =>
    obtain ⟨name, mapped⟩ := answer
    cases mapped with
    | ok mapped => exact ih.cons name
    | error reason => exact ih.cons_cons name

/-! ### The place of the file -/

/-- The path of the file that a run would take on a disk, or the error that it would end with before
it asks for anything. -/
def Request.target (request : Request) (disk : Disk) : Except Error String :=
  match disk.makeDirs request.dir with
  | (.error fault, _) => .error (.snapshotOperation (.directory request.dir) (.io fault))
  | (.ok _, around) =>
    match nextPath around request.dir request.baseName with
    | .error fault => .error (.snapshotOperation .naming (.io fault))
    | .ok path =>
      match SnapshotFile.acquire around path with
      | .error e => .error (.snapshotOperation .locking e)
      | .ok _ => .ok path

theorem acquire_of_sameNames {disk disk' : Disk} (same : disk.SameNames disk') (path : String) :
    (∃ e, SnapshotFile.acquire disk path = .error e ∧
      SnapshotFile.acquire disk' path = .error e) ∨
    ∃ held held', SnapshotFile.acquire disk path = .ok held ∧
      SnapshotFile.acquire disk' path = .ok held' := by
  unfold SnapshotFile.acquire
  obtain ⟨fault, failed, failed'⟩ | ⟨made, made', creatable, creatable'⟩ := same.createFile path
  · rw [failed, failed']
    cases fault <;> exact .inl ⟨_, rfl, rfl⟩
  · rw [creatable, creatable']
    exact .inr ⟨_, _, rfl, rfl⟩

theorem Request.target_of_sameNames (request : Request) {disk disk' : Disk}
    (same : disk.SameNames disk') : request.target disk' = request.target disk := by
  obtain ⟨around', dirs', same'⟩ := same.makeDirs request.dir
  cases dirs : disk.makeDirs request.dir with | mk outcome around
  rw [dirs] at dirs' same'
  unfold target
  rw [dirs, dirs']
  cases outcome with
  | error fault => rfl
  | ok _ =>
    simp only [same'.nextPath]
    cases nextPath around request.dir request.baseName with
    | error fault => rfl
    | ok path =>
      obtain ⟨e, refused, refused'⟩ | ⟨held, held', taken, taken'⟩ :=
        acquire_of_sameNames same' path
      · simp only [refused, refused']
      · simp only [taken, taken']

/-! ### What a run is told -/

/-- Whether a run that asks a client is told names, and these answers to them. -/
def Told {σ : Type} (client : Catalog σ) (degrade : Bool) (selection : Selection) (state : σ)
    (answers : List Answer) : Prop :=
  ∃ names listed left, enumerate client selection state = (.ok names, listed) ∧
    interview client degrade names listed = (answers, left)

variable {σ : Type} {client : Catalog σ} {degrade : Bool} {selection : Selection} {state : σ}
  {answers : List Answer} {disk : Disk}

/-- A run that is told names ends as the disk lets it, with a report and a file of the answers if it
has a place for the file. -/
theorem run_of_told (request : Request)
    (told : Told client degrade request.selection state answers) :
    (run (client.beside Disk) degrade request (disk, state)).1 =
        (request.target disk).map (fun path => report path (.ofAnswers answers)) ∧
      ∀ path, request.target disk = .ok path →
        (run (client.beside Disk) degrade request (disk, state)).2.1.bytesAt? path =
          some (contents answers) := by
  obtain ⟨names, listed, left, known, answered⟩ := told
  unfold Request.target
  cases dirs : disk.makeDirs request.dir with | mk outcome around
  cases outcome with
  | error fault =>
    simp only [run, dirs]
    refine ⟨rfl, ?_⟩
    rintro _ ⟨⟩
  | ok _ =>
    cases named : nextPath around request.dir request.baseName with
    | error fault =>
      simp only [run, dirs, named]
      refine ⟨rfl, ?_⟩
      rintro _ ⟨⟩
    | ok path =>
      rw [run_eq_runToPath client degrade dirs named state]
      cases taken : SnapshotFile.acquire around path with
      | error e =>
        rw [runToPath_refused client degrade request.selection state taken]
        simp only [named, taken]
        refine ⟨rfl, ?_⟩
        rintro _ ⟨⟩
      | ok held =>
        obtain ⟨file, opened⟩ := held
        obtain ⟨location, vacant, -, rfl, rfl, found⟩ := SnapshotFile.acquire_eq_ok taken
        have ends := runToPath_taken client degrade request.selection state vacant found taken
        simp only [known, answered] at ends
        simp only [named, taken, ends]
        refine ⟨rfl, ?_⟩
        rintro _ ⟨⟩
        exact Disk.bytesAt?_withFile (Disk.lookup_withFile found _)

/-- The report of such a run names the place of its file and tells of the answers. -/
theorem tells_of_map {target : Except Error String} {result : Except Error Report}
    (ends : result = target.map fun path => report path (.ofAnswers answers)) {told : Report}
    (ok : result = .ok told) : target = .ok told.path ∧ Tells answers told (contents answers) := by
  rw [ok] at ends
  cases target with
  | error e => cases ends
  | ok path =>
    cases ends
    exact ⟨rfl, tells_report path answers⟩

end GridSchema.Snapshot
