import GridSchema.Proofs.Snapshot.Run
import GridSchema.Proofs.Table.Mapping

/-! Two runs, of which only one allows unknown classes. If the answers of the client do not change,
that one writes all that the other writes, and tables that the other refused for an unknown
class. -/

namespace GridSchema

/-- What a run makes of the answer to a name. -/
def FixedAnswers.mapped (answers : FixedAnswers) (degrade : Bool) (name : String) :
    Except Error MappedTable :=
  (answers.definitions name).bind (·.table degrade)

theorem FixedAnswers.mapped_onlyAdds (answers : FixedAnswers) (name : String) :
    OnlyAdds (answers.mapped false name) (answers.mapped true name) := by
  unfold mapped
  cases answers.definitions name with
  | error e => exact .error e
  | ok cache => exact cache.table_onlyAdds

/-- If unknown classes are allowed, only the client itself can answer that a class is unknown. -/
theorem FixedAnswers.definitions_of_unsupportedType {answers : FixedAnswers}
    {name column className : String}
    (h : answers.mapped true name = .error (.unsupportedType column className)) :
    answers.definitions name = .error (.unsupportedType column className) := by
  unfold mapped at h
  cases answered : answers.definitions name with
  | error e =>
    rw [answered] at h
    cases h
    rfl
  | ok cache =>
    rw [answered] at h
    exact absurd h (cache.table_true_ne_unsupportedType column className)

namespace Snapshot

variable {σ : Type}

/-- What a run that asked for names tells of its answers, in its report and in its file. -/
structure Tells (answers : List Answer) (report : Report) (file : Bytes) : Prop where
  file : file = (answers.filterMap Answer.statement?).flatMap fun statement =>
    Utf8.encode statement ++ [0x0A]
  dumped : report.dumped = answers.filterMap Answer.dumped?
  skipped : report.skipped = answers.filterMap Answer.skipped?
  warnings : report.warnings = answers.flatMap Answer.warnings

theorem tells_report (path : String) (answers : List Answer) :
    Tells answers (report path (.ofAnswers answers)) (contents answers) where
  file := rfl
  dumped := rfl
  skipped := by
    simp only [report, Outcome.ofAnswers, List.map_filterMap]
    rfl
  warnings := rfl

def answersTo (answers : FixedAnswers) (degrade : Bool) (names : List String) : List Answer :=
  names.map fun name => (name, answers.mapped degrade name)

theorem statements_sublist (answers : FixedAnswers) (names : List String) :
    ((answersTo answers false names).filterMap Answer.statement?).Sublist
      ((answersTo answers true names).filterMap Answer.statement?) := by
  induction names with
  | nil => exact .slnil
  | cons name names ih =>
    have adds := answers.mapped_onlyAdds name
    simp only [answersTo, List.map_cons] at ih ⊢
    cases off : answers.mapped false name with
    | ok mapped =>
      obtain ⟨on, -⟩ := adds.kept mapped off
      rw [on]
      exact ih.cons_cons mapped.table.ddl
    | error reason =>
      cases on : answers.mapped true name with
      | ok mapped => exact ih.cons mapped.table.ddl
      | error reason => exact ih

theorem warnings_answersTo_false (answers : FixedAnswers) (names : List String) :
    (answersTo answers false names).flatMap Answer.warnings = [] := by
  rw [List.flatMap_eq_nil_iff]
  intro answer mem
  obtain ⟨name, -, rfl⟩ := List.mem_map.mp mem
  cases off : answers.mapped false name with
  | ok mapped => exact ((answers.mapped_onlyAdds name).kept mapped off).2
  | error reason => rfl

/-- How two runs over the same answers end, the second of which allows unknown classes. Both fail,
or both tell of the same names, and what the first has written is what the second has written
without some statements. -/
def Adds (answers : FixedAnswers) (selection : Selection) :
    Except Error Report × Disk × σ → Except Error Report × Disk × σ → Prop
  | (.error e, _), (.error e', _) => e = e'
  | (.ok off, offDisk, _), (.ok on, onDisk, _) => ∃ names offFile onFile,
      (enumerate (answers.catalog Unit) selection ()).1 = .ok names ∧
      offDisk.bytesAt? off.path = some offFile ∧ onDisk.bytesAt? on.path = some onFile ∧
      Tells (answersTo answers false names) off offFile ∧
      Tells (answersTo answers true names) on onFile ∧
      ((answersTo answers false names).filterMap Answer.statement?).Sublist
        ((answersTo answers true names).filterMap Answer.statement?) ∧
      off.warnings = []
  | _, _ => False

theorem adds_runToPath (answers : FixedAnswers) (path : String) (selection : Selection)
    (disk : Disk) (state : σ) :
    Adds answers selection
      (runToPath ((answers.catalog σ).beside Disk) false path selection (disk, state))
      (runToPath ((answers.catalog σ).beside Disk) true path selection (disk, state)) := by
  cases taken : SnapshotFile.acquire disk path with
  | error e =>
    have refused (degrade : Bool) :=
      runToPath_refused (answers.catalog σ) degrade selection state taken
    rw [refused, refused]
    exact rfl
  | ok held =>
    obtain ⟨file, opened⟩ := held
    obtain ⟨location, vacant, -, rfl, rfl, found⟩ := SnapshotFile.acquire_eq_ok taken
    have ends (degrade : Bool) :=
      runToPath_taken (answers.catalog σ) degrade selection state vacant found taken
    have listed : enumerate (answers.catalog σ) selection state =
        ((enumerate (answers.catalog Unit) selection ()).1, state) := by
      cases selection <;> rfl
    rw [ends, ends, listed]
    cases known : (enumerate (answers.catalog Unit) selection ()).1 with
    | error e => exact rfl
    | ok names =>
      have written (bytes : Bytes) :
          (disk.withFile location ⟨bytes, false⟩).bytesAt? path = some bytes :=
        Disk.bytesAt?_withFile (Disk.lookup_withFile found _)
      simp only [interview_fixed]
      exact ⟨names, _, _, known, written _, written _, tells_report path _, tells_report path _,
        statements_sublist answers names, warnings_answersTo_false answers names⟩

theorem adds_run (answers : FixedAnswers) (request : Request) (disk : Disk) (state : σ) :
    Adds answers request.selection
      (run ((answers.catalog σ).beside Disk) false request (disk, state))
      (run ((answers.catalog σ).beside Disk) true request (disk, state)) := by
  cases dirs : disk.makeDirs request.dir with | mk outcome middle
  cases outcome with
  | error fault =>
    simp only [run, dirs]
    exact rfl
  | ok _ =>
    cases named : nextPath middle request.dir request.baseName with
    | error fault =>
      simp only [run, dirs, named]
      exact rfl
    | ok path =>
      simp only [run, dirs, named]
      exact adds_runToPath answers path request.selection middle state

/-- Allowing unknown classes only adds to what a run writes, for each name that it asks for and so
for the run as a whole. A cache is no longer refused for an unknown class then, unless the client
says so itself. -/
theorem allowing_unknown_only_adds (answers : FixedAnswers) :
    (∀ name, OnlyAdds (answers.mapped false name) (answers.mapped true name) ∧
      ∀ column className,
        answers.mapped true name = .error (.unsupportedType column className) →
        answers.definitions name = .error (.unsupportedType column className)) ∧
    (∀ path selection disk (state : σ), Adds answers selection
      (runToPath ((answers.catalog σ).beside Disk) false path selection (disk, state))
      (runToPath ((answers.catalog σ).beside Disk) true path selection (disk, state))) ∧
    ∀ request disk (state : σ), Adds answers request.selection
      (run ((answers.catalog σ).beside Disk) false request (disk, state))
      (run ((answers.catalog σ).beside Disk) true request (disk, state)) := by
  refine ⟨?_, adds_runToPath answers, adds_run answers⟩
  intro name
  refine ⟨answers.mapped_onlyAdds name, ?_⟩
  intro column className
  exact FixedAnswers.definitions_of_unsupportedType

end Snapshot

end GridSchema
