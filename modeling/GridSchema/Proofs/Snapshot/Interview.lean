import GridSchema.Proofs.Snapshot.File
import GridSchema.Snapshot.Run

/-! The questions that a run asks, apart from what it writes. What a client answers for the caches
that it is asked for determines the outcome of a run, its report and its file. -/

namespace GridSchema.Snapshot

variable {σ : Type}

/-- A name that was asked for, with the table of its cache or the reason why there is none. -/
abbrev Answer := String × Except Error MappedTable

namespace Answer

def dumped? : Answer → Option String
  | (name, .ok _) => some name
  | (_, .error _) => none

def statement? : Answer → Option String
  | (_, .ok mapped) => some mapped.table.ddl
  | (_, .error _) => none

def refused? : Answer → Option (String × Error)
  | (_, .ok _) => none
  | (name, .error reason) => some (name, reason)

def warnings : Answer → List TypeWarning
  | (_, .ok mapped) => mapped.warnings
  | (_, .error _) => []

/-- What a report says of a cache without a table. -/
def skipped? (answer : Answer) : Option SkippedCache :=
  answer.refused?.map fun (name, reason) => ⟨name, reason.message⟩

end Answer

/-- What a client answers when it is asked for caches one after the other. -/
def interview (client : Catalog σ) (degrade : Bool) : List String → σ → List Answer × σ
  | [], state => ([], state)
  | name :: names, state =>
    let (mapped, state) := mapCache client degrade name state
    let (answers, state) := interview client degrade names state
    ((name, mapped) :: answers, state)

/-- The text of answers: their statements in UTF-8, each with a line feed behind it. -/
def contents (answers : List Answer) : Bytes :=
  (answers.filterMap Answer.statement?).flatMap fun statement => Utf8.encode statement ++ [0x0A]

def Outcome.ofAnswers (answers : List Answer) : Outcome where
  dumped := answers.filterMap Answer.dumped?
  statements := answers.filterMap Answer.statement?
  skipped := answers.filterMap Answer.refused?
  warnings := answers.flatMap Answer.warnings

theorem Outcome.note_ofAnswers (name : String) (mapped : Except Error MappedTable)
    (answers : List Answer) :
    (ofAnswers answers).note name mapped = ofAnswers ((name, mapped) :: answers) := by
  cases mapped <;> rfl

theorem names_interview (client : Catalog σ) (degrade : Bool) (names : List String) (state : σ) :
    (interview client degrade names state).1.map Prod.fst = names := by
  induction names generalizing state with
  | nil => rfl
  | cons name names ih => simpa [interview] using ih _

theorem mapCache_fixed (answers : FixedAnswers) (degrade : Bool) (name : String) (state : σ) :
    mapCache (answers.catalog σ) degrade name state =
      ((answers.definitions name).bind (·.table degrade), state) := rfl

theorem interview_fixed (answers : FixedAnswers) (degrade : Bool) (names : List String)
    (state : σ) :
    interview (answers.catalog σ) degrade names state =
      (names.map fun name => (name, (answers.definitions name).bind (·.table degrade)), state) := by
  induction names generalizing state with
  | nil => rfl
  | cons name names ih => simp only [interview, mapCache_fixed, ih, List.map_cons]

theorem contents_append (front back : List Answer) :
    contents (front ++ back) = contents front ++ contents back := by
  simp only [contents, List.filterMap_append, List.flatMap_append]

/-! ### Clients that leave the disk alone -/

theorem enumerate_beside (client : Catalog σ) (selection : Selection) (disk : Disk) (state : σ) :
    enumerate (client.beside Disk) selection (disk, state) =
      ((enumerate client selection state).1, disk, (enumerate client selection state).2) := by
  cases selection <;> rfl

theorem mapCache_beside (client : Catalog σ) (degrade : Bool) (name : String) (disk : Disk)
    (state : σ) :
    mapCache (client.beside Disk) degrade name (disk, state) =
      ((mapCache client degrade name state).1, disk, (mapCache client degrade name state).2) := rfl

theorem contents_ok (name : String) (mapped : MappedTable) :
    contents [(name, .ok mapped)] = SnapshotFile.line mapped.table.ddl :=
  List.append_nil _

theorem contents_error (name : String) (reason : Error) : contents [(name, .error reason)] = [] :=
  rfl

/-- Appending a table appends the contents of the answer that it came with. -/
theorem appendTable_withFile (disk : Disk) (location : Location) (bytes : Bytes)
    (path name : String) (mapped : Except Error MappedTable) :
    appendTable ⟨disk.files.length, path, bytes.length⟩ (disk.withFile location ⟨bytes, true⟩)
        mapped =
      (⟨disk.files.length, path, (bytes ++ contents [(name, mapped)]).length⟩,
        disk.withFile location ⟨bytes ++ contents [(name, mapped)], true⟩) := by
  cases mapped with
  | error reason => simp only [appendTable, contents_error, List.append_nil]
  | ok mapped => simp only [appendTable, contents_ok, SnapshotFile.append_withFile]

/-- Writing the tables of caches appends the contents of the answers to the file and notes their
outcome. -/
theorem dumpCaches_withFile (client : Catalog σ) (degrade : Bool) (path : String)
    (names : List String) (disk : Disk) (location : Location) (bytes : Bytes) (state : σ) :
    dumpCaches (client.beside Disk) degrade ⟨disk.files.length, path, bytes.length⟩ names
        (disk.withFile location ⟨bytes, true⟩, state) =
      let (answers, left) := interview client degrade names state
      (.ofAnswers answers, ⟨disk.files.length, path, (bytes ++ contents answers).length⟩,
        disk.withFile location ⟨bytes ++ contents answers, true⟩, left) := by
  induction names generalizing bytes state with
  | nil => simp [interview, dumpCaches, contents, Outcome.ofAnswers, Outcome.empty]
  | cons name names ih =>
    simp only [interview, dumpCaches, mapCache_beside]
    obtain ⟨mapped, next⟩ := mapCache client degrade name state
    have first := contents_append [(name, mapped)] (interview client degrade names next).1
    rw [List.singleton_append] at first
    simp only [appendTable_withFile _ _ _ _ name, ih, Outcome.note_ofAnswers, first,
      List.append_assoc]

end GridSchema.Snapshot
