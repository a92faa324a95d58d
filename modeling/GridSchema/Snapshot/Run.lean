import GridSchema.Catalog.Basic
import GridSchema.Digest.Sha256
import GridSchema.Snapshot.File
import GridSchema.Snapshot.Name
import GridSchema.Snapshot.Report
import GridSchema.Table.Ddl

/-! Snapshot runs. A run takes a new file, asks for the names of the caches and appends one
statement for each cache that has a table. The others are skipped; only a failure of the file or of
the question for names ends the run. -/

namespace GridSchema.Snapshot

structure Request where
  dir : String
  baseName : String
  selection : Selection
  deriving DecidableEq, Repr

def Request.ofOptions (options : SnapshotOptions) : Request :=
  ⟨options.dir, options.baseName, options.selection⟩

/-- What became of the caches of a run, each list in the order of the names. -/
structure Outcome where
  dumped : List String
  statements : List String
  skipped : List (String × Error)
  warnings : List TypeWarning
  deriving DecidableEq, Repr

def Outcome.empty : Outcome := ⟨[], [], [], []⟩

def Outcome.dump (name : String) (mapped : MappedTable) (rest : Outcome) : Outcome :=
  { rest with
    dumped := name :: rest.dumped
    statements := mapped.table.ddl :: rest.statements
    warnings := mapped.warnings ++ rest.warnings }

def Outcome.skip (name : String) (reason : Error) (rest : Outcome) : Outcome :=
  { rest with skipped := (name, reason) :: rest.skipped }

def Outcome.contents (outcome : Outcome) : Bytes :=
  outcome.statements.flatMap SnapshotFile.line

def enumerate (catalog : Catalog ω) (selection : Selection) (world : ω) :
    Except Error (List String) × ω :=
  match selection with
  | .all => catalog.names world
  | .only names => (.ok names, world)

def mapCache (catalog : Catalog ω) (degrade : Bool) (name : String) (world : ω) :
    Except Error MappedTable × ω :=
  let (answer, world) := catalog.definition name world
  (answer.bind (·.table degrade), world)

def appendTable (file : SnapshotFile) (disk : Disk) :
    Except Error MappedTable → SnapshotFile × Disk
  | .ok mapped => file.append disk mapped.table.ddl
  | .error _ => (file, disk)

def Outcome.note (name : String) (mapped : Except Error MappedTable) (rest : Outcome) : Outcome :=
  match mapped with
  | .ok mapped => rest.dump name mapped
  | .error reason => rest.skip name reason

def dumpCaches (catalog : Catalog (Disk × σ)) (degrade : Bool) (file : SnapshotFile) :
    List String → Disk × σ → Outcome × SnapshotFile × Disk × σ
  | [], world => (.empty, file, world)
  | name :: names, world =>
    let (mapped, disk, rest) := mapCache catalog degrade name world
    let (file, disk) := appendTable file disk mapped
    let (outcome, file, world) := dumpCaches catalog degrade file names (disk, rest)
    (outcome.note name mapped, file, world)

def report (path : String) (outcome : Outcome) : Report where
  success := true
  fileName := (Path.fileName? path).getD ""
  path := path
  dumped := outcome.dumped
  skipped := outcome.skipped.map fun (name, reason) => ⟨name, reason.message⟩
  warnings := outcome.warnings
  sha256 := Sha256.hexDigest outcome.contents

/-- Runs into a path that must not exist. A file that was taken is given up again: it stays if the
names are known, and is removed if they are not. -/
def runToPath (catalog : Catalog (Disk × σ)) (degrade : Bool) (path : String)
    (selection : Selection) (world : Disk × σ) : Except Error Report × Disk × σ :=
  let (disk, rest) := world
  match SnapshotFile.acquire disk path with
  | .error e => (.error (.snapshotOperation .locking e), disk, rest)
  | .ok (file, disk) =>
    match enumerate catalog selection (disk, rest) with
    | (.error e, disk, rest) =>
      (.error (.snapshotOperation .creation e), file.discard disk, rest)
    | (.ok names, world) =>
      let (outcome, file, disk, rest) := dumpCaches catalog degrade file names world
      (.ok (report path outcome), file.release disk, rest)

/-- Runs into the next free file of the directory, which is made if it is missing. -/
def run (catalog : Catalog (Disk × σ)) (degrade : Bool) (request : Request) (world : Disk × σ) :
    Except Error Report × Disk × σ :=
  let (disk, rest) := world
  match disk.makeDirs request.dir with
  | (.error fault, disk) =>
    (.error (.snapshotOperation (.directory request.dir) (.io fault)), disk, rest)
  | (.ok _, disk) =>
    match nextPath disk request.dir request.baseName with
    | .error fault => (.error (.snapshotOperation .naming (.io fault)), disk, rest)
    | .ok path => runToPath catalog degrade path request.selection (disk, rest)

end GridSchema.Snapshot
