import GridSchema.Disk.Basic
import GridSchema.Error

/-! Snapshot files, each held by one run at a time. -/

namespace GridSchema

/-- A snapshot file that is being written: its number and path, and how many bytes have been written
through it. -/
structure SnapshotFile where
  number : Nat
  path : String
  written : Nat
  deriving DecidableEq, Repr

namespace SnapshotFile

/-- Makes a file, which must not exist, and takes its lock. Nobody else can have the lock of a file
that was just made, so it is not refused. -/
def acquire (disk : Disk) (path : String) : Except Error (SnapshotFile × Disk) :=
  match disk.createFile path with
  | .ok (number, disk) => .ok (⟨number, path, 0⟩, disk.setLock number true)
  | .error .exists => .error (.lockContention path)
  | .error fault => .error (.io fault)

def line (statement : String) : Bytes :=
  Utf8.encode statement ++ [0x0A]

def append (file : SnapshotFile) (disk : Disk) (statement : String) : SnapshotFile × Disk :=
  let bytes := line statement
  ({ file with written := file.written + bytes.length },
    disk.writeAt file.number file.written bytes)

/-- Gives up the lock. The file stays. -/
def release (file : SnapshotFile) (disk : Disk) : Disk :=
  disk.setLock file.number false

/-- Removes the file at the path, if there is one, and gives up the lock. -/
def discard (file : SnapshotFile) (disk : Disk) : Disk :=
  file.release <| match disk.removeFile file.path with
    | .ok disk => disk
    | .error _ => disk

end SnapshotFile

end GridSchema
