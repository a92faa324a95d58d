import GridSchema.Disk.Path
import GridSchema.Fault
import GridSchema.Text.Utf8

/-! Directories and files as the operating system keeps them. A file has an identity of its own: it
keeps its contents for those who have it open after its name is removed. There are no symbolic
links. -/

namespace GridSchema

/-- Where something stands: the names on the way from the root. -/
abbrev Location := List String

/-- What a name stands for: a directory, or the file with a number. -/
inductive Entry where
  | directory
  | file (number : Nat)
  deriving DecidableEq, Repr

/-- A file: its contents, and whether someone holds its lock. -/
structure FileState where
  contents : Bytes
  locked : Bool
  deriving DecidableEq, Repr

/-- A disk: the names on it, the files by number, and the working directory. Every name stands for a
directory or for a file that there is. -/
@[ext] structure Disk where
  entries : List (Location × Entry)
  files : List FileState
  workingDir : Location
  numbered : ∀ location number, (location, .file number) ∈ entries → number < files.length
  deriving DecidableEq, Repr

structure Address where
  absolute : Bool
  parts : List String
  endsInSlash : Bool
  deriving DecidableEq, Repr

def maxName : Nat := 255

/-- The number of bytes that is too large for a path. -/
def pathLimit : Nat := 4096

def Address.parse (path : String) : Except IoFault Address :=
  if path.toList.contains '\x00' then .error .zeroInPath
  else if path.isEmpty then .error .notFound
  else if pathLimit ≤ path.utf8ByteSize then .error .nameTooLong
  else .ok ⟨Path.isAbsolute path, Path.parts path, Path.endsInSlash path⟩

namespace Disk

def empty (workingDir : Location) : Disk where
  entries := (List.range workingDir.length).map fun n => (workingDir.take (n + 1), .directory)
  files := []
  workingDir := workingDir
  numbered := by simp

def entryAt? (disk : Disk) (location : Location) : Option Entry :=
  if location.isEmpty then some .directory else disk.entries.lookup location

def enter (disk : Disk) (dir : Location) (name : String) : Except IoFault (Location × Entry) :=
  if name = "." then .ok (dir, .directory)
  else if name = ".." then .ok (dir.dropLast, .directory)
  else if maxName < name.utf8ByteSize then .error .nameTooLong
  else match disk.entryAt? (dir ++ [name]) with
    | some entry => .ok (dir ++ [name], entry)
    | none => .error .notFound

def walk (disk : Disk) (dir : Location) : List String → Except IoFault Location
  | [] => .ok dir
  | name :: names =>
    match disk.enter dir name with
    | .ok (location, .directory) => disk.walk location names
    | .ok (_, .file _) => .error .notDirectory
    | .error fault => .error fault

def origin (disk : Disk) (address : Address) : Location :=
  if address.absolute then [] else disk.workingDir

def find (disk : Disk) (address : Address) : Except IoFault (Location × Entry) :=
  match address.parts.getLast? with
  | none => .ok (disk.origin address, .directory)
  | some last => do
    let dir ← disk.walk (disk.origin address) address.parts.dropLast
    match ← disk.enter dir last with
    | (location, .directory) => return (location, .directory)
    | (location, .file number) =>
      if address.endsInSlash then throw .notDirectory else return (location, .file number)

def lookup (disk : Disk) (path : String) : Except IoFault (Location × Entry) := do
  disk.find (← Address.parse path)

def pathExists (disk : Disk) (path : String) : Bool :=
  (disk.lookup path).toBool

/-- The free location that an address stands for. A file may not end in a slash. -/
def free (disk : Disk) (address : Address) (ofFile : Bool) : Except IoFault Location :=
  match address.parts.getLast? with
  | none => .error .exists
  | some last => do
    let dir ← disk.walk (disk.origin address) address.parts.dropLast
    if last = "." ∨ last = ".." then throw .exists
    if ofFile ∧ address.endsInSlash then throw .isDirectory
    match disk.enter dir last with
    | .ok _ => throw .exists
    | .error .notFound => return dir ++ [last]
    | .error fault => throw fault

theorem numbered_append (disk : Disk) (state : FileState) (location : Location) (number : Nat)
    (h : (location, .file number) ∈ disk.entries) : number < (disk.files ++ [state]).length := by
  have := disk.numbered location number h
  simp only [List.length_append, List.length_singleton]
  omega

/-- Puts a file without contents at a location. It has the next number. -/
def addFile (disk : Disk) (location : Location) : Disk where
  entries := disk.entries ++ [(location, .file disk.files.length)]
  files := disk.files ++ [⟨[], false⟩]
  workingDir := disk.workingDir
  numbered other number h := by
    rcases List.mem_append.mp h with h | h
    · exact disk.numbered_append _ other number h
    · obtain ⟨rfl, rfl⟩ : other = location ∧ number = disk.files.length := by simpa using h
      simp

def addDir (disk : Disk) (location : Location) : Disk where
  entries := disk.entries ++ [(location, .directory)]
  files := disk.files
  workingDir := disk.workingDir
  numbered other number h := disk.numbered other number (by simpa using h)

/-- Takes the name away that stands at a location. -/
def unlink (disk : Disk) (location : Location) : Disk where
  entries := disk.entries.filter (·.1 != location)
  files := disk.files
  workingDir := disk.workingDir
  numbered other number h := disk.numbered other number (List.mem_filter.mp h).1

/-- Makes a file without contents, which must not exist, and returns its number. -/
def createFile (disk : Disk) (path : String) : Except IoFault (Nat × Disk) := do
  let location ← disk.free (← Address.parse path) true
  return (disk.files.length, disk.addFile location)

def makeDir (disk : Disk) (address : Address) : Except IoFault Disk := do
  let location ← disk.free address false
  return disk.addDir location

def isDir (disk : Disk) (address : Address) : Bool :=
  match disk.find address with
  | .ok (_, .directory) => true
  | _ => false

def ensureDir (disk : Disk) (address : Address) : Except IoFault Disk :=
  match disk.makeDir address with
  | .ok disk => .ok disk
  | .error fault => if disk.isDir address then .ok disk else .error fault

/-- The parts of the directory around a path, both with the last one first. Dots at the end of a
path are no names of their own. -/
def partsAbove (parts : List String) : List String :=
  ((parts.dropWhile (· == ".")).tail).dropWhile (· == ".")

theorem length_partsAbove_lt (last : String) (above : List String) :
    (partsAbove (last :: above)).length < (last :: above).length := by
  have dots (parts : List String) : (parts.dropWhile (· == ".")).length ≤ parts.length :=
    (List.dropWhile_sublist _).length_le
  have outer := dots ((last :: above).dropWhile (· == ".")).tail
  have inner := dots (last :: above)
  simp only [partsAbove, List.length_tail, List.length_cons] at *
  omega

/-- Makes a directory and those that are missing above it. The parts of the path come last one
first. What was made stays when a later part fails. -/
def makeParts (disk : Disk) (absolute : Bool) : List String → Except IoFault Unit × Disk
  | [] => (.ok (), disk)
  | last :: above =>
    let address : Address := ⟨absolute, (last :: above).reverse, false⟩
    match disk.ensureDir address with
    | .ok disk => (.ok (), disk)
    | .error .notFound =>
      match disk.makeParts absolute (partsAbove (last :: above)) with
      | (.error fault, disk) => (.error fault, disk)
      | (.ok _, disk) =>
        match disk.ensureDir address with
        | .ok disk => (.ok (), disk)
        | .error fault => (.error fault, disk)
    | .error fault => (.error fault, disk)
termination_by parts => parts.length
decreasing_by exact length_partsAbove_lt last above

def makeDirs (disk : Disk) (path : String) : Except IoFault Unit × Disk :=
  if path.isEmpty then (.ok (), disk)
  else match Address.parse path with
    | .ok address => disk.makeParts address.absolute address.parts.reverse
    | .error fault => (.error fault, disk)

def names (disk : Disk) (path : String) : Except IoFault (List String) := do
  match ← disk.lookup path with
  | (_, .file _) => throw .notDirectory
  | (dir, .directory) =>
    return disk.entries.filterMap fun (location, _) =>
      if location.dropLast = dir then location.getLast? else none

def removeFile (disk : Disk) (path : String) : Except IoFault Disk := do
  match ← disk.lookup path with
  | (_, .directory) => throw .isDirectory
  | (location, .file _) =>
    return disk.unlink location

def contents (disk : Disk) (number : Nat) : Bytes :=
  (disk.files[number]?.map FileState.contents).getD []

def isLocked (disk : Disk) (number : Nat) : Bool :=
  disk.files[number]?.any FileState.locked

def change (disk : Disk) (number : Nat) (f : FileState → FileState) : Disk where
  entries := disk.entries
  files := disk.files.modify number f
  workingDir := disk.workingDir
  numbered location number h := by simpa using disk.numbered location number h

def setLock (disk : Disk) (number : Nat) (locked : Bool) : Disk :=
  disk.change number ({ · with locked })

/-- `old` with `new` in the place of its bytes from `offset` on. Zeros fill a gap before it. -/
def overwrite (offset : Nat) (new old : Bytes) : Bytes :=
  old.take offset ++ List.replicate (offset - old.length) 0 ++ new ++ old.drop (offset + new.length)

def writeAt (disk : Disk) (number offset : Nat) (new : Bytes) : Disk :=
  disk.change number fun file => { file with contents := overwrite offset new file.contents }

/-- Gives a file contents. The file and the directories above it are made if they are missing. -/
def writeFile (disk : Disk) (path : String) (contents : Bytes) : Except IoFault Disk := do
  let disk := match Address.parse path with
    | .ok address => (disk.makeParts address.absolute (partsAbove address.parts.reverse)).2
    | .error _ => disk
  match disk.lookup path with
  | .ok (_, .file number) => return disk.change number fun file => { file with contents }
  | .ok (_, .directory) => throw .isDirectory
  | .error _ =>
    let (number, disk) ← disk.createFile path
    return disk.change number fun file => { file with contents }

/-- What is below the working directory: the path of each directory, with a slash at its end, and
that of each file with the contents. -/
def listing (disk : Disk) : List (String × Option Bytes) :=
  disk.entries.filterMap fun (location, entry) => do
    let names ← disk.workingDir.isPrefixOf? location
    if names.isEmpty then none
    let path := "/".intercalate names
    match entry with
    | .directory => return (path ++ "/", none)
    | .file number => return (path, some (disk.contents number))

def readText (disk : Disk) (path : String) : Except IoFault String := do
  match ← disk.lookup path with
  | (_, .directory) => throw .isDirectory
  | (_, .file number) =>
    match Utf8.decode? (disk.contents number) with
    | some text => return text
    | none => throw .notUtf8

end Disk

end GridSchema
