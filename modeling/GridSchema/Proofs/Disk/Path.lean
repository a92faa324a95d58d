import GridSchema.Proofs.Disk.Files
import GridSchema.Proofs.Text.Split

/-! Paths by their steps. A name behind the path of a directory is one more step, and the longer path
leads to what the name stands for in that directory. -/

namespace GridSchema

namespace Path

/-! ### Steps -/

inductive Step where
  | root
  | here
  | up
  | into (name : String)
  deriving DecidableEq

def Step.ofName (name : String) : Step :=
  if name = "." then .here else if name = ".." then .up else .into name

def steps (path : String) : List Step :=
  let all := (parts path).map Step.ofName
  if isAbsolute path then .root :: all.filter (· != .here)
  else all.take 1 ++ (all.drop 1).filter (· != .here)

/-- The steps to what is around a path: all but the last. Nothing is around the root. -/
def stepsAround? (path : String) : Option (List Step) :=
  match (steps path).getLast? with
  | none | some .root => none
  | some _ => some (steps path).dropLast

/-! ### A name behind a directory -/

/-- Whether a text is a name that a directory may have an entry for. -/
structure IsName (name : String) : Prop where
  ne_empty : name ≠ ""
  noSlash : '/' ∉ name.toList
  ne_dot : name ≠ "."
  ne_dots : name ≠ ".."

section join

variable {dir name : String} (given : dir ≠ "") (isName : IsName name)
include given isName

theorem join_eq : join dir name = if endsInSlash dir then dir ++ name else dir ++ "/" ++ name := by
  have relative : isAbsolute name = false := by
    unfold isAbsolute
    cases chars : name.toList with
    | nil => rfl
    | cons c rest =>
      have : c ≠ '/' := fun h => isName.noSlash (by simp [chars, h])
      simpa using this
  have nonempty : dir.isEmpty = false := by simpa using given
  simp [join, relative, nonempty]

theorem exists_append_eq_join : ∃ rest, join dir name = dir ++ rest := by
  rw [join_eq given isName]
  by_cases slash : endsInSlash dir
  · exact ⟨name, if_pos slash⟩
  · exact ⟨"/" ++ name, by rw [if_neg slash, String.append_assoc]⟩

/-- Of slashes at the end of a directory one stays in front of the name, or one is put there. -/
theorem exists_toList_join : ∃ front,
    (dir.toList = front ∨ dir.toList = front ++ ['/']) ∧
      (join dir name).toList = front ++ '/' :: name.toList := by
  rw [join_eq given isName]
  by_cases slash : endsInSlash dir
  · have last : dir.toList.getLast? = some '/' := by simpa [endsInSlash] using slash
    obtain ⟨front, split⟩ := List.getLast?_eq_some_iff.mp last
    exact ⟨front, .inr split, by simp [slash, split]⟩
  · exact ⟨dir.toList, .inl rfl, by simp [slash]⟩

theorem parts_join : parts (join dir name) = parts dir ++ [name] := by
  obtain ⟨front, before, after⟩ := exists_toList_join given isName
  have proper : name.toList.isEmpty = false := by simpa using isName.ne_empty
  have front_eq : parts dir = ((Text.split '/' front).filter (!·.isEmpty)).map String.ofList := by
    rcases before with before | before
    · rw [parts, before]
    · rw [parts, before, Text.split_append]
      simp [Text.split]
  rw [front_eq, parts, after, Text.split_append, Text.split_of_notMem isName.noSlash]
  simp [proper]

theorem isAbsolute_join : isAbsolute (join dir name) = isAbsolute dir := by
  obtain ⟨front, before, after⟩ := exists_toList_join given isName
  unfold isAbsolute
  rw [after]
  rcases before with before | before
  · have : front ≠ [] := by
      rintro rfl
      exact given (String.toList_eq_nil_iff.mp before)
    rw [before]
    cases front with
    | nil => exact absurd rfl this
    | cons c front => rfl
  · rw [before]
    cases front <;> rfl

theorem endsInSlash_join : endsInSlash (join dir name) = false := by
  obtain ⟨front, -, after⟩ := exists_toList_join given isName
  have proper : name.toList ≠ [] := by simpa using isName.ne_empty
  obtain ⟨last, found⟩ := List.getLast?_isSome.mpr proper |> Option.isSome_iff_exists.mp
  have ne : last ≠ '/' := fun h => isName.noSlash (h ▸ List.mem_of_getLast? found)
  unfold endsInSlash
  rw [after, List.getLast?_append, List.getLast?_cons, found]
  simpa using ne

/-- The name is the one step that comes after those to the directory. -/
theorem steps_join : steps (join dir name) = steps dir ++ [.into name] := by
  have step : Step.ofName name = .into name := by
    rw [Step.ofName, if_neg isName.ne_dot, if_neg isName.ne_dots]
  unfold steps
  rw [isAbsolute_join given isName, parts_join given isName]
  by_cases absolute : isAbsolute dir
  · simp [absolute, step]
  · cases steps : (parts dir).map Step.ofName <;> simp [absolute, step, steps]

theorem stepsAround?_join : stepsAround? (join dir name) = some (steps dir) := by
  unfold stepsAround?
  rw [steps_join given isName]
  simp

theorem fileName?_join : fileName? (join dir name) = some name := by
  unfold fileName?
  rw [parts_join given isName]
  simp [isName.ne_dot, isName.ne_dots]

end join

end Path

namespace Disk

variable {disk : Disk} {location : Location}

/-! ### What stands behind a directory -/

theorem walk_append (disk : Disk) (front : List String) (last : String) (dir : Location) :
    disk.walk dir (front ++ [last]) = .ok location ↔
      ∃ middle, disk.walk dir front = .ok middle ∧
        disk.enter middle last = .ok (location, .directory) := by
  induction front generalizing dir with
  | nil =>
    simp only [List.nil_append, walk, Except.ok.injEq, exists_eq_left']
    cases disk.enter dir last with
    | error fault => simp
    | ok entered =>
      obtain ⟨inner, _ | number⟩ := entered <;> simp
  | cons name front ih =>
    simp only [List.cons_append, walk]
    cases disk.enter dir name with
    | error fault => simp
    | ok entered =>
      obtain ⟨inner, _ | number⟩ := entered
      · exact ih inner
      · simp

theorem find_of_walk {address : Address}
    (walked : disk.walk (disk.origin address) address.parts = .ok location) :
    disk.find address = .ok (location, .directory) := by
  rw [find_eq_ok_iff]
  rcases List.eq_nil_or_concat address.parts with none | ⟨front, last, parts⟩
  · rw [none] at walked
    cases walked
    exact .inl ⟨none, rfl, rfl⟩
  · rw [List.concat_eq_append] at parts
    rw [parts] at walked
    obtain ⟨middle, walked, entered⟩ := (walk_append disk front last _).mp walked
    exact .inr ⟨last, middle, by simp [parts], by simpa [parts] using walked, entered,
      fun _ => rfl⟩

theorem parse_of_join {dir name : String} (given : dir ≠ "") (isName : Path.IsName name)
    {address : Address} (parsed : Address.parse (Path.join dir name) = .ok address) :
    Address.parse dir = .ok ⟨Path.isAbsolute dir, Path.parts dir, Path.endsInSlash dir⟩ ∧
      address = ⟨Path.isAbsolute dir, Path.parts dir ++ [name], false⟩ := by
  obtain ⟨rest, join⟩ := Path.exists_append_eq_join given isName
  unfold Address.parse at parsed ⊢
  split_ifs at parsed with zero empty long
  cases parsed
  have noZero : ¬ dir.toList.contains '\x00' = true := by
    intro h
    apply zero
    simpa [join] using .inl (by simpa using h)
  have nonempty : ¬ dir.isEmpty = true := by simpa using given
  have short : ¬ pathLimit ≤ dir.utf8ByteSize := by
    rw [join, String.utf8ByteSize_append] at long
    omega
  rw [if_neg noZero, if_neg nonempty, if_neg short, Path.isAbsolute_join given isName,
    Path.parts_join given isName, Path.endsInSlash_join given isName]
  exact ⟨rfl, rfl⟩

/-- A path with a name behind it leads to the entry that the directory has for the name. -/
theorem entry_of_lookup_join {dir name : String} (given : dir ≠ "") (isName : Path.IsName name)
    {entry : Entry} (found : disk.lookup (Path.join dir name) = .ok (location, entry)) :
    ∃ around, disk.lookup dir = .ok (around, .directory) ∧ location = around ++ [name] ∧
      disk.entryAt? location = some entry := by
  obtain ⟨address, parsed, found⟩ := lookup_eq_ok_iff.mp found
  obtain ⟨understood, rfl⟩ := parse_of_join given isName parsed
  rcases find_eq_ok_iff.mp found with ⟨none, -⟩ | ⟨last, around, hlast, walked, entered, -⟩
  · exact absurd none (by simp)
  · obtain rfl : name = last := by simpa using hlast
    rw [List.dropLast_concat] at walked
    refine ⟨around, lookup_eq_ok_iff.mpr ⟨_, understood, find_of_walk walked⟩, ?_⟩
    rcases enter_eq_ok_iff.mp entered with ⟨dot, -⟩ | ⟨dots, -⟩ | ⟨-, -, -, place, there⟩
    · exact absurd dot isName.ne_dot
    · exact absurd dots isName.ne_dots
    · exact ⟨place, there⟩

/-- What a path with a name behind it leads to is what the name stands for in the directory. -/
theorem lookup_join {dir name : String} (given : dir ≠ "") (isName : Path.IsName name)
    {entry : Entry} (found : disk.lookup (Path.join dir name) = .ok (location, entry)) :
    ∃ around, disk.lookup dir = .ok (around, .directory) ∧ location = around ++ [name] := by
  obtain ⟨around, listed, place, -⟩ := entry_of_lookup_join given isName found
  exact ⟨around, listed, place⟩

/-- What is there behind a directory is listed in it. -/
theorem exists_names_of_pathExists {dir name : String} (given : dir ≠ "")
    (isName : Path.IsName name) (there : disk.pathExists (Path.join dir name) = true) :
    ∃ names, disk.names dir = .ok names ∧ name ∈ names := by
  obtain ⟨⟨location, entry⟩, found⟩ := pathExists_eq_true_iff.mp there
  obtain ⟨around, listed, rfl, entered⟩ := entry_of_lookup_join given isName found
  have kept : (around ++ [name], entry) ∈ disk.entries := by
    unfold entryAt? at entered
    rw [if_neg (by simp)] at entered
    obtain ⟨front, back, split, -⟩ := List.lookup_eq_some_iff.mp entered
    simp [split]
  unfold names
  rw [listed]
  refine ⟨_, rfl, List.mem_filterMap.mpr ⟨_, kept, ?_⟩⟩
  simp

end Disk

end GridSchema
