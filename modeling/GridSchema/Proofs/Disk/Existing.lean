import GridSchema.Proofs.Disk.Files

/-! Paths that lead to something. No file is made there, and the fault that is seen tells whether
the path is spelled as that of a directory. -/

namespace GridSchema

def Address.slashed (address : Address) : Bool :=
  address.endsInSlash && address.parts.getLast?.any fun last => last != "." && last != ".."

def Path.slashed (path : String) : Bool :=
  Address.slashed ⟨isAbsolute path, parts path, endsInSlash path⟩

theorem Address.slashed_of_parse {path : String} {address : Address}
    (parsed : parse path = .ok address) : address.slashed = Path.slashed path := by
  unfold parse at parsed
  split_ifs at parsed
  cases parsed
  rfl

theorem Address.parse_ne_exists (path : String) : parse path ≠ .error .exists := by
  unfold parse
  split_ifs <;> rintro ⟨⟩

namespace Disk

variable {disk : Disk} {path : String} {address : Address}

/-- What stands at an address keeps a file from being made there. A slash behind a name is seen
before that. -/
theorem free_of_find {found : Location × Entry} (there : disk.find address = .ok found) :
    disk.free address true = .error (if address.slashed then .isDirectory else .exists) := by
  obtain ⟨location, entry⟩ := found
  rcases find_eq_ok_iff.mp there with ⟨none, -⟩ | ⟨last, dir, hlast, walked, entered, -⟩
  · simp [free, Address.slashed, none]
  · simp only [free, hlast, walked]
    change (if last = "." ∨ last = ".." then _ else _) = _
    by_cases dots : last = "." ∨ last = ".."
    · have plain : address.slashed = false := by
        rcases dots with rfl | rfl <;> simp [Address.slashed, hlast]
      rw [if_pos dots, plain]
      rfl
    · have proper : address.slashed = address.endsInSlash := by
        rw [not_or] at dots
        simp [Address.slashed, hlast, dots]
      rw [if_neg dots, proper, entered]
      cases address.endsInSlash <;> rfl

theorem enter_ne_exists (disk : Disk) (dir : Location) (name : String) :
    disk.enter dir name ≠ .error .exists := by
  unfold enter
  split_ifs
  · rintro ⟨⟩
  · rintro ⟨⟩
  · rintro ⟨⟩
  · cases disk.entryAt? (dir ++ [name]) <;> rintro ⟨⟩

theorem walk_ne_exists (disk : Disk) (dir : Location) (names : List String) :
    disk.walk dir names ≠ .error .exists := by
  induction names generalizing dir with
  | nil => rintro ⟨⟩
  | cons name names ih =>
    unfold walk
    cases entered : disk.enter dir name with
    | error fault =>
      rintro ⟨⟩
      exact enter_ne_exists disk dir name entered
    | ok found =>
      obtain ⟨inner, _ | number⟩ := found
      · exact ih inner
      · rintro ⟨⟩

/-- Only where something stands is a file not made because of it. -/
theorem find_of_free (taken : disk.free address true = .error .exists) :
    ∃ found, disk.find address = .ok found := by
  cases hlast : address.parts.getLast? with
  | none => exact ⟨(disk.origin address, .directory), by simp only [find, hlast]⟩
  | some last =>
    simp only [free, hlast] at taken
    cases walked : disk.walk (disk.origin address) address.parts.dropLast with
    | error fault =>
      rw [walked] at taken
      cases taken
      exact absurd walked (walk_ne_exists _ _ _)
    | ok dir =>
      rw [walked] at taken
      change (if last = "." ∨ last = ".." then _ else _) = _ at taken
      by_cases dots : last = "." ∨ last = ".."
      · obtain ⟨inner, entered⟩ : ∃ inner, disk.enter dir last = .ok (inner, .directory) := by
          rcases dots with rfl | rfl
          · exact ⟨dir, rfl⟩
          · exact ⟨dir.dropLast, rfl⟩
        exact ⟨(inner, .directory),
          find_eq_ok_iff.mpr (.inr ⟨last, dir, hlast, walked, entered, fun _ => rfl⟩)⟩
      · rw [if_neg dots] at taken
        by_cases slash : address.endsInSlash = true
        · rw [if_pos ⟨trivial, slash⟩] at taken
          cases taken
        · rw [if_neg fun both => slash both.2] at taken
          cases entered : disk.enter dir last with
          | ok found =>
            exact ⟨found, find_eq_ok_iff.mpr
              (.inr ⟨last, dir, hlast, walked, entered, fun h => absurd h slash⟩)⟩
          | error fault =>
            rw [entered] at taken
            cases fault <;> cases taken
            exact absurd entered (enter_ne_exists _ _ _)

theorem createFile_of_pathExists (there : disk.pathExists path = true) :
    disk.createFile path = .error (if Path.slashed path then .isDirectory else .exists) := by
  obtain ⟨found, there⟩ := pathExists_eq_true_iff.mp there
  obtain ⟨address, parsed, there⟩ := lookup_eq_ok_iff.mp there
  unfold createFile
  rw [parsed, ← Address.slashed_of_parse parsed]
  change (disk.free address true >>= _) = _
  rw [free_of_find there]
  rfl

theorem pathExists_of_createFile (taken : disk.createFile path = .error .exists) :
    disk.pathExists path = true := by
  unfold createFile at taken
  cases parsed : Address.parse path with
  | error fault =>
    rw [parsed] at taken
    cases taken
    exact absurd parsed (Address.parse_ne_exists path)
  | ok address =>
    rw [parsed] at taken
    cases isFree : disk.free address true with
    | ok location =>
      change (disk.free address true >>= _) = _ at taken
      rw [isFree] at taken
      cases taken
    | error fault =>
      change (disk.free address true >>= _) = _ at taken
      rw [isFree] at taken
      cases taken
      obtain ⟨found, there⟩ := find_of_free isFree
      exact pathExists_eq_true_iff.mpr ⟨found, lookup_eq_ok_iff.mpr ⟨address, parsed, there⟩⟩

end Disk

end GridSchema
