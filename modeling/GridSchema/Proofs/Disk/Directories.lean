import GridSchema.Proofs.Disk.Files

/-! Making directories adds directories and changes nothing else, also when it fails half way. A
directory that is there is made without any change. -/

namespace GridSchema.Disk

variable {disk before middle after : Disk} {path : String} {location : Location} {number : Nat}

/-- One disk is another with some more directories. -/
structure OnlyDirs (before after : Disk) : Prop where
  files : after.files = before.files
  workingDir : after.workingDir = before.workingDir
  entries : ∃ made : List Location, after.entries = before.entries ++ made.map (·, .directory)

namespace OnlyDirs

theorem refl (disk : Disk) : OnlyDirs disk disk :=
  ⟨rfl, rfl, [], by simp⟩

theorem trans (first : OnlyDirs before middle) (second : OnlyDirs middle after) :
    OnlyDirs before after := by
  obtain ⟨made, hmade⟩ := first.entries
  obtain ⟨more, hmore⟩ := second.entries
  refine ⟨second.files.trans first.files, second.workingDir.trans first.workingDir,
    made ++ more, ?_⟩
  rw [hmore, hmade, List.map_append, List.append_assoc]

theorem addDir (disk : Disk) (location : Location) : OnlyDirs disk (disk.addDir location) :=
  ⟨rfl, rfl, [location], rfl⟩

theorem entryAt? (only : OnlyDirs before after) (location : Location) :
    after.entryAt? location = before.entryAt? location ∨
      before.entryAt? location = none ∧ after.entryAt? location = some .directory := by
  obtain ⟨made, h⟩ := only.entries
  unfold Disk.entryAt?
  split_ifs
  · exact .inl rfl
  rw [h, List.lookup_append]
  cases hb : before.entries.lookup location with
  | some entry => exact .inl rfl
  | none =>
    cases hm : (made.map fun place => (place, Entry.directory)).lookup location with
    | none => exact .inl rfl
    | some entry =>
      obtain ⟨front, back, split, -⟩ := List.lookup_eq_some_iff.mp hm
      have : (location, entry) ∈ made.map (·, Entry.directory) := by simp [split]
      obtain ⟨place, -, he⟩ := List.mem_map.mp this
      cases he
      exact .inr ⟨rfl, rfl⟩

theorem entryAt?_file (only : OnlyDirs before after) :
    after.entryAt? location = some (.file number) ↔
      before.entryAt? location = some (.file number) := by
  rcases only.entryAt? location with h | ⟨h, h'⟩
  · rw [h]
  · simp [h, h']

theorem fileAt? (only : OnlyDirs before after) (location : Location) :
    after.fileAt? location = before.fileAt? location := by
  unfold Disk.fileAt?
  rcases only.entryAt? location with h | ⟨h, h'⟩
  · rw [h, only.files]
  · rw [h, h']

theorem keeps (only : OnlyDirs before after) (kept : Nat → Prop) : Keeps kept before after where
  workingDir := only.workingDir
  directory location h := by
    rcases only.entryAt? location with e | ⟨e, -⟩
    · rw [e, h]
    · rw [e] at h
      cases h
  file location number _ h := only.entryAt?_file.mpr h

end OnlyDirs

theorem ensureDir_onlyDirs {address : Address} (h : disk.ensureDir address = .ok after) :
    OnlyDirs disk after := by
  unfold ensureDir at h
  cases hm : disk.makeDir address with
  | ok made =>
    obtain ⟨location, -, hl⟩ := bind_eq_ok.mp hm
    rw [hm] at h
    cases hl
    cases h
    exact .addDir disk location
  | error fault =>
    simp only [hm] at h
    split_ifs at h
    cases h
    exact .refl disk

theorem makeParts_onlyDirs (disk : Disk) (absolute : Bool) (parts : List String) :
    OnlyDirs disk (disk.makeParts absolute parts).2 := by
  fun_induction makeParts disk absolute parts with
  | case1 => exact .refl disk
  | case2 _ _ _ made there => exact ensureDir_onlyDirs there
  | case3 _ _ _ _ _ made above ih =>
    rw [above] at ih
    exact ih
  | case4 _ _ _ _ _ middle above made there ih =>
    rw [above] at ih
    exact ih.trans (ensureDir_onlyDirs there)
  | case5 _ _ _ _ _ middle above _ _ ih =>
    rw [above] at ih
    exact ih
  | case6 => exact .refl disk

theorem makeDirs_onlyDirs (disk : Disk) (path : String) : OnlyDirs disk (disk.makeDirs path).2 := by
  unfold makeDirs
  split_ifs
  · exact .refl disk
  · split
    · exact makeParts_onlyDirs _ _ _
    · exact .refl disk

/-! ### Directories that are there -/

theorem ensureDir_of_find {address : Address}
    (there : disk.find address = .ok (location, .directory)) :
    disk.ensureDir address = .ok disk := by
  unfold ensureDir
  cases made : disk.makeDir address with
  | ok after =>
    -- A directory is made only where nothing is, and the last name of the address is taken.
    obtain ⟨place, isFree, -⟩ := bind_eq_ok.mp made
    obtain ⟨last, dir, hlast, walked, dot, dots, -, -, rfl, vacant⟩ := free_eq_ok_iff.mp isFree
    rcases find_eq_ok_iff.mp there with ⟨none, -⟩ | ⟨_, _, hlast', walked', entered, -⟩
    · rw [none] at hlast
      cases hlast
    · cases hlast.symm.trans hlast'
      cases walked.symm.trans walked'
      rcases enter_eq_ok_iff.mp entered with ⟨h, -⟩ | ⟨h, -⟩ | ⟨-, -, -, rfl, taken⟩
      · exact absurd h dot
      · exact absurd h dots
      · rw [vacant] at taken
        cases taken
  | error fault => simp only [isDir, there, if_true]

theorem makeDirs_of_lookup (there : disk.lookup path = .ok (location, .directory)) :
    disk.makeDirs path = (.ok (), disk) := by
  obtain ⟨address, parsed, found⟩ := lookup_eq_ok_iff.mp there
  have plain : disk.find ⟨address.absolute, address.parts, false⟩ = .ok (location, .directory) := by
    rw [find_eq_ok_iff] at found ⊢
    refine found.imp_right ?_
    rintro ⟨last, dir, hlast, walked, entered, -⟩
    exact ⟨last, dir, hlast, walked, entered, fun _ => rfl⟩
  unfold makeDirs
  split_ifs
  · rfl
  · simp only [parsed]
    cases reversed : address.parts.reverse with
    | nil => rw [makeParts]
    | cons last above =>
      have parts : (last :: above).reverse = address.parts := by
        rw [← reversed, List.reverse_reverse]
      rw [makeParts]
      simp only [parts, ensureDir_of_find plain]

end GridSchema.Disk
