import GridSchema.Proofs.Json.Spelling
import GridSchema.Proofs.Table.Mapping
import GridSchema.Proofs.Text.Utf8
import GridSchema.Snapshot.File
import GridSchema.Table.Ddl

/-! Statements can be read back: what stands in a file of statements determines the tables that were
written, where no name has a character that ends it. -/

namespace GridSchema

variable {a b r s : List Char}

/-! ### Texts that follow each other -/

/-- A text begins with one of some characters. -/
def Opens (starts text : List Char) : Prop :=
  ∃ c ∈ starts, ∃ rest, text = c :: rest

/-- A text of characters of one kind is told from what follows it, if that begins with another. -/
theorem append_inj_of_opens {p : Char → Bool} {starts : List Char}
    (stop : ∀ c ∈ starts, p c = false) (ha : ∀ c ∈ a, p c = true) (hb : ∀ c ∈ b, p c = true)
    (hr : Opens starts r) (hs : Opens starts s) (same : a ++ r = b ++ s) : a = b ∧ r = s := by
  have ends {r : List Char} (hr : Opens starts r) : r.takeWhile p = [] := by
    obtain ⟨c, mem, rest, rfl⟩ := hr
    rw [List.takeWhile_cons_of_neg (by simp [stop c mem])]
  have taken := congrArg (List.takeWhile p) same
  rw [List.takeWhile_append_of_pos ha, List.takeWhile_append_of_pos hb, ends hr, ends hs,
    List.append_nil, List.append_nil] at taken
  subst taken
  exact ⟨rfl, List.append_cancel_left same⟩

/-- A text is told from what follows it by a character that it does not have. -/
theorem append_inj_of_not_mem {d : Char} (ha : d ∉ a) (hb : d ∉ b)
    (same : a ++ d :: r = b ++ d :: s) : a = b ∧ r = s := by
  have other {a : List Char} (ha : d ∉ a) : ∀ c ∈ a, (c != d) = true := by
    intro c mem
    exact bne_iff_ne.mpr fun same => ha (same ▸ mem)
  have opens (rest : List Char) : Opens [d] (d :: rest) := ⟨d, List.mem_singleton_self d, rest, rfl⟩
  obtain ⟨rfl, rest⟩ :=
    append_inj_of_opens (p := (· != d)) (by simp) (other ha) (other hb) (opens r) (opens s) same
  exact ⟨rfl, (List.cons.inj rest).2⟩

theorem toDigits_inj {m n : Nat} (same : Nat.toDigits 10 m = Nat.toDigits 10 n) : m = n := by
  have values := congrArg Text.decimal same
  rwa [Json.decimal_toDigits, Json.decimal_toDigits] at values

theorem not_mem_toDigits {d : Char} (other : d.isDigit = false) (n : Nat) :
    d ∉ Nat.toDigits 10 n := by
  intro mem
  rw [Json.isDigit_toDigits n d mem] at other
  cases other

/-! ### Columns -/

def spellPrecision : Option UInt32 → List Char
  | some precision => '(' :: (Nat.toDigits 10 precision.toNat ++ [')'])
  | none => []

def spellConstraints (isPrimaryKey isNotNull : Bool) : List Char :=
  (if isPrimaryKey then " PRIMARY KEY" else "").toList ++
    (if isNotNull then " NOT NULL" else "").toList

theorem Column.toList_ddl (column : Column) :
    column.ddl.toList = column.name.toList ++ ' ' :: (column.sqlType.toList ++
      (spellPrecision column.precision ++
        spellConstraints column.isPrimaryKey column.isNotNull)) := by
  cases precision : column.precision <;>
    simp [Column.ddl, spellPrecision, spellConstraints, precision]

theorem spellConstraints_opens (key notNull : Bool) (hr : Opens [',', '\n'] r) :
    Opens [' ', ',', '\n'] (spellConstraints key notNull ++ r) := by
  obtain ⟨c, mem, rest, rfl⟩ := hr
  cases key <;> cases notNull <;> simp_all [Opens, spellConstraints]

theorem spellConstraints_append_inj {key notNull key' notNull' : Bool}
    (hr : Opens [',', '\n'] r) (hs : Opens [',', '\n'] s)
    (same : spellConstraints key notNull ++ r = spellConstraints key' notNull' ++ s) :
    key = key' ∧ notNull = notNull' ∧ r = s := by
  obtain ⟨c, memc, rest, rfl⟩ := hr
  obtain ⟨d, memd, rest', rfl⟩ := hs
  have blankc : ' ' ≠ c := by rintro rfl; simp at memc
  have blankd : ' ' ≠ d := by rintro rfl; simp at memd
  cases key <;> cases notNull <;> cases key' <;> cases notNull' <;>
    simp_all [spellConstraints]

theorem spellPrecision_opens (precision : Option UInt32) (hr : Opens [' ', ',', '\n'] r) :
    Opens ['(', ' ', ',', '\n'] (spellPrecision precision ++ r) := by
  cases precision with
  | none =>
    obtain ⟨c, mem, rest, rfl⟩ := hr
    exact ⟨c, List.mem_cons_of_mem _ mem, rest, rfl⟩
  | some precision => exact ⟨'(', List.mem_cons_self, _, rfl⟩

theorem spellPrecision_append_inj {precision precision' : Option UInt32}
    (hr : Opens [' ', ',', '\n'] r) (hs : Opens [' ', ',', '\n'] s)
    (same : spellPrecision precision ++ r = spellPrecision precision' ++ s) :
    precision = precision' ∧ r = s := by
  have differ {r : List Char} (hr : Opens [' ', ',', '\n'] r) (rest : List Char) :
      r ≠ '(' :: rest := by
    rintro rfl
    obtain ⟨c, mem, rest, same⟩ := hr
    obtain ⟨rfl, -⟩ := List.cons.inj same
    simp at mem
  cases precision with
  | none =>
    cases precision' with
    | none => exact ⟨rfl, same⟩
    | some n => exact absurd same (differ hr _)
  | some m =>
    cases precision' with
    | none => exact absurd same.symm (differ hs _)
    | some n =>
      simp only [spellPrecision, List.cons_append, List.append_assoc, List.cons.injEq,
        List.nil_append, true_and] at same
      obtain ⟨digits, rest⟩ :=
        append_inj_of_not_mem (not_mem_toDigits rfl _) (not_mem_toDigits rfl _) same
      exact ⟨congrArg some (UInt32.toNat_inj.mp (toDigits_inj digits)), rest⟩

/-- A column whose name ends at the first blank and whose type is made of letters. -/
structure Column.Legible (column : Column) : Prop where
  name : ' ' ∉ column.name.toList
  sqlType : ∀ c ∈ column.sqlType.toList, c.isUpper = true

theorem Column.ddl_append_inj {first second : Column} (hf : first.Legible) (hg : second.Legible)
    (hr : Opens [',', '\n'] r) (hs : Opens [',', '\n'] s)
    (same : first.ddl.toList ++ r = second.ddl.toList ++ s) : first = second ∧ r = s := by
  rw [toList_ddl, toList_ddl] at same
  simp only [List.append_assoc, List.cons_append] at same
  obtain ⟨name, same⟩ := append_inj_of_not_mem hf.name hg.name same
  have constrained := spellConstraints_opens first.isPrimaryKey first.isNotNull hr
  have constrained' := spellConstraints_opens second.isPrimaryKey second.isNotNull hs
  have stop : ∀ c ∈ ['(', ' ', ',', '\n'], c.isUpper = false := by
    simp only [List.forall_mem_cons]
    exact ⟨rfl, rfl, rfl, rfl, nofun⟩
  obtain ⟨type, same⟩ := append_inj_of_opens stop hf.sqlType hg.sqlType
    (spellPrecision_opens _ constrained) (spellPrecision_opens _ constrained') same
  obtain ⟨precision, same⟩ := spellPrecision_append_inj constrained constrained' same
  obtain ⟨key, notNull, rest⟩ := spellConstraints_append_inj hr hs same
  refine ⟨?_, rest⟩
  cases first
  cases second
  rw [Column.mk.injEq]
  exact ⟨String.toList_inj.mp name, String.toList_inj.mp type, precision, key, notNull⟩

def spellColumns (columns : List Column) : List Char :=
  [',', '\n'].intercalate (columns.map fun column => "    ".toList ++ column.ddl.toList)

theorem spellColumns_cons (column : Column) (columns : List Column) (r : List Char) :
    ∃ rest, spellColumns (column :: columns) ++ '\n' :: r =
        "    ".toList ++ (column.ddl.toList ++ rest) ∧
      Opens [',', '\n'] rest ∧
      (columns = [] ∧ rest = '\n' :: r ∨
        columns ≠ [] ∧ rest = ',' :: '\n' :: (spellColumns columns ++ '\n' :: r)) := by
  cases columns with
  | nil => exact ⟨'\n' :: r, by simp [spellColumns], by simp [Opens], by simp⟩
  | cons next columns =>
    refine ⟨',' :: '\n' :: (spellColumns (next :: columns) ++ '\n' :: r), ?_, by simp [Opens],
      by simp⟩
    simp only [spellColumns, List.map_cons, List.intercalate_cons_cons]
    simp

theorem spellColumns_append_inj {first second : List Column}
    (hf : ∀ column ∈ first, column.Legible) (hg : ∀ column ∈ second, column.Legible)
    (somef : first ≠ []) (someg : second ≠ [])
    (same : spellColumns first ++ '\n' :: r = spellColumns second ++ '\n' :: s) :
    first = second ∧ r = s := by
  induction first generalizing second with
  | nil => exact absurd rfl somef
  | cons column columns ih =>
    cases second with
    | nil => exact absurd rfl someg
    | cons column' columns' =>
      rw [List.forall_mem_cons] at hf hg
      obtain ⟨rest, spelled, opens, goesOn⟩ := spellColumns_cons column columns r
      obtain ⟨rest', spelled', opens', goesOn'⟩ := spellColumns_cons column' columns' s
      rw [spelled, spelled', List.append_cancel_left_eq] at same
      obtain ⟨rfl, rfl⟩ := Column.ddl_append_inj hf.1 hg.1 opens opens' same
      -- the character after the column tells whether there are more
      obtain ⟨rfl, last⟩ | ⟨more, next⟩ := goesOn
      · obtain ⟨rfl, last'⟩ | ⟨-, next'⟩ := goesOn'
        · exact ⟨rfl, (List.cons.inj (last.symm.trans last')).2⟩
        · cases last.symm.trans next'
      · obtain ⟨-, last'⟩ | ⟨more', next'⟩ := goesOn'
        · cases next.symm.trans last'
        · obtain ⟨-, lines⟩ := List.cons.inj (next.symm.trans next')
          obtain ⟨rfl, rest⟩ := ih hf.2 hg.2 more more' (List.cons.inj lines).2
          exact ⟨rfl, rest⟩

/-! ### Store options -/

/-- What has no comma and no end of a line is told from the options after it. -/
def InPlace (text : List Char) : Prop :=
  ',' ∉ text ∧ '\n' ∉ text

instance (text : List Char) : Decidable (InPlace text) :=
  inferInstanceAs (Decidable (_ ∧ _))

/-- Options whose names are told from the options after them. -/
def StoreOptions.Legible (options : StoreOptions) : Prop :=
  ∀ text ∈ options.cache :: (options.group.toList ++ options.dataRegion.toList),
    InPlace text.toList

instance (options : StoreOptions) : Decidable options.Legible :=
  inferInstanceAs (Decidable (∀ text ∈ options.cache :: _, InPlace text.toList))

theorem lookup_toList_map {α : Type} (key other : String) (f : α → String) (value : Option α) :
    (value.map fun v => (key, f v)).toList.lookup other =
      if other = key then value.map f else none := by
  cases value <;> simp

theorem lookup_toList_pair (key other : String) (value : Option String) :
    (value.map fun v => (key, v)).toList.lookup other = if other = key then value else none := by
  simpa using lookup_toList_map key other id value

theorem lookup_ite {p : Prop} [Decidable p] (key other value : String) :
    (if p then [] else [(key, value)]).lookup other =
      if other = key then if p then none else some value else none := by
  by_cases p <;> simp_all

/-- A value that is left out if it is the default is still known. -/
theorem eq_of_ite_some {α : Type} [DecidableEq α] {usual x y : α} {f : α → String}
    (inj : ∀ {x y}, f x = f y → x = y)
    (same : (if x = usual then none else some (f x)) =
      if y = usual then none else some (f y)) : x = y := by
  by_cases hx : x = usual <;> by_cases hy : y = usual
  · rw [hx, hy]
  · simp [hx, hy] at same
  · simp [hx, hy] at same
  · simp only [hx, hy, ↓reduceIte, Option.some.injEq] at same
    exact inj same

theorem Atomicity.name_inj {x y : Atomicity} (same : x.name = y.name) : x = y := by
  revert same
  cases x <;> cases y <;> decide

theorem WriteSync.name_inj {x y : WriteSync} (same : x.name = y.name) : x = y := by
  revert same
  cases x <;> cases y <;> decide

theorem toString_toNat_inj {x y : UInt32} (same : toString x.toNat = toString y.toNat) :
    x = y := by
  have digits := congrArg String.toList same
  rw [Json.toList_toString, Json.toList_toString] at digits
  exact UInt32.toNat_inj.mp (toDigits_inj digits)

theorem StoreOptions.assignments_inj {first second : StoreOptions}
    (same : first.assignments = second.assignments) : first = second := by
  -- a key that is missing stands for the default, so each option is known by its look-up
  have values (key : String) := congrArg (List.lookup key) same
  simp only [assignments, List.lookup_append, lookup_toList_pair, lookup_toList_map, lookup_ite,
    List.lookup_cons, List.lookup_nil] at values
  have cache : some first.cache = some second.cache := by simpa using values "cache_name"
  have group : first.group = second.group := by simpa using values "cache_group"
  have dataRegion : first.dataRegion = second.dataRegion := by simpa using values "data_region"
  have parallelism := eq_of_ite_some toString_toNat_inj <| by simpa using values "parallelism"
  have backups := eq_of_ite_some toString_toNat_inj <| by simpa using values "backups"
  have atomicity : first.atomicity.map Atomicity.name = second.atomicity.map Atomicity.name := by
    simpa using values "atomicity"
  have writeSync := eq_of_ite_some WriteSync.name_inj <| by
    simpa using values "write_synchronization_mode"
  have atomicity := Option.map_injective (fun _ _ => Atomicity.name_inj) atomicity
  cases first
  cases second
  rw [mk.injEq]
  exact ⟨Option.some.inj cache, group, dataRegion, parallelism, backups, atomicity, writeSync⟩

def spellAssignment (pair : String × String) : List Char :=
  pair.1.toList ++ '=' :: pair.2.toList

theorem StoreOptions.toList_ddl (options : StoreOptions) :
    options.ddl.toList = [','].intercalate (options.assignments.map spellAssignment) := by
  simp only [ddl, String.toList_intercalate, List.map_map]
  refine congrArg _ (List.map_congr_left fun pair _ => ?_)
  simp [spellAssignment]

def storeKeys : List String :=
  ["cache_name", "cache_group", "data_region", "parallelism", "backups", "atomicity",
    "write_synchronization_mode"]

theorem StoreOptions.Legible.values {options : StoreOptions} (h : options.Legible) :
    ∀ pair ∈ options.assignments, pair.1 ∈ storeKeys ∧ InPlace pair.2.toList := by
  have number (n : Nat) : InPlace (toString n).toList := by
    rw [Json.toList_toString]
    exact ⟨not_mem_toDigits rfl n, not_mem_toDigits rfl n⟩
  intro pair mem
  simp only [StoreOptions.assignments, List.mem_append, List.mem_singleton, Option.mem_toList,
    Option.map_eq_some_iff, List.mem_ite_nil_left] at mem
  obtain (((((rfl | ⟨group, named, rfl⟩) | ⟨region, named, rfl⟩) | ⟨-, rfl⟩) | ⟨-, rfl⟩) |
    ⟨mode, -, rfl⟩) | ⟨-, rfl⟩ := mem
  · exact ⟨by simp [storeKeys], h _ List.mem_cons_self⟩
  · exact ⟨by simp [storeKeys], h _ (by simp [named])⟩
  · exact ⟨by simp [storeKeys], h _ (by simp [named])⟩
  · exact ⟨by simp [storeKeys], number _⟩
  · exact ⟨by simp [storeKeys], number _⟩
  · exact ⟨by simp [storeKeys], by cases mode <;> simp [InPlace, Atomicity.name]⟩
  · exact ⟨by simp [storeKeys], by cases options.writeSync <;> simp [InPlace, WriteSync.name]⟩

theorem StoreOptions.Legible.assignments {options : StoreOptions} (h : options.Legible) :
    ∀ pair ∈ options.assignments, '=' ∉ pair.1.toList ∧ InPlace (spellAssignment pair) := by
  have keys : ∀ key ∈ storeKeys, '=' ∉ key.toList ∧ ',' ∉ key.toList ∧ '\n' ∉ key.toList := by
    decide
  intro pair mem
  obtain ⟨known, place⟩ := h.values pair mem
  obtain ⟨equals, comma, line⟩ := keys _ known
  refine ⟨equals, ?_, ?_⟩
  · simp [spellAssignment, comma, place.1]
  · simp [spellAssignment, line, place.2]

theorem not_mem_intercalate {c d : Char} {parts : List (List Char)} (other : c ≠ d)
    (free : ∀ part ∈ parts, c ∉ part) : c ∉ [d].intercalate parts := by
  induction parts with
  | nil => simp
  | cons part parts ih =>
    rw [List.forall_mem_cons] at free
    cases parts with
    | nil => simpa using free.1
    | cons next parts =>
      rw [List.intercalate_cons_cons]
      simp [free.1, other, ih free.2]

theorem StoreOptions.Legible.not_mem_ddl {options : StoreOptions} (h : options.Legible) :
    '\n' ∉ options.ddl.toList := by
  rw [toList_ddl]
  refine not_mem_intercalate (by decide) ?_
  intro part spelled
  obtain ⟨pair, mem, rfl⟩ := List.mem_map.mp spelled
  exact (h.assignments pair mem).2.2

theorem map_inj_of_mem {α β : Type} {f : α → β} {xs ys : List α}
    (inj : ∀ x ∈ xs, ∀ y ∈ ys, f x = f y → x = y) (same : xs.map f = ys.map f) : xs = ys := by
  induction xs generalizing ys with
  | nil => exact (List.map_eq_nil_iff.mp same.symm).symm
  | cons x xs ih =>
    cases ys with
    | nil => cases same
    | cons y ys =>
      obtain ⟨first, rest⟩ := List.cons.inj same
      rw [inj x List.mem_cons_self y List.mem_cons_self first, ih ?_ rest]
      intro x memx y memy
      exact inj x (List.mem_cons_of_mem _ memx) y (List.mem_cons_of_mem _ memy)

theorem StoreOptions.ddl_inj {first second : StoreOptions} (hf : first.Legible)
    (hg : second.Legible) (same : first.ddl.toList = second.ddl.toList) : first = second := by
  have parts {options : StoreOptions} (h : options.Legible) :
      options.ddl.toList.splitOn ',' = options.assignments.map spellAssignment := by
    rw [toList_ddl]
    refine List.splitOn_intercalate ',' ?_ (by simp [StoreOptions.assignments])
    intro part spelled
    obtain ⟨pair, mem, rfl⟩ := List.mem_map.mp spelled
    exact (h.assignments pair mem).2.1
  have spelled := congrArg (List.splitOn ',') same
  rw [parts hf, parts hg] at spelled
  refine assignments_inj (map_inj_of_mem ?_ spelled)
  intro pair memf pair' memg same
  obtain ⟨keys, values⟩ :=
    append_inj_of_not_mem (hf.assignments pair memf).1 (hg.assignments pair' memg).1 same
  exact Prod.ext (String.toList_inj.mp keys) (String.toList_inj.mp values)

/-! ### Tables -/

structure Table.Legible (table : Table) : Prop where
  name : '\n' ∉ table.name.toList
  columns : ∀ column ∈ table.columns, column.Legible
  some : table.columns ≠ []
  store : table.store.Legible

def spellTable (table : Table) : List Char :=
  (table.ddl ++ "\n").toList

theorem spellTable_append (table : Table) (r : List Char) :
    spellTable table ++ r = "CREATE TABLE IF NOT EXISTS ".toList ++
      ((table.name.toList ++ " (".toList) ++ '\n' :: (spellColumns table.columns ++ '\n' ::
        (") WITH \"".toList ++ ((table.store.ddl.toList ++ "\";".toList) ++ '\n' :: r)))) := by
  have opened : " (\n".toList = " (".toList ++ ['\n'] := by decide
  have closed : "\n) WITH \"".toList = '\n' :: ") WITH \"".toList := by decide
  have between : ",\n".toList = [',', '\n'] := by decide
  have line : "\n".toList = ['\n'] := by decide
  unfold spellTable Table.ddl spellColumns
  simp only [String.toList_append, String.toList_intercalate, List.map_map, opened, closed, between,
    line, List.append_assoc, List.cons_append, List.nil_append, Function.comp_def]

theorem spellTable_append_inj {first second : Table} (hf : first.Legible) (hg : second.Legible)
    (same : spellTable first ++ r = spellTable second ++ s) : first = second ∧ r = s := by
  have header {table : Table} (h : table.Legible) : '\n' ∉ table.name.toList ++ " (".toList := by
    simp [h.name]
  have footer {table : Table} (h : table.Legible) :
      '\n' ∉ table.store.ddl.toList ++ "\";".toList := by
    simp [h.store.not_mem_ddl]
  rw [spellTable_append, spellTable_append, List.append_cancel_left_eq] at same
  obtain ⟨name, same⟩ := append_inj_of_not_mem (header hf) (header hg) same
  obtain ⟨columns, same⟩ :=
    spellColumns_append_inj hf.columns hg.columns hf.some hg.some same
  rw [List.append_cancel_left_eq] at same
  obtain ⟨store, rest⟩ := append_inj_of_not_mem (footer hf) (footer hg) same
  have store := StoreOptions.ddl_inj hf.store hg.store (List.append_cancel_right store)
  refine ⟨?_, rest⟩
  cases first
  cases second
  rw [Table.mk.injEq]
  exact ⟨String.toList_inj.mp (List.append_cancel_right name), columns, store⟩

theorem spellTables_inj {first second : List Table} (hf : ∀ table ∈ first, table.Legible)
    (hg : ∀ table ∈ second, table.Legible)
    (same : first.flatMap spellTable = second.flatMap spellTable) : first = second := by
  have some (table : Table) (tables : List Table) :
      (table :: tables).flatMap spellTable ≠ [] := by
    simp [spellTable]
  induction first generalizing second with
  | nil =>
    cases second with
    | nil => rfl
    | cons table tables => exact absurd same.symm (some table tables)
  | cons table tables ih =>
    cases second with
    | nil => exact absurd same (some table tables)
    | cons table' tables' =>
      rw [List.forall_mem_cons] at hf hg
      rw [List.flatMap_cons, List.flatMap_cons] at same
      obtain ⟨rfl, rest⟩ := spellTable_append_inj hf.1 hg.1 same
      rw [ih hf.2 hg.2 rest]

/-! ### Tables of caches -/

/-- A table as it comes from a cache, whether unknown classes are allowed or not. -/
def Table.IsMapped (table : Table) : Prop :=
  ∃ (cache : CacheDefinition) (degrade : Bool) (mapped : MappedTable),
    cache.table degrade = .ok mapped ∧ mapped.table = table

/-- No name of a table has a character that ends it. The name of a table ends with its line, the
name of a column at the next blank, and an option at the next comma or with its line. -/
structure Table.NamesEnd (table : Table) : Prop where
  name : '\n' ∉ table.name.toList
  columns : ∀ column ∈ table.columns, ' ' ∉ column.name.toList
  store : table.store.Legible

instance (table : Table) : Decidable table.NamesEnd :=
  decidable_of_iff ('\n' ∉ table.name.toList ∧
      (∀ column ∈ table.columns, ' ' ∉ column.name.toList) ∧ table.store.Legible)
    ⟨fun ⟨name, columns, store⟩ => ⟨name, columns, store⟩,
      fun ends => ⟨ends.name, ends.columns, ends.store⟩⟩

theorem SqlType.isUpper_name (type : SqlType) : ∀ c ∈ type.name.toList, c.isUpper = true := by
  have all : type.name.toList.all Char.isUpper = true := by cases type <;> decide
  exact List.all_eq_true.mp all

theorem Table.IsMapped.legible {table : Table} (mapped : table.IsMapped) (ends : table.NamesEnd) :
    table.Legible := by
  obtain ⟨cache, degrade, result, mapped, rfl⟩ := mapped
  obtain ⟨entity, columns, warnings, -, fields, one, rfl⟩ := CacheDefinition.table_eq_ok mapped
  refine ⟨ends.name, ?_, ?_, ends.store⟩
  · intro column mem
    refine ⟨ends.columns column mem, ?_⟩
    obtain ⟨type, spelled⟩ := QueryEntity.sqlType_of_columns fields column mem
    rw [spelled]
    exact type.isUpper_name
  · rintro rfl
    cases one

def tablesText (tables : List Table) : String :=
  String.join (tables.map fun table => table.ddl ++ "\n")

theorem toList_tablesText (tables : List Table) :
    (tablesText tables).toList = tables.flatMap spellTable := by
  rw [tablesText, String.toList_join, List.flatMap_map]
  rfl

/-- The bytes that a run writes for tables are those of their text. -/
theorem encode_tablesText (tables : List Table) :
    Utf8.encode (tablesText tables) = tables.flatMap fun table => SnapshotFile.line table.ddl := by
  have line (table : Table) :
      (spellTable table).flatMap String.utf8EncodeChar = SnapshotFile.line table.ddl :=
    Utf8.encode_append table.ddl "\n"
  simp only [Utf8.encode, toList_tablesText, List.flatMap_assoc, line]

/-- What is written of tables determines them. -/
theorem tables_of_text {first second : List Table}
    (hf : ∀ table ∈ first, table.IsMapped ∧ table.NamesEnd)
    (hg : ∀ table ∈ second, table.IsMapped ∧ table.NamesEnd) :
    (tablesText first = tablesText second → first = second) ∧
      ((first.flatMap fun table => SnapshotFile.line table.ddl) =
        (second.flatMap fun table => SnapshotFile.line table.ddl) → first = second) := by
  have text (same : tablesText first = tablesText second) : first = second := by
    have spelled := congrArg String.toList same
    rw [toList_tablesText, toList_tablesText] at spelled
    refine spellTables_inj ?_ ?_ spelled
    · intro table mem
      exact (hf table mem).1.legible (hf table mem).2
    · intro table mem
      exact (hg table mem).1.legible (hg table mem).2
  refine ⟨text, ?_⟩
  intro same
  rw [← encode_tablesText, ← encode_tablesText] at same
  have decoded := congrArg Utf8.decode? same
  rw [Utf8.decode?_encode, Utf8.decode?_encode] at decoded
  exact text (Option.some.inj decoded)

/-- A cache with a column whose name looks like the end of one. -/
def commaCache (group : Option String) : CacheDefinition where
  name := "comma"
  group := group
  dataRegion := none
  parallelism := 2
  backups := defaultBackups
  atomicity := some .atomic
  writeSync := .fullSync
  entities := [{
    keyType := defaultKeyType
    valueType := "Row"
    declaredTable := some "ROW ("
    schema := none
    keyField := some "id,"
    fields := [⟨"id,", "java.lang.Long"⟩, ⟨"", "java.lang.String"⟩]
    notNull := ∅
    precisions := ∅ }]

def commaTable (group : Option String) : Table where
  name := "ROW ("
  columns := [⟨"id,", "BIGINT", none, true, false⟩, ⟨"", "VARCHAR", none, false, false⟩]
  store := .ofCache (commaCache group)

/-- An empty group is told from no group. -/
theorem tables_of_text_comma :
    tablesText [commaTable (some ""), commaTable none] ≠
      tablesText [commaTable none, commaTable (some "")] := by
  have mapped (group : Option String) : (commaTable group).IsMapped :=
    ⟨commaCache group, false, ⟨commaTable group, []⟩, rfl, rfl⟩
  have both : ∀ table ∈ [commaTable (some ""), commaTable none],
      table.IsMapped ∧ table.NamesEnd := by
    simp only [List.forall_mem_cons]
    exact ⟨⟨mapped _, by decide⟩, ⟨mapped _, by decide⟩, nofun⟩
  have swapped : ∀ table ∈ [commaTable none, commaTable (some "")],
      table.IsMapped ∧ table.NamesEnd := by
    simp only [List.forall_mem_cons]
    exact ⟨⟨mapped _, by decide⟩, ⟨mapped _, by decide⟩, nofun⟩
  intro same
  have equal := (tables_of_text both swapped).1 same
  revert equal
  decide

end GridSchema
