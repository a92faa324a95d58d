import GridSchema.Proofs.Data.NameMap
import GridSchema.Proofs.Table.Mapping
import Mathlib.Data.List.Forall2
import Mathlib.Tactic.SplitIfs

/-! Which caches have a table, why the others have none, and what stands in the table, all of it
told by the entities and fields of the cache. -/

namespace GridSchema

/-! ### Classes -/

/-- The type of a class that one of the two tables of types has. -/
def SqlType.known? (className : String) : Option SqlType :=
  (infer? className).or (lookup? className)

theorem SqlType.name_ne_unknownName (type : SqlType) : type.name ≠ unknownName := by
  cases type <;> decide

/-- A class in one of the tables has its type from there, and any other class is an object with a
warning if that is allowed. -/
theorem SqlType.resolve?_eq (degrade : Bool) (className : String) :
    (resolve? degrade className).map (fun found => (found.type, found.lossy)) =
      match known? className with
      | some type => some (type, false)
      | none => if degrade then some (.object, true) else none := by
  unfold resolve? known?
  cases infer? className with
  | some type => rfl
  | none =>
    cases lookup? className with
    | some type => rfl
    | none => cases degrade <;> rfl

/-! ### Columns -/

def QueryField.isUnknown (field : QueryField) : Bool :=
  (SqlType.known? field.className).isNone

/-- A column that stands for a field of an entity. -/
structure Column.StandsFor (entity : QueryEntity) (field : QueryField) (column : Column) :
    Prop where
  name : column.name = field.name
  sqlType : column.sqlType = ((SqlType.known? field.className).getD .object).name
  known : column.sqlType ≠ SqlType.unknownName
  precision : column.precision = entity.precisions.find? field.name
  isPrimaryKey : column.isPrimaryKey = true ↔ entity.keyField = some field.name
  isNotNull : column.isNotNull = true ↔ field.name ∈ entity.notNull.names

namespace Column.StandsFor

variable {entity : QueryEntity} {field : QueryField} {column other : Column}

theorem unique (h : column.StandsFor entity field) (h' : other.StandsFor entity field) :
    column = other := by
  have isPrimaryKey : column.isPrimaryKey = other.isPrimaryKey :=
    Bool.eq_iff_iff.mpr (h.isPrimaryKey.trans h'.isPrimaryKey.symm)
  have isNotNull : column.isNotNull = other.isNotNull :=
    Bool.eq_iff_iff.mpr (h.isNotNull.trans h'.isNotNull.symm)
  have name := h.name.trans h'.name.symm
  have sqlType := h.sqlType.trans h'.sqlType.symm
  have precision := h.precision.trans h'.precision.symm
  cases column
  cases other
  simp only at name sqlType precision isPrimaryKey isNotNull
  rw [name, sqlType, precision, isPrimaryKey, isNotNull]

end Column.StandsFor

namespace QueryEntity

variable {entity : QueryEntity} {fields : List QueryField} {columns : List Column}

theorem column_standsFor (entity : QueryEntity) (field : QueryField) (type : SqlType)
    (type_eq : type = (SqlType.known? field.className).getD .object) :
    (entity.column field type).StandsFor entity field where
  name := rfl
  sqlType := congrArg SqlType.name type_eq
  known := type.name_ne_unknownName
  precision := rfl
  isPrimaryKey := by simp [column]
  isNotNull := NameMap.mem_names_iff.symm

theorem columns_cons_of_resolve {degrade : Bool} {field : QueryField} {type : SqlType}
    {lossy : Bool} (resolved : (SqlType.resolve? degrade field.className).map (fun found =>
      (found.type, found.lossy)) = some (type, lossy)) (entity : QueryEntity) :
    entity.columns degrade (field :: fields) =
      (entity.columns degrade fields).map fun (columns, warnings) =>
        (entity.column field type :: columns,
          if lossy then entity.warning field :: warnings else warnings) := by
  obtain ⟨found, resolves, pair⟩ := Option.map_eq_some_iff.mp resolved
  cases pair
  rw [QueryEntity.columns, resolves]
  cases entity.columns degrade fields <;> rfl

/-- Fields have columns that stand for them, with a warning for each unknown class, unless there is
such a class and it is not allowed. -/
theorem columns_of_fields (entity : QueryEntity) (degrade : Bool) (fields : List QueryField) :
    (degrade = false ∧ ∃ field, fields.find? QueryField.isUnknown = some field ∧
        entity.columns degrade fields = .error (.unsupportedType field.name field.className)) ∨
      (degrade = true ∨ fields.find? QueryField.isUnknown = none) ∧
        ∃ columns, fields.Forall₂ (fun field column => column.StandsFor entity field) columns ∧
          entity.columns degrade fields =
            .ok (columns, (fields.filter QueryField.isUnknown).map entity.warning) := by
  induction fields with
  | nil => exact .inr ⟨.inr rfl, [], .nil, rfl⟩
  | cons field fields ih =>
    have resolved := SqlType.resolve?_eq degrade field.className
    cases known : SqlType.known? field.className with
    | some type =>
      have clear : field.isUnknown = false := by rw [QueryField.isUnknown, known]; rfl
      have stands := entity.column_standsFor field type (by rw [known]; rfl)
      rw [known] at resolved
      rw [List.find?_cons_of_neg (by simp [clear]), List.filter_cons_of_neg (by simp [clear]),
        columns_cons_of_resolve resolved]
      obtain ⟨off, first, found, failed⟩ | ⟨allowed, columns, all, mapped⟩ := ih
      · exact .inl ⟨off, first, found, by rw [failed]; rfl⟩
      · exact .inr ⟨allowed, _, .cons stands all, by rw [mapped]; rfl⟩
    | none =>
      have unknown : field.isUnknown = true := by rw [QueryField.isUnknown, known]; rfl
      have stands := entity.column_standsFor field .object (by rw [known]; rfl)
      rw [known] at resolved
      rw [List.find?_cons_of_pos unknown, List.filter_cons_of_pos unknown]
      cases degrade with
      | false =>
        have none : SqlType.resolve? false field.className = none := by simpa using resolved
        exact .inl ⟨rfl, field, rfl, by rw [QueryEntity.columns, none]⟩
      | true =>
        rw [columns_cons_of_resolve resolved]
        obtain ⟨off, -⟩ | ⟨-, columns, all, mapped⟩ := ih
        · cases off
        · exact .inr ⟨.inl rfl, _, .cons stands all, by rw [mapped]; rfl⟩

theorem columns_of_unknown {degrade : Bool} {field : QueryField} (off : degrade = false)
    (first : fields.find? QueryField.isUnknown = some field) :
    entity.columns degrade fields = .error (.unsupportedType field.name field.className) := by
  obtain ⟨-, other, found, failed⟩ | ⟨allowed, -⟩ := entity.columns_of_fields degrade fields
  · cases first.symm.trans found
    exact failed
  · simp [off, first] at allowed

theorem columns_of_allowed {degrade : Bool}
    (allowed : degrade = true ∨ fields.find? QueryField.isUnknown = none) :
    ∃ columns, fields.Forall₂ (fun field column => column.StandsFor entity field) columns ∧
      entity.columns degrade fields =
        .ok (columns, (fields.filter QueryField.isUnknown).map entity.warning) := by
  obtain ⟨off, field, found, -⟩ | ⟨-, mapped⟩ := entity.columns_of_fields degrade fields
  · simp [off, found] at allowed
  · exact mapped

/-- The fields that have the name of the key field. -/
def keyFields (entity : QueryEntity) : List QueryField :=
  entity.fields.filter fun field => entity.keyField = some field.name

theorem countP_isPrimaryKey
    (all : fields.Forall₂ (fun field column => column.StandsFor entity field) columns) :
    columns.countP Column.isPrimaryKey =
      (fields.filter fun field => entity.keyField = some field.name).length := by
  induction all with
  | nil => rfl
  | cons stands _ ih =>
    rw [List.countP_cons, ih, List.filter_cons]
    simp only [stands.isPrimaryKey, decide_eq_true_eq]
    split_ifs <;> simp

theorem exists_field_of_mem {column : Column}
    (all : fields.Forall₂ (fun field column => column.StandsFor entity field) columns)
    (mem : column ∈ columns) : ∃ field ∈ fields, column.StandsFor entity field := by
  induction all with
  | nil => cases mem
  | cons stands _ ih =>
    rcases List.mem_cons.mp mem with rfl | mem
    · exact ⟨_, List.mem_cons_self, stands⟩
    · obtain ⟨field, there, stands⟩ := ih mem
      exact ⟨field, List.mem_cons_of_mem _ there, stands⟩

end QueryEntity

/-! ### Tables -/

/-- A column that is the one key column of a table, and has the name of the key field. -/
structure Table.HasKey (table : Table) (entity : QueryEntity) (key : Column) : Prop where
  only : ∃ front back, table.columns = front ++ key :: back ∧
    ∀ other ∈ front ++ back, other.isPrimaryKey = false
  isPrimaryKey : key.isPrimaryKey = true
  name : entity.keyField = some key.name
  primaryKey? : table.primaryKey? = some key

/-- A table that depicts the one entity of a cache: with the columns of the fields in their order,
one of which is the key, and with a warning for each field of an unknown class. -/
structure MappedTable.Depicts (mapped : MappedTable) (cache : CacheDefinition)
    (entity : QueryEntity) : Prop where
  name : mapped.table.name = entity.tableName
  columns : entity.fields.Forall₂ (fun field column => column.StandsFor entity field)
    mapped.table.columns
  key : ∃ key, mapped.table.HasKey entity key
  store : mapped.table.store = ⟨cache.name, cache.group, cache.dataRegion, cache.parallelism,
    cache.backups, cache.atomicity, cache.writeSync⟩
  warnings : mapped.warnings = (entity.fields.filter QueryField.isUnknown).map fun field =>
    ⟨entity.tableName, field.name, field.className⟩

/-- What a cache becomes: a table if it has one entity, no field of an unknown class unless these
are allowed, and one key field. Otherwise the first of these that fails is the reason. -/
inductive CacheDefinition.Becomes (cache : CacheDefinition) (degrade : Bool) :
    Except Error MappedTable → Prop where
  | ambiguous (several : cache.entities.length ≠ 1) :
    Becomes cache degrade (.error (.ambiguousSchema cache.name cache.entities.length))
  | unsupported (entity : QueryEntity) (field : QueryField) (single : cache.entities = [entity])
      (off : degrade = false) (first : entity.fields.find? QueryField.isUnknown = some field) :
    Becomes cache degrade (.error (.unsupportedType field.name field.className))
  | keyless (entity : QueryEntity) (single : cache.entities = [entity])
      (allowed : degrade = true ∨ entity.fields.find? QueryField.isUnknown = none)
      (keys : entity.keyFields.length ≠ 1) :
    Becomes cache degrade (.error (.noPrimaryKey entity.tableName))
  | table (entity : QueryEntity) (mapped : MappedTable) (single : cache.entities = [entity])
      (allowed : degrade = true ∨ entity.fields.find? QueryField.isUnknown = none)
      (key : entity.keyFields.length = 1) (depicts : mapped.Depicts cache entity) :
    Becomes cache degrade (.ok mapped)

theorem Table.exists_hasKey {table : Table} {entity : QueryEntity} {fields : List QueryField}
    (all : fields.Forall₂ (fun field column => column.StandsFor entity field) table.columns)
    (one : table.columns.countP Column.isPrimaryKey = 1) : ∃ key, table.HasKey entity key := by
  have some : 0 < table.columns.countP Column.isPrimaryKey := by omega
  obtain ⟨witness, mem, isKey⟩ := List.countP_pos_iff.mp some
  have found : (table.columns.find? Column.isPrimaryKey).isSome :=
    List.find?_isSome.mpr ⟨witness, mem, isKey⟩
  obtain ⟨key, primary⟩ := Option.isSome_iff_exists.mp found
  obtain ⟨isPrimaryKey, front, back, columns, before⟩ := List.find?_eq_some_iff_append.mp primary
  -- the key counts once, so nothing behind it counts
  have after : back.countP Column.isPrimaryKey = 0 := by
    rw [columns, List.countP_append, List.countP_cons, isPrimaryKey] at one
    simp only [↓reduceIte] at one
    omega
  have only : ∀ other ∈ front ++ back, other.isPrimaryKey = false := by
    intro other mem
    rcases List.mem_append.mp mem with mem | mem
    · simpa using before other mem
    · simpa using List.countP_eq_zero.mp after other mem
  have among : key ∈ table.columns := by simp [columns]
  obtain ⟨field, -, stands⟩ := QueryEntity.exists_field_of_mem all among
  refine ⟨key, ⟨front, back, columns, only⟩, isPrimaryKey, ?_, primary⟩
  rw [stands.name]
  exact stands.isPrimaryKey.mp isPrimaryKey

theorem MappedTable.Depicts.unique {mapped other : MappedTable} {cache : CacheDefinition}
    {entity : QueryEntity} (depicts : mapped.Depicts cache entity)
    (depicts' : other.Depicts cache entity) : mapped = other := by
  have columns : mapped.table.columns = other.table.columns :=
    List.right_unique_forall₂' (fun _ _ _ h h' => h.unique h') depicts.columns depicts'.columns
  have name := depicts.name.trans depicts'.name.symm
  have store := depicts.store.trans depicts'.store.symm
  have warnings := depicts.warnings.trans depicts'.warnings.symm
  obtain ⟨⟨_, _, _⟩, _⟩ := mapped
  obtain ⟨⟨_, _, _⟩, _⟩ := other
  simp only at name columns store warnings
  rw [name, columns, store, warnings]

namespace CacheDefinition

variable {cache : CacheDefinition} {degrade : Bool} {entity : QueryEntity}
  {result : Except Error MappedTable}

theorem table_of_single (single : cache.entities = [entity]) (degrade : Bool) :
    cache.table degrade = (entity.columns degrade entity.fields).bind fun (columns, warnings) =>
      if columns.countP Column.isPrimaryKey = 1 then
        .ok ⟨⟨entity.tableName, columns, .ofCache cache⟩, warnings⟩
      else .error (.noPrimaryKey entity.tableName) := by
  simp only [table, single]
  cases entity.columns degrade entity.fields <;> rfl

theorem table_of_several (several : cache.entities.length ≠ 1) (degrade : Bool) :
    cache.table degrade = .error (.ambiguousSchema cache.name cache.entities.length) := by
  unfold table
  split
  next entity single =>
    rw [single] at several
    exact absurd rfl several
  next => rfl

/-- A cache with one entity whose classes are allowed has a table that depicts the entity, if one of
its fields is the key. -/
theorem table_of_allowed (single : cache.entities = [entity])
    (allowed : degrade = true ∨ entity.fields.find? QueryField.isUnknown = none) :
    entity.keyFields.length ≠ 1 ∧
        cache.table degrade = .error (.noPrimaryKey entity.tableName) ∨
      entity.keyFields.length = 1 ∧
        ∃ mapped : MappedTable, mapped.Depicts cache entity ∧ cache.table degrade = .ok mapped := by
  obtain ⟨columns, all, mapped⟩ := QueryEntity.columns_of_allowed allowed
  have keys : columns.countP Column.isPrimaryKey = entity.keyFields.length :=
    QueryEntity.countP_isPrimaryKey all
  have made := table_of_single single degrade
  simp only [mapped, Except.bind, keys] at made
  by_cases one : entity.keyFields.length = 1
  · rw [if_pos one] at made
    have key : ∃ key, Table.HasKey ⟨entity.tableName, columns, .ofCache cache⟩ entity key :=
      Table.exists_hasKey all (keys.trans one)
    exact .inr ⟨one, _, ⟨rfl, all, key, rfl, rfl⟩, made⟩
  · rw [if_neg one] at made
    exact .inl ⟨one, made⟩

theorem becomes_table (cache : CacheDefinition) (degrade : Bool) :
    cache.Becomes degrade (cache.table degrade) := by
  by_cases one : cache.entities.length = 1
  · obtain ⟨entity, single⟩ := List.length_eq_one_iff.mp one
    obtain ⟨off, field, first, failed⟩ | ⟨allowed, -⟩ :=
      entity.columns_of_fields degrade entity.fields
    · rw [table_of_single single, failed]
      exact .unsupported entity field single off first
    · obtain ⟨keys, refused⟩ | ⟨key, mapped, depicts, made⟩ := table_of_allowed single allowed
      · rw [refused]
        exact .keyless entity single allowed keys
      · rw [made]
        exact .table entity mapped single allowed key depicts
  · rw [table_of_several one]
    exact .ambiguous one

theorem Becomes.table_eq (becomes : cache.Becomes degrade result) :
    cache.table degrade = result := by
  cases becomes with
  | ambiguous several => exact table_of_several several degrade
  | unsupported entity field single off first =>
    rw [table_of_single single, QueryEntity.columns_of_unknown off first]
    rfl
  | keyless entity single allowed keys =>
    obtain ⟨-, refused⟩ | ⟨key, -⟩ := table_of_allowed single allowed
    · exact refused
    · exact absurd key keys
  | table entity mapped single allowed key depicts =>
    obtain ⟨keys, -⟩ | ⟨-, other, depicts', made⟩ := table_of_allowed single allowed
    · exact absurd key keys
    · rw [made, depicts'.unique depicts]

/-- What a cache becomes, and nothing else: an error for a number of entities other than one, for
the first field of an unknown class if these are not allowed, or for a number of key fields other
than one, in this order; or else the table that depicts its entity. -/
theorem table_eq_iff_becomes (cache : CacheDefinition) (degrade : Bool)
    (result : Except Error MappedTable) :
    cache.table degrade = result ↔ cache.Becomes degrade result := by
  constructor
  · rintro rfl
    exact cache.becomes_table degrade
  · exact Becomes.table_eq

end CacheDefinition

end GridSchema
