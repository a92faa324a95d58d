import GridSchema.Table.OfCache

/-! What a cache needs to have a table, and what it changes to allow unknown classes. -/

namespace GridSchema

/-! ### Columns -/

namespace QueryEntity

variable {entity : QueryEntity} {degrade : Bool} {field : QueryField} {fields : List QueryField}
  {columns : List Column} {warnings : List TypeWarning}

def warning (entity : QueryEntity) (field : QueryField) : TypeWarning :=
  ⟨entity.tableName, field.name, field.className⟩

theorem columns_cons_eq_ok
    (h : entity.columns degrade (field :: fields) = .ok (columns, warnings)) :
    ∃ resolution later warned, SqlType.resolve? degrade field.className = some resolution ∧
      entity.columns degrade fields = .ok (later, warned) ∧
      columns = entity.column field resolution.type :: later ∧
      warnings = if resolution.lossy then entity.warning field :: warned else warned := by
  rw [QueryEntity.columns] at h
  cases resolved : SqlType.resolve? degrade field.className with
  | none => simp [resolved] at h
  | some resolution =>
    cases rest : entity.columns degrade fields with
    | error e => simp [resolved, rest] at h
    | ok mapped =>
      obtain ⟨later, warned⟩ := mapped
      simp only [resolved, rest] at h
      cases h
      exact ⟨resolution, later, warned, rfl, rfl, rfl, rfl⟩

theorem sqlType_of_columns (mapped : entity.columns degrade fields = .ok (columns, warnings)) :
    ∀ column ∈ columns, ∃ type : SqlType, column.sqlType = type.name := by
  induction fields generalizing columns warnings with
  | nil =>
    cases mapped
    exact nofun
  | cons field fields ih =>
    obtain ⟨resolution, later, warned, -, rest, rfl, -⟩ := columns_cons_eq_ok mapped
    rw [List.forall_mem_cons]
    exact ⟨⟨resolution.type, rfl⟩, ih rest⟩

end QueryEntity

/-! ### Unknown classes -/

/-- A known class has the same type whether unknown classes are allowed or not, and an unknown one
is an object if they are. -/
theorem SqlType.resolve?_cases (className : String) :
    (∃ resolution, (∀ degrade, resolve? degrade className = some resolution) ∧
      resolution.lossy = false) ∨
    (resolve? false className = none ∧ ∃ resolution, resolve? true className = some resolution ∧
      resolution.lossy = true) := by
  cases inferred : infer? className with
  | some type => exact .inl ⟨⟨type, .inferred⟩, fun _ => by simp [resolve?, inferred], rfl⟩
  | none =>
    cases found : lookup? className with
    | some type => exact .inl ⟨⟨type, .lookup⟩, fun _ => by simp [resolve?, inferred, found], rfl⟩
    | none =>
      refine .inr ⟨?_, ⟨.object, .degraded⟩, ?_, rfl⟩
      · simp [resolve?, inferred, found]
      · simp [resolve?, inferred, found]

/-- Fields have columns if unknown classes are allowed. There are no warnings if they have the same
columns without that, and otherwise the class of some field is unknown. -/
theorem QueryEntity.columns_cases (entity : QueryEntity) (fields : List QueryField) :
    ∃ columns warnings, entity.columns true fields = .ok (columns, warnings) ∧
      (warnings = [] ∧ entity.columns false fields = .ok (columns, []) ∨
        warnings ≠ [] ∧ ∃ column className,
          entity.columns false fields = .error (.unsupportedType column className)) := by
  induction fields with
  | nil => exact ⟨[], [], rfl, .inl ⟨rfl, rfl⟩⟩
  | cons field fields ih =>
    obtain ⟨columns, warnings, allowed, same⟩ := ih
    rcases SqlType.resolve?_cases field.className with
      ⟨resolution, known, exact⟩ | ⟨unknown, resolution, degraded, lossy⟩
    · refine ⟨entity.column field resolution.type :: columns, warnings, ?_, ?_⟩
      · simp [QueryEntity.columns, known, allowed, exact]
      · obtain ⟨none, same⟩ | ⟨some, column, className, refused⟩ := same
        · exact .inl ⟨none, by simp [QueryEntity.columns, known, same, exact]⟩
        · exact .inr ⟨some, column, className, by simp [QueryEntity.columns, known, refused]⟩
    · refine ⟨entity.column field resolution.type :: columns, entity.warning field :: warnings,
        ?_, .inr ⟨by simp, field.name, field.className, ?_⟩⟩
      · simp [QueryEntity.columns, degraded, allowed, lossy, warning]
      · simp [QueryEntity.columns, unknown]

/-! ### Tables -/

/-- What becomes of a cache if unknown classes are allowed, next to what becomes of it if they are
not. A table stays as it is and raises no warnings; a table with warnings is new, and was refused
for an unknown class; what is still refused was refused before, for the same reason or for an
unknown class. -/
structure OnlyAdds (off on : Except Error MappedTable) : Prop where
  kept : ∀ mapped, off = .ok mapped → on = .ok mapped ∧ mapped.warnings = []
  warned : ∀ mapped, on = .ok mapped → mapped.warnings ≠ [] →
    ∃ column className, off = .error (.unsupportedType column className)
  refused : ∀ reason, on = .error reason → off = .error reason ∨
    ∃ column className, off = .error (.unsupportedType column className)

theorem OnlyAdds.error (reason : Error) : OnlyAdds (.error reason) (.error reason) where
  kept := nofun
  warned := nofun
  refused _ h := .inl h

namespace CacheDefinition

variable {cache : CacheDefinition} {degrade : Bool} {mapped : MappedTable}

theorem table_eq_ok (h : cache.table degrade = .ok mapped) :
    ∃ entity columns warnings, cache.entities = [entity] ∧
      entity.columns degrade entity.fields = .ok (columns, warnings) ∧
      columns.countP Column.isPrimaryKey = 1 ∧
      mapped = ⟨⟨entity.tableName, columns, .ofCache cache⟩, warnings⟩ := by
  unfold table at h
  split at h
  next entity single =>
    cases fields : entity.columns degrade entity.fields with
    | error e => simp [fields] at h
    | ok result =>
      obtain ⟨columns, warnings⟩ := result
      simp only [fields] at h
      split at h
      next one =>
        cases h
        exact ⟨entity, columns, warnings, single, fields, one, rfl⟩
      next => cases h
  next => cases h

theorem table_onlyAdds (cache : CacheDefinition) :
    OnlyAdds (cache.table false) (cache.table true) := by
  unfold table
  split
  next entity single =>
    obtain ⟨columns, warnings, allowed, same⟩ := entity.columns_cases entity.fields
    rcases same with ⟨rfl, same⟩ | ⟨some, column, className, refused⟩
    · simp only [allowed, same]
      split
      next => exact ⟨by simp, by simp, nofun⟩
      next => exact .error _
    · simp only [allowed, refused]
      exact ⟨nofun, fun _ _ _ => ⟨column, className, rfl⟩, fun _ _ => .inr ⟨column, className, rfl⟩⟩
  next => exact .error _

theorem table_true_ne_unsupportedType (column className : String) :
    cache.table true ≠ .error (.unsupportedType column className) := by
  unfold table
  split
  next entity single =>
    obtain ⟨columns, warnings, allowed, -⟩ := entity.columns_cases entity.fields
    simp only [allowed]
    split <;> simp
  next => simp

end CacheDefinition

end GridSchema
