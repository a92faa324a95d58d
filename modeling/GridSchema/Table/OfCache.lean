import GridSchema.Error
import GridSchema.Table.Basic

/-! The table of a cache. -/

namespace GridSchema

structure TypeWarning where
  table : String
  column : String
  className : String
  deriving DecidableEq, Repr

structure MappedTable where
  table : Table
  warnings : List TypeWarning
  deriving DecidableEq, Repr

def QueryEntity.column (entity : QueryEntity) (field : QueryField) (type : SqlType) : Column where
  name := field.name
  sqlType := type.name
  precision := entity.precisions.find? field.name
  isPrimaryKey := entity.keyField == some field.name
  isNotNull := entity.notNull.contains field.name

/-- The columns of fields in their order, each with its warning if its class was lost. The first
field without a type is an error. -/
def QueryEntity.columns (entity : QueryEntity) (degrade : Bool) :
    List QueryField → Except Error (List Column × List TypeWarning)
  | [] => .ok ([], [])
  | field :: fields =>
    match SqlType.resolve? degrade field.className with
    | none => .error (.unsupportedType field.name field.className)
    | some resolution =>
      match entity.columns degrade fields with
      | .error e => .error e
      | .ok (columns, warnings) =>
        let column := entity.column field resolution.type
        let warning := ⟨entity.tableName, field.name, field.className⟩
        .ok (column :: columns, if resolution.lossy then warning :: warnings else warnings)

/-- The table of a cache, which must have one entity with one key column. Unknown classes become
objects if `degrade` allows it. -/
def CacheDefinition.table (cache : CacheDefinition) (degrade : Bool) : Except Error MappedTable :=
  match cache.entities with
  | [entity] =>
    match entity.columns degrade entity.fields with
    | .error e => .error e
    | .ok (columns, warnings) =>
      if columns.countP Column.isPrimaryKey = 1 then
        .ok ⟨⟨entity.tableName, columns, .ofCache cache⟩, warnings⟩
      else .error (.noPrimaryKey entity.tableName)
  | entities => .error (.ambiguousSchema cache.name entities.length)

end GridSchema
