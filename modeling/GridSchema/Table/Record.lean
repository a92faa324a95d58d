import GridSchema.Cache.Record
import GridSchema.Table.OfCache

/-! Tables as records. -/

namespace GridSchema

variable {m : Type → Type} [Monad m] [MonadLiftT Option m]

def Json.nullable (toJson : α → Json) : Option α → Json
  | some value => toJson value
  | none => .null

def Column.read (r : Reader m ν) (value : ν) : m Column := do
  let [name, sqlType, precision, isPrimaryKey, isNotNull] ← r.fields?
    ["name", "sql_type", "precision", "is_primary_key", "is_not_null"] value | none
  return {
    name := ← Reader.required r.text? name
    sqlType := ← Reader.required r.text? sqlType
    precision := ← r.optional r.word? precision
    isPrimaryKey := ← Reader.required r.flag? isPrimaryKey
    isNotNull := ← Reader.required r.flag? isNotNull }

def StoreOptions.read (r : Reader m ν) (value : ν) : m StoreOptions := do
  let [cache, group, dataRegion, parallelism, backups, atomicity, writeSync] ← r.fields?
    ["cache_name", "cache_group", "data_region", "parallelism", "backups", "atomicity_mode",
      "write_sync_mode"] value | none
  return {
    cache := ← Reader.required r.text? cache
    group := ← r.optional r.text? group
    dataRegion := ← r.optional r.text? dataRegion
    parallelism := ← Reader.required r.word? parallelism
    backups := ← Reader.required r.word? backups
    atomicity := ← r.optional (Atomicity.read r) atomicity
    writeSync := ← Reader.required (WriteSync.read r) writeSync }

def Column.toJson (column : Column) : Json :=
  .ofFields [
    ("name", .ofText column.name),
    ("sql_type", .ofText column.sqlType),
    ("precision", Json.nullable (fun n => .ofNat n.toNat) column.precision),
    ("is_primary_key", .bool column.isPrimaryKey),
    ("is_not_null", .bool column.isNotNull)]

def StoreOptions.toJson (options : StoreOptions) : Json :=
  .ofFields [
    ("cache_name", .ofText options.cache),
    ("cache_group", Json.nullable .ofText options.group),
    ("data_region", Json.nullable .ofText options.dataRegion),
    ("parallelism", .ofNat options.parallelism.toNat),
    ("backups", .ofNat options.backups.toNat),
    ("atomicity_mode", Json.nullable (fun mode => .ofText mode.name) options.atomicity),
    ("write_sync_mode", .ofText options.writeSync.name)]

def Table.toJson (table : Table) : Json :=
  .ofFields [
    ("name", .ofText table.name),
    ("columns", .array (table.columns.map Column.toJson)),
    ("store_config", table.store.toJson)]

def TypeWarning.toJson (warning : TypeWarning) : Json :=
  .ofFields [
    ("table", .ofText warning.table),
    ("column", .ofText warning.column),
    ("class_name", .ofText warning.className)]

end GridSchema
