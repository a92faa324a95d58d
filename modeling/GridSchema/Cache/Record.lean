import GridSchema.Cache.Basic
import GridSchema.Json.Reader

/-! Cache definitions as records. -/

namespace GridSchema

variable {m : Type → Type} [Monad m] [MonadLiftT Option m]

def WriteSync.read (r : Reader m ν) (value : ν) : m WriteSync :=
  do ofName? (← r.choice? value)

def Atomicity.read (r : Reader m ν) (value : ν) : m Atomicity :=
  do ofName? (← r.choice? value)

def QueryField.read (r : Reader m ν) (value : ν) : m QueryField := do
  let [name, className] ← r.fields? ["name", "type"] value | none
  return {
    name := ← Reader.required r.text? name
    className := ← Reader.required r.text? className }

def QueryEntity.read (r : Reader m ν) (value : ν) : m QueryEntity := do
  let [keyType, valueType, table, schema, keyField, fields, notNull, precisions] ← r.fields?
    ["key_type", "value_type", "table_name", "schema", "key_field_name", "fields",
      "not_null_fields", "fields_precision"] value | none
  return {
    keyType := ← Reader.defaulted defaultKeyType r.text? keyType
    valueType := ← Reader.required r.text? valueType
    declaredTable := ← r.optional r.text? table
    schema := ← r.optional r.text? schema
    keyField := ← r.optional r.text? keyField
    fields := ← Reader.defaulted [] (r.list? (QueryField.read r)) fields
    notNull := NameSet.ofNames (← Reader.defaulted [] r.texts? notNull)
    precisions := NameMap.ofList (← Reader.defaulted [] (r.map? r.word?) precisions) }

def CacheDefinition.read (r : Reader m ν) (value : ν) : m CacheDefinition := do
  let [name, group, dataRegion, parallelism, backups, atomicity, writeSync, entities] ← r.fields?
    ["name", "group_name", "data_region", "query_parallelism", "backups", "atomicity_mode",
      "write_synchronization_mode", "query_entities"] value | none
  return {
    name := ← Reader.required r.text? name
    group := ← r.optional r.text? group
    dataRegion := ← r.optional r.text? dataRegion
    parallelism := ← Reader.defaulted defaultParallelism r.word? parallelism
    backups := ← Reader.defaulted defaultBackups r.word? backups
    atomicity := ← r.optional (Atomicity.read r) atomicity
    writeSync := ← Reader.defaulted defaultWriteSync (WriteSync.read r) writeSync
    entities := ← Reader.defaulted [] (r.list? (QueryEntity.read r)) entities }

def Json.optionalText (key : String) : Option String → List (String × Json)
  | some text => [(key, .ofText text)]
  | none => []

def QueryField.toJson (field : QueryField) : Json :=
  .ofFields [("name", .ofText field.name), ("type", .ofText field.className)]

def QueryEntity.toJson (entity : QueryEntity) : Json :=
  .ofFields (
    [("key_type", .ofText entity.keyType), ("value_type", .ofText entity.valueType)] ++
    Json.optionalText "table_name" entity.declaredTable ++
    Json.optionalText "schema" entity.schema ++
    Json.optionalText "key_field_name" entity.keyField ++
    [("fields", .array (entity.fields.map QueryField.toJson))] ++
    (if entity.notNull.isEmpty then []
      else [("not_null_fields", .ofTexts entity.notNull.names)]) ++
    (if entity.precisions.isEmpty then []
      else [("fields_precision",
        .ofFields (entity.precisions.entries.map fun (key, n) => (key, .ofNat n.toNat)))]))

def CacheDefinition.toJson (cache : CacheDefinition) : Json :=
  .ofFields (
    [("name", .ofText cache.name)] ++
    Json.optionalText "group_name" cache.group ++
    Json.optionalText "data_region" cache.dataRegion ++
    [("query_parallelism", .ofNat cache.parallelism.toNat),
      ("backups", .ofNat cache.backups.toNat)] ++
    Json.optionalText "atomicity_mode" (cache.atomicity.map Atomicity.name) ++
    [("write_synchronization_mode", .ofText cache.writeSync.name),
      ("query_entities", .array (cache.entities.map QueryEntity.toJson))])

end GridSchema
