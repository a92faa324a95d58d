import GridSchema.Table.Basic

/-! Statements that create tables. Equal tables have equal statements. -/

namespace GridSchema

def Column.ddl (column : Column) : String :=
  column.name ++ " " ++ column.sqlType ++
    (match column.precision with
      | some precision => "(" ++ toString precision.toNat ++ ")"
      | none => "") ++
    (if column.isPrimaryKey then " PRIMARY KEY" else "") ++
    (if column.isNotNull then " NOT NULL" else "")

/-- The options of a table: the cache always, the others where they differ from a cache's
defaults. -/
def StoreOptions.assignments (options : StoreOptions) : List (String × String) :=
  [("cache_name", options.cache)] ++
  (options.group.map fun group => ("cache_group", group)).toList ++
  (options.dataRegion.map fun region => ("data_region", region)).toList ++
  (if options.parallelism = defaultParallelism then []
    else [("parallelism", toString options.parallelism.toNat)]) ++
  (if options.backups = defaultBackups then []
    else [("backups", toString options.backups.toNat)]) ++
  (options.atomicity.map fun mode => ("atomicity", mode.name)).toList ++
  (if options.writeSync = defaultWriteSync then []
    else [("write_synchronization_mode", options.writeSync.name)])

def StoreOptions.ddl (options : StoreOptions) : String :=
  ",".intercalate (options.assignments.map fun (key, value) => key ++ "=" ++ value)

def Table.ddl (table : Table) : String :=
  "CREATE TABLE IF NOT EXISTS " ++ table.name ++ " (\n" ++
    ",\n".intercalate (table.columns.map fun column => "    " ++ column.ddl) ++
    "\n) WITH \"" ++ table.store.ddl ++ "\";"

end GridSchema
