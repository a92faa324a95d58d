import GridSchema.Cache.Basic
import GridSchema.SqlType

/-! Tables, free of the cluster's own terms. -/

namespace GridSchema

/-- A column. The type is a text so that any column can be rendered. -/
structure Column where
  name : String
  sqlType : String
  precision : Option UInt32
  isPrimaryKey : Bool
  isNotNull : Bool
  deriving DecidableEq, Repr

structure StoreOptions where
  cache : String
  group : Option String
  dataRegion : Option String
  parallelism : UInt32
  backups : UInt32
  atomicity : Option Atomicity
  writeSync : WriteSync
  deriving DecidableEq, Repr

/-- A table: its columns in order and how it is stored. -/
structure Table where
  name : String
  columns : List Column
  store : StoreOptions
  deriving DecidableEq, Repr

def Table.primaryKey? (table : Table) : Option Column :=
  table.columns.find? Column.isPrimaryKey

def StoreOptions.ofCache (cache : CacheDefinition) : StoreOptions where
  cache := cache.name
  group := cache.group
  dataRegion := cache.dataRegion
  parallelism := cache.parallelism
  backups := cache.backups
  atomicity := cache.atomicity
  writeSync := cache.writeSync

end GridSchema
