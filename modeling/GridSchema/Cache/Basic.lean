import GridSchema.Data.NameMap
import GridSchema.Text.Upper

/-! Caches as the cluster configures them. -/

namespace GridSchema

inductive WriteSync where
  | fullSync
  | fullAsync
  | primarySync
  deriving DecidableEq, Repr, Inhabited

def WriteSync.name : WriteSync → String
  | fullSync => "FULL_SYNC"
  | fullAsync => "FULL_ASYNC"
  | primarySync => "PRIMARY_SYNC"

def WriteSync.ofName? : String → Option WriteSync
  | "FULL_SYNC" => some fullSync
  | "FULL_ASYNC" => some fullAsync
  | "PRIMARY_SYNC" => some primarySync
  | _ => none

inductive Atomicity where
  | atomic
  | transactional
  | transactionalSnapshot
  deriving DecidableEq, Repr

def Atomicity.name : Atomicity → String
  | atomic => "ATOMIC"
  | transactional => "TRANSACTIONAL"
  | transactionalSnapshot => "TRANSACTIONAL_SNAPSHOT"

def Atomicity.ofName? : String → Option Atomicity
  | "ATOMIC" => some atomic
  | "TRANSACTIONAL" => some transactional
  | "TRANSACTIONAL_SNAPSHOT" => some transactionalSnapshot
  | _ => none

structure QueryField where
  name : String
  className : String
  deriving DecidableEq, Repr

structure QueryEntity where
  keyType : String
  valueType : String
  declaredTable : Option String
  schema : Option String
  keyField : Option String
  fields : List QueryField
  notNull : NameSet
  precisions : NameMap UInt32
  deriving DecidableEq, Repr

/-- A cache as the cluster reports it. -/
structure CacheDefinition where
  name : String
  group : Option String
  dataRegion : Option String
  parallelism : UInt32
  backups : UInt32
  atomicity : Option Atomicity
  writeSync : WriteSync
  entities : List QueryEntity
  deriving DecidableEq, Repr

def defaultKeyType : String := "java.lang.Object"

def defaultParallelism : UInt32 := 1

def defaultBackups : UInt32 := 0

def defaultWriteSync : WriteSync := .primarySync

/-- The part of a class name after the last dot or dollar sign. -/
def simpleName (className : String) : String :=
  String.ofList ((className.toList.reverse.takeWhile fun c => c ≠ '.' && c ≠ '$').reverse)

/-- The table of an entity: the declared one, or the value class's simple name in upper case. -/
def QueryEntity.tableName (entity : QueryEntity) : String :=
  entity.declaredTable.getD (Text.upper (simpleName entity.valueType))

def CacheDefinition.tableNames (cache : CacheDefinition) : List String :=
  cache.entities.map QueryEntity.tableName

end GridSchema
