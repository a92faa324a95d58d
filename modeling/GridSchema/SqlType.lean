/-! The SQL types that stand for the classes of cached values. -/

namespace GridSchema

inductive SqlType where
  | boolean
  | tinyint
  | smallint
  | integer
  | bigint
  | float
  | double
  | varchar
  | binary
  | time
  | timestamp
  | date
  | decimal
  | uuid
  | object
  deriving DecidableEq, Repr

namespace SqlType

def name : SqlType → String
  | boolean => "BOOLEAN"
  | tinyint => "TINYINT"
  | smallint => "SMALLINT"
  | integer => "INTEGER"
  | bigint => "BIGINT"
  | float => "FLOAT"
  | double => "DOUBLE"
  | varchar => "VARCHAR"
  | binary => "BINARY"
  | time => "TIME"
  | timestamp => "TIMESTAMP"
  | date => "DATE"
  | decimal => "DECIMAL"
  | uuid => "UUID"
  | object => "OBJECT"

/-- The name that inference gives to classes it does not know; no column has it. -/
def unknownName : String := "OTHER"

/-- The type of a class that the database driver knows by itself. -/
def infer? : String → Option SqlType
  | "java.lang.Boolean" | "boolean" => some boolean
  | "java.lang.Byte" | "byte" => some tinyint
  | "java.lang.Short" | "short" => some smallint
  | "java.lang.Integer" | "int" => some integer
  | "java.lang.Long" | "long" => some bigint
  | "java.lang.Float" | "float" => some float
  | "java.lang.Double" | "double" => some double
  | "java.lang.String" => some varchar
  | "[B" | "byte[]" => some binary
  | "java.sql.Time" => some time
  | "java.sql.Timestamp" => some timestamp
  | "java.util.Date" | "java.sql.Date" => some date
  | "java.math.BigDecimal" => some decimal
  | _ => none

/-- The type of a class in the fixed table, consulted after inference. -/
def lookup? : String → Option SqlType
  | "java.util.UUID" => some uuid
  | "java.lang.String" => some varchar
  | "java.lang.Object" => some object
  | "java.time.LocalDate" => some date
  | "java.time.LocalTime" => some time
  | "java.time.LocalDateTime" => some timestamp
  | _ => none

inductive Origin where
  | inferred
  | lookup
  | degraded
  deriving DecidableEq, Repr

structure Resolution where
  type : SqlType
  origin : Origin
  deriving DecidableEq, Repr

def Resolution.lossy (resolution : Resolution) : Bool :=
  resolution.origin == .degraded

/-- The type of a class. An unknown class is an object if `degrade` allows it. -/
def resolve? (degrade : Bool) (className : String) : Option Resolution :=
  match infer? className with
  | some type => some ⟨type, .inferred⟩
  | none =>
    match lookup? className with
    | some type => some ⟨type, .lookup⟩
    | none => if degrade then some ⟨.object, .degraded⟩ else none

end SqlType

end GridSchema
