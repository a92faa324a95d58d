import GridSchema.Catalog.Basic
import GridSchema.Text.Blank

/-! The tables of a schema. Schemas and tables are looked up without regard to the case of ASCII
letters. -/

namespace GridSchema

def defaultSchema : String := "PUBLIC"

/-- Whether two texts differ at most in the case of ASCII letters. -/
def Text.sameLetters (a b : String) : Bool :=
  a.toList.map Char.toLower == b.toList.map Char.toLower

/-- A schema: its name as it was asked for, and the names of its tables in increasing order. -/
structure SchemaTables where
  name : String
  tables : List String
  deriving DecidableEq, Repr

def QueryEntity.belongsTo (entity : QueryEntity) (schema : String) : Bool :=
  Text.sameLetters (entity.schema.getD defaultSchema) schema

def SchemaTables.ofCaches (name : String) (caches : List CacheDefinition) : SchemaTables where
  name := name
  tables :=
    (NameSet.ofNames (((caches.flatMap CacheDefinition.entities).filter
      (·.belongsTo name)).map QueryEntity.tableName)).names

def SchemaTables.has (schema : SchemaTables) (table : String) : Bool :=
  schema.tables.any (Text.sameLetters · table)

namespace Catalog

/-- Asks for the caches of some names, up to the first that cannot be had. -/
def definitions (catalog : Catalog ω) : List String → ω → Except Error (List CacheDefinition) × ω
  | [], world => (.ok [], world)
  | name :: names, world =>
    match catalog.definition name world with
    | (.error e, world) => (.error e, world)
    | (.ok cache, world) =>
      let (rest, world) := catalog.definitions names world
      (rest.map (cache :: ·), world)

def caches (catalog : Catalog ω) (world : ω) : Except Error (List CacheDefinition) × ω :=
  match catalog.names world with
  | (.error e, world) => (.error e, world)
  | (.ok names, world) => catalog.definitions names world

def schema (catalog : Catalog ω) (name : String) (world : ω) : Except Error SchemaTables × ω :=
  let (caches, world) := catalog.caches world
  (caches.map (SchemaTables.ofCaches name), world)

def hasTable (catalog : Catalog ω) (schema table : String) (world : ω) : Except Error Bool × ω :=
  let (found, world) := catalog.schema schema world
  (found.map (·.has table), world)

end Catalog

end GridSchema
