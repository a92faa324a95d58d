import GridSchema.Cache.Basic
import GridSchema.Error

/-! What a snapshot run asks of a cluster. -/

namespace GridSchema

/-- The caches of a cluster, asked for in a world of type `ω` that may change at each question. -/
structure Catalog (ω : Type) where
  names : ω → Except Error (List String) × ω
  definition : String → ω → Except Error CacheDefinition × ω

/-- A catalog that leaves the other half of the world alone. -/
def Catalog.beside (catalog : Catalog σ) (δ : Type) : Catalog (δ × σ) where
  names := fun (d, s) =>
    let (answer, s) := catalog.names s
    (answer, d, s)
  definition name := fun (d, s) =>
    let (answer, s) := catalog.definition name s
    (answer, d, s)

/-- Answers that do not change: the names listed, and what is known of each cache. -/
structure FixedAnswers where
  names : Except Error (List String)
  definitions : String → Except Error CacheDefinition

def FixedAnswers.catalog (answers : FixedAnswers) (ω : Type) : Catalog ω where
  names world := (answers.names, world)
  definition name world := (answers.definitions name, world)

end GridSchema
