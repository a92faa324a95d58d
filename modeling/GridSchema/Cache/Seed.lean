import GridSchema.Cache.Record
import GridSchema.Options.Yaml

/-! Caches to fill an instance with. -/

namespace GridSchema

variable {m : Type → Type} [Monad m] [MonadLiftT Option m]

structure Seed where
  caches : List CacheDefinition
  deriving DecidableEq, Repr

def Seed.read (r : Reader m ν) (value : ν) : m Seed := do
  let [caches] ← r.fields? ["caches"] value | none
  return ⟨← Reader.defaulted [] (r.list? (CacheDefinition.read r)) caches⟩

def Seed.fromYaml (text : String) : Except Error Seed :=
  Yaml.decode (Seed.read Yaml.reader) text

end GridSchema
