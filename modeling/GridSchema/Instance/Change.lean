import GridSchema.Cache.Basic
import GridSchema.Discovery.Node
import GridSchema.Error

/-! Changes of the caches of an instance, and the messages that carry them. A change is asked for by
a request; the acknowledgement that follows the request tells that it has been handled. -/

namespace GridSchema

abbrev Registry := NameMap CacheDefinition

inductive CacheChange where
  | create (cache : CacheDefinition)
  | destroy (name : String)
  deriving DecidableEq, Repr

def Registry.definition (registry : Registry) (name : String) : Except Error CacheDefinition :=
  match registry.find? name with
  | some cache => .ok cache
  | none => .error (.cacheNotFound name)

/-- Makes a change. It fails, and changes nothing, if a name to create is taken or a name to destroy
is not known. -/
def Registry.apply (registry : Registry) : CacheChange → Except Error Unit × Registry
  | .create cache =>
    if registry.contains cache.name then (.error (.cacheExists cache.name), registry)
    else (.ok (), registry.insert cache.name cache)
  | .destroy name =>
    if registry.contains name then (.ok (), registry.erase name)
    else (.error (.cacheNotFound name), registry)

inductive ChangeMessage where
  | request (id : Nat) (change : CacheChange)
  | acknowledgement (id : Nat)
  deriving DecidableEq, Repr

instance : Message ChangeMessage where
  acknowledgement?
    | .request id _ => some (.acknowledgement id)
    | .acknowledgement _ => none

end GridSchema
