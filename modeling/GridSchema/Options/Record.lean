import GridSchema.Json.Reader
import GridSchema.Options.Basic

/-! Options and configurations as records. -/

namespace GridSchema

variable {m : Type → Type} [Monad m] [MonadLiftT Option m]

def SnapshotOptions.read (r : Reader m ν) (value : ν) : m SnapshotOptions := do
  let [dir, name, degrade, full, caches] ← r.fields?
    ["dir", "name", "unknown_type_support", "full", "caches"] value | none
  return {
    dir := ← Reader.defaulted defaultDir r.text? dir
    name := ← Reader.defaulted defaultName r.text? name
    degrade := ← Reader.defaulted false r.flag? degrade
    full := ← Reader.defaulted true r.flag? full
    caches := ← Reader.defaulted [] r.texts? caches }

def ClusterConfig.read (r : Reader m ν) (value : ν) : m ClusterConfig := do
  let [addresses, user] ← r.fields? ["addresses", "user"] value | none
  return {
    addresses := ← Reader.defaulted [] r.texts? addresses
    user := ← r.optional r.text? user }

def Config.read (r : Reader m ν) (value : ν) : m Config := do
  let [cluster, snapshot] ← r.fields? ["cluster", "snapshot"] value | none
  return {
    cluster := ← Reader.defaulted default (ClusterConfig.read r) cluster
    snapshot := ← Reader.defaulted .default (SnapshotOptions.read r) snapshot }

def SnapshotOptions.toJson (options : SnapshotOptions) : Json :=
  .ofFields (
    [("dir", .ofText options.dir),
      ("name", .ofText options.name),
      ("unknown_type_support", .bool options.degrade),
      ("full", .bool options.full)] ++
    (if options.caches.isEmpty then [] else [("caches", .ofTexts options.caches)]))

def ClusterConfig.toJson (cluster : ClusterConfig) : Json :=
  .ofFields (
    [("addresses", .ofTexts cluster.addresses)] ++
    (cluster.user.map fun user => ("user", Json.ofText user)).toList)

end GridSchema
