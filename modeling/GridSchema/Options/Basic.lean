/-! What a snapshot run is asked to do. -/

namespace GridSchema

inductive Selection where
  | all
  | only (names : List String)
  deriving DecidableEq, Repr

structure SnapshotOptions where
  dir : String
  name : String
  degrade : Bool
  full : Bool
  caches : List String
  deriving DecidableEq, Repr

def defaultDir : String := "schema-snapshots"

def defaultName : String := "snapshot"

def SnapshotOptions.default : SnapshotOptions := ⟨defaultDir, defaultName, false, true, []⟩

instance : Inhabited SnapshotOptions := ⟨.default⟩

structure ClusterConfig where
  addresses : List String
  user : Option String
  deriving DecidableEq, Repr, Inhabited

structure Config where
  cluster : ClusterConfig
  snapshot : SnapshotOptions
  deriving DecidableEq, Repr, Inhabited

/-- Settings of a client: the addresses it tries and the user it is. -/
structure ClientConfig where
  addresses : List String
  user : String
  deriving DecidableEq, Repr

def defaultUser : String := "ignite"

def ClusterConfig.client (cluster : ClusterConfig) : ClientConfig :=
  ⟨cluster.addresses, cluster.user.getD defaultUser⟩

def stripStart? (start text : List Char) : Option (List Char) :=
  if start.isPrefixOf text then some (text.drop start.length) else none

def extension : String := ".sql"

/-- A name without the extension of snapshot files, if it has it. -/
def stripExtension (name : String) : String :=
  match stripStart? extension.toList.reverse name.toList.reverse with
  | some rest => String.ofList rest.reverse
  | none => name

def SnapshotOptions.baseName (options : SnapshotOptions) : String :=
  stripExtension options.name

def SnapshotOptions.selection (options : SnapshotOptions) : Selection :=
  if options.full then .all else .only options.caches

end GridSchema
