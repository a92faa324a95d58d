import GridSchema.Fault

/-! Errors, the classes they fall into and how they are shown. -/

namespace GridSchema

inductive Error where
  | config (fault : ConfigFault)
  | ambiguousSchema (cache : String) (entities : Nat)
  | unsupportedType (column className : String)
  | noPrimaryKey (table : String)
  | lockContention (path : String)
  | protocolMisuse (misuse : Misuse)
  | client (fault : ClientFault)
  | clientClosed
  | cacheNotFound (name : String)
  | cacheExists (name : String)
  | snapshotOperation (fault : RunFault) (source : Error)
  | io (fault : IoFault)
  | yaml (fault : FormatFault := .untold)
  | json (fault : FormatFault := .untold)
  deriving DecidableEq, Repr

namespace Error

def kind : Error → String
  | config _ => "Config"
  | ambiguousSchema .. => "AmbiguousSchema"
  | unsupportedType .. => "UnsupportedType"
  | noPrimaryKey _ => "NoPrimaryKey"
  | lockContention _ => "LockContention"
  | protocolMisuse _ => "ProtocolMisuse"
  | client _ => "Client"
  | clientClosed => "ClientClosed"
  | cacheNotFound _ => "CacheNotFound"
  | cacheExists _ => "CacheExists"
  | snapshotOperation .. => "SnapshotOperation"
  | io _ => "Io"
  | yaml _ => "Yaml"
  | json _ => "Json"

def message : Error → String
  | config fault => "Configuration error: " ++ fault.text
  | ambiguousSchema cache entities =>
    "Cache " ++ cache ++ " must have exactly one query entity definition, found " ++
      toString entities
  | unsupportedType column className =>
    "Unsupported sql type [column=" ++ column ++ ", type=" ++ className ++ "]"
  | noPrimaryKey table => "Table " ++ table ++ " has no primary key field among its columns"
  | lockContention path => "Snapshot file " ++ path ++ " is locked by another run"
  | protocolMisuse misuse => "Protocol misuse: " ++ misuse.text
  | client fault => "Client error: " ++ fault.text
  | clientClosed => "Client is closed"
  | cacheNotFound name => "Cache not found: " ++ name
  | cacheExists name => "Cache already exists: " ++ name
  | snapshotOperation fault _ => "Snapshot operation failed: " ++ fault.text
  | io fault => "IO error: " ++ fault.text
  | yaml fault => "YAML error" ++ fault.ending
  | json fault => "JSON error" ++ fault.ending

/-- Whether an error, or the one it wraps, is that a file is held by another run. -/
def isLockContention : Error → Bool
  | lockContention _ => true
  | snapshotOperation _ source => source.isLockContention
  | _ => false

def exitCode : Error → Nat
  | config _ | yaml _ => 2
  | lockContention _ => 3
  | client _ | clientClosed => 4
  | snapshotOperation _ source => source.exitCode
  | _ => 1

/-- The messages of an error's sources, outermost first. A failure of the operating system, or of
reading or writing a format, counts as a source of its own. -/
def causes : Error → List String
  | snapshotOperation _ source => source.message :: source.causes
  | io fault => fault.text :: fault.sources
  | yaml fault | json fault => fault.causes
  | _ => []

def causeEntries (depth : Nat) : List String → String
  | [] => ""
  | cause :: rest =>
    "\nCaused by:\n  " ++ toString depth ++ ": " ++ cause ++ causeEntries (depth + 1) rest

def detailed (error : Error) : String :=
  "Error: " ++ error.message ++ "\n" ++ causeEntries 1 error.causes

end Error

end GridSchema
