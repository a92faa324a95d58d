/-! What can go wrong, as the causes that errors carry. -/

namespace GridSchema

inductive IoFault where
  | notFound
  | exists
  | notDirectory
  | isDirectory
  | notEmpty
  | nameTooLong
  | zeroInPath
  | addressInUse
  | networkUnreachable
  | connectionRefused
  | notUtf8
  | addressNotAvailable
  | noDevice
  | invalidArgument
  | invalidAddress
  | invalidPort
  | invalidHost
  | unknownHost
  | stated (text : String) (sources : List String := [])
  deriving DecidableEq, Repr

def IoFault.text : IoFault → String
  | notFound => "No such file or directory (os error 2)"
  | .exists => "File exists (os error 17)"
  | notDirectory => "Not a directory (os error 20)"
  | isDirectory => "Is a directory (os error 21)"
  | nameTooLong => "File name too long (os error 36)"
  | notEmpty => "Directory not empty (os error 39)"
  | zeroInPath => "file name contained an unexpected NUL byte"
  | addressInUse => "Address already in use (os error 98)"
  | networkUnreachable => "Network is unreachable (os error 101)"
  | connectionRefused => "Connection refused (os error 111)"
  | addressNotAvailable => "Cannot assign requested address (os error 99)"
  | noDevice => "No such device (os error 19)"
  | invalidArgument => "Invalid argument (os error 22)"
  | invalidHost => "failed to lookup address information: Name or service not known"
  | unknownHost =>
    "failed to lookup address information: Temporary failure in name resolution"
  | notUtf8 => "stream did not contain valid UTF-8"
  | invalidAddress => "invalid socket address"
  | invalidPort => "invalid port value"
  | stated text _ => text

def IoFault.sources : IoFault → List String
  | stated _ sources => sources
  | _ => []

/-- Failures to read or write YAML or JSON, in the words of whoever reads or writes. The readers
here do not tell what is wrong, so that of such a fault no words are shown. -/
inductive FormatFault where
  | untold
  | stated (text : String) (sources : List String := [])
  deriving DecidableEq, Repr

def FormatFault.ending : FormatFault → String
  | untold => ""
  | stated text _ => ": " ++ text

def FormatFault.causes : FormatFault → List String
  | untold => []
  | stated text sources => text :: sources

inductive ConfigFault where
  | emptyAddress
  | emptyUser
  | missingName
  | separatorInName (name : String)
  | missingDir
  | noCaches
  | unknownArgument (argument : String)
  | noAddresses
  | noCluster
  | addressOfPlayground
  | emptySchema
  | cannotBind (address : String) (fault : IoFault)
  | stated (text : String)
  deriving DecidableEq, Repr

def ConfigFault.text : ConfigFault → String
  | emptyAddress => "cluster.addresses must not contain empty entries"
  | emptyUser => "cluster.user must not be empty"
  | missingName => "snapshot.name is required"
  | separatorInName name => "snapshot.name must be a plain file name, got '" ++ name ++ "'"
  | missingDir => "snapshot.dir is required"
  | noCaches => "snapshot.caches must list at least one cache when snapshot.full is false"
  | unknownArgument argument => "unrecognized snapshot argument '" ++ argument ++ "'"
  | noAddresses => "at least one cluster address is required"
  | noCluster => "no cluster address: use --address, cluster.addresses or --playground"
  | addressOfPlayground => "--address cannot be combined with --playground"
  | emptySchema => "schema name must not be empty"
  | cannotBind address fault => "failed to bind " ++ address ++ ": " ++ fault.text
  | stated text => text

inductive Misuse where
  | outsideExecutor
  | alreadyStarted
  | restarted
  | stoppedBeforeJoining
  | sentBeforeStart
  | sentAfterStop
  | stoppedWhileWaiting
  | acknowledgedEarly (request : Nat)
  | stated (text : String)
  deriving DecidableEq, Repr

def Misuse.text : Misuse → String
  | outsideExecutor => "isolated node must be started inside a Tokio runtime"
  | alreadyStarted => "isolated node is already started"
  | restarted => "isolated node was stopped and cannot be restarted"
  | stoppedBeforeJoining => "node stopped before joining the topology"
  | sentBeforeStart => "cannot send a custom message before the node is started"
  | sentAfterStop => "cannot send a custom message after the node is stopped"
  | stoppedWhileWaiting => "instance stopped before the change was acknowledged"
  | acknowledgedEarly request =>
    "acknowledgement of " ++ toString request ++ " arrived before its request"
  | stated text => text

inductive ClientFault where
  | unreachable (attempts : List (String × IoFault))
  | connectionClosed (peer : String)
  | malformedFrame
  | oversizedFrame (limit : Nat)
  | unexpected (response : String)
  | stated (text : String)
  deriving DecidableEq, Repr

def ClientFault.text : ClientFault → String
  | unreachable attempts =>
    "unable to connect to any cluster address (" ++
      "; ".intercalate (attempts.map fun (address, fault) => address ++ ": " ++ fault.text) ++ ")"
  | connectionClosed peer => "connection closed by " ++ peer
  | malformedFrame => "malformed frame"
  | oversizedFrame limit => "frame exceeds the " ++ toString limit ++ " byte limit"
  | unexpected response => "unexpected response: " ++ response
  | stated text => text

inductive RunFault where
  | directory (dir : String)
  | naming
  | locking
  | creation
  | stated (text : String)
  deriving DecidableEq, Repr

def RunFault.text : RunFault → String
  | directory dir => "cannot create snapshot directory " ++ dir
  | naming => "cannot resolve snapshot file name"
  | locking => "cannot lock snapshot file"
  | creation => "snapshot creation failed"
  | stated text => text

end GridSchema
