import GridSchema.Command.Run
import Std.Async.DNS
import Std.Async.Signal
import Std.Async.TCP
import Std.Time.DateTime.Timestamp

/-! The program: it reads files, talks over the network and prints. What it does with what it reads
is decided elsewhere. -/

open GridSchema Command Std.Async

namespace GridSchema.Program

def usage : String :=
  "\n".intercalate [
    "Usage: schema-snapshot [--config FILE] [--output-json] COMMAND",
    "",
    "snapshot, ss  Write a schema snapshot of a cluster",
    "              [--address HOST:PORT]... [--dir DIR] [--name NAME] [--unsafe-type] [--full]",
    "              [--cache NAME]... [--playground SEED] [-- RAW...]",
    "serve         Run an instance until it is interrupted",
    "              [--host HOST] [--port PORT] [--seed SEED]"]

def faultOf (e : IO.Error) : IoFault := .stated (toString e)

def attempt (action : IO α) : IO (Except IoFault α) := do
  match ← action.toBaseIO with
  | .ok value => return .ok value
  | .error e => return .error (faultOf e)

def fail (e : Error) : IO UInt32 := do
  IO.eprintln e.detailed
  return UInt32.ofNat e.exitCode

/-! ### Files -/

def loadFile (disk : Disk) (path : String) : IO Disk := do
  match ← attempt (IO.FS.readBinFile path) with
  | .ok bytes => return (disk.writeFile path bytes.toList).toOption.getD disk
  | .error _ => return if ← (← IO.currentDir) / path |>.isDir then (disk.makeDirs path).2 else disk

def loadNames (disk : Disk) (dir : String) : IO Disk := do
  match ← attempt ((← IO.currentDir) / dir).readDir with
  | .error _ => return disk
  | .ok entries =>
    return entries.foldl (fun disk entry =>
      (disk.writeFile (Path.join dir entry.fileName) []).toOption.getD disk) (disk.makeDirs dir).2

def makeDirs (dir : String) : IO (Except Error Unit) := do
  match ← attempt (IO.FS.createDirAll dir) with
  | .ok () => return .ok ()
  | .error fault => return .error (.snapshotOperation (.directory dir) (.io fault))

def writeNew (path : String) (contents : Bytes) : IO (Except Error Unit) := do
  match ← (IO.FS.Handle.mk path .writeNew).toBaseIO with
  | .error (.alreadyExists ..) => return .error (.snapshotOperation .locking (.lockContention path))
  | .error e => return .error (.snapshotOperation .locking (.io (faultOf e)))
  | .ok handle =>
    if ← handle.tryLock then
      handle.write contents.toByteArray
      handle.flush
      return .ok ()
    else return .error (.snapshotOperation .locking (.lockContention path))

/-! ### Connections -/

def socketAddress (endpoint : Endpoint) : Option Std.Net.SocketAddress :=
  match endpoint.host with
  | .v4 _ => (Std.Net.IPv4Addr.ofString endpoint.host.text).map (.v4 ⟨·, endpoint.port⟩)
  | .v6 .. => (Std.Net.IPv6Addr.ofString endpoint.host.text).map (.v6 ⟨·, endpoint.port⟩)

def endpointOf : Std.Net.SocketAddress → Option Endpoint
  | .v4 address => (Host.parse4? address.addr.toString.toList).map (⟨·, address.port⟩)
  | .v6 address => (Host.parseScoped? true address.addr.toString.toList).map (⟨·, address.port⟩)

/-- The host of a name, which others are asked for if it is not known here. -/
def lookup (name : String) : IO (Except IoFault Host) := do
  match Host.lookup name with
  | .error .unknownHost =>
    match ← attempt (DNS.getAddrInfo name "").block with
    | .error fault => return .error fault
    | .ok found =>
      let hosts := found.toList.filterMap fun
        | .v4 address => Host.parse4? address.toString.toList
        | .v6 address => Host.parseScoped? true address.toString.toList
      return match hosts with
        | host :: _ => .ok host
        | [] => .error .unknownHost
  | answer => return answer

def resolve (address : String) : IO (Except IoFault Endpoint) := do
  match Endpoint.resolve address, Text.splitLast? ':' address.toList with
  | .error .unknownHost, some (name, digits) =>
    match ← lookup (String.ofList name), Endpoint.port? digits with
    | .ok host, some port => return .ok ⟨host, port⟩
    | .error fault, _ => return .error fault
    | _, none => return .error .invalidPort
  | answer, _ => return answer

def dial (address : String) : IO (Except IoFault (Endpoint × TCP.Socket.Client)) := do
  match ← resolve address with
  | .error fault => return .error fault
  | .ok endpoint =>
    match socketAddress endpoint with
    | none => return .error .invalidAddress
    | some target =>
      attempt do
        let socket ← TCP.Socket.Client.mk
        (socket.connect target).block
        return (endpoint, socket)

def dialFirst (attempts : List (String × IoFault)) :
    List String → IO (Except Error (Endpoint × TCP.Socket.Client))
  | [] => return .error (.client (.unreachable attempts.reverse))
  | address :: rest => do
    match ← dial address with
    | .ok connected => return .ok connected
    | .error fault => dialFirst ((address, fault) :: attempts) rest

def receiveSize : UInt64 := 65536

/-- Receives up to a newline, the end of the stream or more than a frame may have. `parts` holds
what came before, latest first. -/
partial def receiveLine (socket : TCP.Socket.Client) (parts : List Bytes) (size : Nat) :
    IO Bytes := do
  match ← (socket.recv? receiveSize).block with
  | none => return parts.reverse.flatten
  | some bytes =>
    let parts := bytes.toList :: parts
    let size := size + bytes.size
    if bytes.toList.contains Wire.newline || size > Wire.maxFrame then return parts.reverse.flatten
    else receiveLine socket parts size

/-- The other end of a connection over which `bytes` have come. -/
def arrived (bytes : Bytes) : Peer Unit Unit := ⟨fun _ _ _ => (bytes, (), ())⟩

def call (socket : TCP.Socket.Client) (client : ThinClient Unit) (request : Request)
    (f : Peer Unit Unit → ThinClient Unit × Unit → Except Error α × ThinClient Unit × Unit) :
    IO (Except Error α × ThinClient Unit) := do
  match ← attempt do
      (socket.send (Wire.frame request.toJson).toByteArray).block
      receiveLine socket [] 0 with
  | .error fault => return (.error (.io fault), client)
  | .ok bytes =>
    let (outcome, client, _) := f (arrived bytes) (client, ())
    return (outcome, client)

def askDefinitions (socket : TCP.Socket.Client) (client : ThinClient Unit) :
    List String → IO (List (String × Except Error CacheDefinition))
  | [] => return []
  | name :: names => do
    let (definition, client) ← call socket client (.cacheConfiguration name)
      (ThinClient.definition · name)
    return (name, definition) :: (← askDefinitions socket client names)

def askAnswers (socket : TCP.Socket.Client) (client : ThinClient Unit) (selection : Selection) :
    IO FixedAnswers := do
  let (names, client) ← match selection with
    | .all => call socket client .cacheNames ThinClient.names
    | .only names => pure (.ok names, client)
  let definitions ← askDefinitions socket client (names.toOption.getD [])
  return ⟨names, fun name => (definitions.lookup name).getD (.error (.cacheNotFound name))⟩

/-! ### Snapshots -/

def now : IO Moment := do
  let time := (← Std.Time.Timestamp.now).toDurationSinceUnixEpoch
  return ⟨time.second.val, time.nano.val.toNat⟩

def snapshotRemote (config : Config) (disk : Disk) : IO (Except Error Report × Disk) := do
  match ← dialFirst [] config.cluster.addresses with
  | .error e => return (.error e, disk)
  | .ok (endpoint, socket) =>
    let options := config.snapshot
    let client := ThinClient.connected endpoint config.cluster.client.user ()
    let answers ← askAnswers socket client options.selection
    let (report, disk, _) := Snapshot.run (answers.catalog (Disk × Unit)) options.degrade
      (.ofOptions options) (disk, ())
    return (report, disk)

def takeSnapshot (command : SnapshotCommand) (config : Config) (disk : Disk) :
    IO (Except Error Report) := do
  let disk ← loadNames disk config.snapshot.dir
  let (outcome, disk) ← match command.playground with
    | some path =>
      let (report, disk, _) := snapshotPlayground config path (disk, .empty true)
      pure (report, disk)
    | none =>
      if config.cluster.addresses.isEmpty then pure (.error (.config .noCluster), disk)
      else snapshotRemote config disk
  match outcome with
  | .error e => return .error e
  | .ok report =>
    match ← makeDirs config.snapshot.dir, disk.lookup report.path with
    | .error e, _ => return .error e
    | .ok _, .ok (_, .file number) =>
      return (← writeNew report.path (disk.contents number)).map fun _ => report
    | .ok _, _ => return .error (.io .notFound)

def runSnapshot (command : SnapshotCommand) (config : Config) (asJson : Bool) (disk : Disk) :
    IO UInt32 := do
  match command.configure config with
  | .error e => fail e
  | .ok config =>
    let started ← now
    match ← takeSnapshot command config disk with
    | .error e => fail e
    | .ok report =>
      let span : Span := ⟨started, ← now⟩
      if asJson then IO.println ((report.toJson span).renderIndented 0)
      else (reportLines report span.durationText).forM IO.println
      return 0

/-! ### Instances -/

/-- Answers what comes over a connection until it ends. `unread` is the start of a frame. -/
partial def serveConnection (network : IO.Ref Network) (socket : TCP.Socket.Client)
    (connection : Connection) (unread : Bytes) : Async Unit := do
  let received ← socket.recv? receiveSize
  let bytes := unread ++ (received.map ByteArray.toList).getD []
  let isWhole := received.isNone || bytes.contains Wire.newline || bytes.length > Wire.maxFrame
  if !isWhole then serveConnection network socket connection bytes
  else
    let tail := (bytes.reverse.takeWhile (· != Wire.newline)).reverse
    let held := if received.isNone then [] else tail
    let held := if held.length > Wire.maxFrame then [] else held
    let ready := bytes.take (bytes.length - held.length)
    let (answers, connection) ← network.modifyGet fun network =>
      let (answers, connection, network) := network.exchange ready connection
      ((answers, connection), network)
    unless answers.isEmpty do socket.send answers.toByteArray
    if received.isSome && connection.isOpen then serveConnection network socket connection held
    else socket.shutdown

partial def acceptAll (server : TCP.Socket.Server) (network : IO.Ref Network) (number : Nat) :
    Async Unit := do
  let socket ← server.accept
  background (serveConnection network socket ⟨number, true⟩ [])
  acceptAll server network number

/-- Waits for a signal that ends the program and returns its name. -/
def interruption : IO String := do
  let interrupt ← (← Signal.Waiter.mk .sigint false).wait
  let terminate ← (← Signal.Waiter.mk .sigterm false).wait
  IO.waitAny [Task.map (fun _ => "SIGINT") interrupt, Task.map (fun _ => "SIGTERM") terminate]

def listen (config : InstanceConfig) : IO (Except IoFault (TCP.Socket.Server × Endpoint)) := do
  match ← lookup config.host with
  | .error fault => return .error fault
  | .ok host =>
    match socketAddress ⟨host, UInt16.ofNat config.port⟩ with
    | none => return .error .invalidAddress
    | some address =>
      attempt do
        let server ← TCP.Socket.Server.mk
        server.bind address
        server.listen 1024
        return (server, (endpointOf (← server.getSockName)).getD ⟨host, UInt16.ofNat config.port⟩)

def runInstance (command : ServeCommand) (disk : Disk) : IO UInt32 := do
  match ← listen command.config with
  | .error fault =>
    let address := command.config.host ++ ":" ++ toString command.config.port
    fail (.config (.cannotBind address fault))
  | .ok (server, endpoint) =>
    let command := { command with config := ⟨defaultHost, endpoint.port.toNat⟩ }
    match command.run (disk, .empty true) with
    | (.error e, _) => fail e
    | (.ok number, _, deployment) =>
      let network ← IO.mkRef deployment.network
      IO.println (listeningLine endpoint)
      (← IO.getStdout).flush
      (background (acceptAll server network number)).block
      IO.eprintln ("\n" ++ signalLine (← interruption))
      return 0

end GridSchema.Program

open GridSchema.Program in
def main (arguments : List String) : IO UInt32 := do
  match Invocation.parse arguments with
  | .error .help =>
    IO.println usage
    return 0
  | .error .version =>
    IO.println versionText
    return 0
  | .error .misuse =>
    IO.eprintln usage
    return 2
  | .ok invocation =>
    let disk ← (invocation.configPath.toList).foldlM loadFile (Disk.empty ["work"])
    match invocation.config disk, invocation.action with
    | .error e, _ => fail e
    | .ok config, .snapshot command =>
      let disk ← command.playground.toList.foldlM loadFile disk
      runSnapshot command config invocation.asJson disk
    | .ok _, .serve command =>
      runInstance command (← command.seed.toList.foldlM loadFile disk)
