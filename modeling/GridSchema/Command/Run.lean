import GridSchema.Command.Invocation
import GridSchema.Options.Argument
import GridSchema.Options.Load
import GridSchema.Session.Basic
import GridSchema.Snapshot.Run

/-! What the program does in a world of a disk, instances and clients. -/

namespace GridSchema.Command

abbrev World := Disk × Deployment

/-- What the program ends with, or waits with: the report of a snapshot, or the number of an
instance that runs until it is interrupted. -/
inductive Outcome where
  | reported (report : Report)
  | listening (number : Nat)
  deriving DecidableEq, Repr

namespace SnapshotCommand

/-- Options with those that the command names in the place of the configured ones. Naming caches
switches the full selection off, unless that is asked for too. -/
def override (command : SnapshotCommand) (options : SnapshotOptions) : SnapshotOptions where
  dir := command.dir.getD options.dir
  name := command.name.getD options.name
  degrade := options.degrade || command.degrade
  full := command.full || (options.full && command.caches.isEmpty)
  caches := if command.caches.isEmpty then options.caches else command.caches

def configure (command : SnapshotCommand) (config : Config) : Except Error Config := do
  refuseIf (command.playground.isSome && !command.addresses.isEmpty) .addressOfPlayground
  let (options, outcome) := (command.override config.snapshot).applyArguments command.raw
  outcome
  let addresses :=
    if command.addresses.isEmpty then config.cluster.addresses else command.addresses
  let config : Config := ⟨{ config.cluster with addresses }, options⟩
  config.validate
  return config

end SnapshotCommand

def snapshotThrough (options : SnapshotOptions) (client : Nat) (world : World) :
    Except Error Report × World :=
  Snapshot.run ((Deployment.catalog client).beside Disk) options.degrade (.ofOptions options) world

def snapshotCluster (config : Config) (world : World) : Except Error Report × World :=
  if config.cluster.addresses.isEmpty then (.error (.config .noCluster), world)
  else
    match world.2.connect config.cluster.client with
    | (.error e, deployment) => (.error e, world.1, deployment)
    | (.ok client, deployment) =>
      let (report, disk, deployment) :=
        snapshotThrough config.snapshot client (world.1, deployment)
      (report, disk, deployment.closeClient client)

def snapshotSession (options : SnapshotOptions) (caches : List CacheDefinition)
    (session : Session) (world : World) : Except Error Report × Session × World :=
  match session.seed caches world.2 with
  | (.error e, session, deployment) => (.error e, session, world.1, deployment)
  | (.ok _, session, deployment) =>
    match session.ensureOpen deployment with
    | (.error e, session, deployment) => (.error e, session, world.1, deployment)
    | (.ok client, session, deployment) =>
      let (report, world) := snapshotThrough options client (world.1, deployment)
      (report, session, world)

def snapshotPlayground (config : Config) (path : String) (world : World) :
    Except Error Report × World :=
  match Seed.load world.1 path with
  | .error e => (.error e, world)
  | .ok seed =>
    let session := Session.new config.cluster.client.user
    let (report, session, disk, deployment) :=
      snapshotSession config.snapshot seed.caches session world
    let (_, deployment) := session.close deployment
    (report, disk, deployment)

/-- Takes a snapshot. Nothing is touched unless the configuration is accepted. -/
def SnapshotCommand.run (command : SnapshotCommand) (config : Config) (world : World) :
    Except Error Report × World :=
  match command.configure config with
  | .error e => (.error e, world)
  | .ok config =>
    match command.playground with
    | some path => snapshotPlayground config path world
    | none => snapshotCluster config world

/-- Creates caches in an instance one after another, up to the first that cannot be created. -/
def fill (number : Nat) : List CacheDefinition → Network → Except Error Unit × Network
  | [], network => (.ok (), network)
  | cache :: caches, network =>
    match network.change number (.create cache) with
    | (.error e, network) => (.error e, network)
    | (.ok _, network) => fill number caches network

def plant (path : String) (number : Nat) (world : World) : Except Error Unit × World :=
  match Seed.load world.1 path with
  | .error e => (.error e, world)
  | .ok seed =>
    let (outcome, network) := fill number seed.caches world.2.network
    (outcome, world.1, { world.2 with network })

/-- Starts an instance and gives it the caches of the seed. If that fails the instance is closed. -/
def ServeCommand.run (command : ServeCommand) (world : World) : Except Error Nat × World :=
  match world.2.start command.config with
  | (.error e, deployment) => (.error e, world.1, deployment)
  | (.ok number, deployment) =>
    match command.seed with
    | none => (.ok number, world.1, deployment)
    | some path =>
      match plant path number (world.1, deployment) with
      | (.error e, disk, deployment) => (.error e, disk, deployment.closeInstance number)
      | (.ok _, world) => (.ok number, world)

namespace Invocation

def config (invocation : Invocation) (disk : Disk) : Except Error Config :=
  match invocation.configPath with
  | some path => Config.load disk path
  | none => .ok ⟨⟨[], none⟩, .default⟩

def run (invocation : Invocation) (world : World) : Except Error Outcome × World :=
  match invocation.config world.1 with
  | .error e => (.error e, world)
  | .ok config =>
    match invocation.action with
    | .snapshot command =>
      let (report, world) := command.run config world
      (report.map .reported, world)
    | .serve command =>
      let (number, world) := command.run world
      (number.map .listening, world)

end Invocation

def reportLines (report : Report) (duration : String) : List String :=
  ["Snapshot written: " ++ report.path,
    "  Dumped caches:  " ++ toString report.dumped.length,
    "  Skipped caches: " ++ toString report.skipped.length] ++
  report.skipped.map (fun cache => "    - " ++ cache.name ++ ": " ++ cache.reason) ++
  report.warnings.map (fun warning =>
    "  Warning: " ++ warning.table ++ "." ++ warning.column ++ " (" ++ warning.className ++
      ") was written as OBJECT") ++
  ["  SHA-256: " ++ report.sha256, "  Duration: " ++ duration]

def listeningLine (endpoint : Endpoint) : String :=
  "Listening on " ++ endpoint.text

def signalLine (signal : String) : String :=
  "Received " ++ signal ++ ". Shutting down..."

end GridSchema.Command
