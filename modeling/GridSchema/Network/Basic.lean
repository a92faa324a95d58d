import GridSchema.Instance.Basic
import GridSchema.Instance.Config

/-! The instances of a machine, and the connections to them. -/

namespace GridSchema

/-- Instances by number, in the order in which they were started, and the grids of nodes that were
started but never became instances. Without addresses no connection finds a way on the machine. -/
structure Network where
  addressed : Bool
  instances : List Instance
  abandoned : List Grid

structure Connection where
  instanceNumber : Nat
  isOpen : Bool
  deriving DecidableEq, Repr

/-- Whether what is accepted at one endpoint is what is sent to another. -/
def Endpoint.meets (a b : Endpoint) : Bool :=
  a.port == b.port &&
    (a.host.plain == b.host.plain || a.host.isUnspecified || b.host.isUnspecified)

def InstanceConfig.cannotBind (config : InstanceConfig) (fault : IoFault) : Error :=
  .config (.cannotBind (config.host ++ ":" ++ toString config.port) fault)

def FreshIds.ofNumber (number : Nat) : FreshIds :=
  ⟨toString number, toString number⟩

namespace Network

def empty (addressed : Bool) : Network := ⟨addressed, [], []⟩

def instance? (network : Network) (number : Nat) : Option Instance :=
  network.instances[number]?

def put (network : Network) (number : Nat) (i : Instance) : Network :=
  { network with instances := network.instances.set number i }

def close (network : Network) (number : Nat) : Network :=
  { network with instances := network.instances.modify number Instance.close }

def accepting? (network : Network) (endpoint : Endpoint) : Option Nat :=
  network.instances.findIdx? fun i => i.isOpen && i.endpoint.meets endpoint

/-! ### Starting instances -/

/-- The first of the ports given out to those who want any. -/
def firstFreePort : Nat := 32768

def freePorts : Nat := 28232

/-- The endpoint for a host and a port, or for any free port if that is zero. -/
def bind (network : Network) (config : InstanceConfig) : Except IoFault Endpoint := do
  let host ← Host.lookup config.host
  if let some fault := host.bindFault? network.addressed then throw fault
  let host := host.withoutInterface
  let candidates :=
    if config.port = 0 then (List.range freePorts).map (firstFreePort + ·) else [config.port]
  let free := (candidates.map fun port => (⟨host, UInt16.ofNat port⟩ : Endpoint)).find?
    fun endpoint => (network.accepting? endpoint).isNone
  match free with
  | some endpoint => return endpoint
  | none => throw .addressInUse

def start (network : Network) (config : InstanceConfig) : Except Error Nat × Network :=
  let nodes := network.instances.length + network.abandoned.length
  match Instance.start ((network.bind config).mapError config.cannotBind) (.ofNumber nodes) with
  | (.ok i, _) =>
    (.ok network.instances.length, { network with instances := network.instances ++ [i] })
  | (.error e, grid) => (.error e, { network with abandoned := network.abandoned ++ grid.toList })

def change (network : Network) (number : Nat) (change : CacheChange) :
    Except Error Unit × Network :=
  match network.instance? number with
  | none => (.error (.protocolMisuse .sentBeforeStart), network)
  | some i =>
    let (outcome, i) := i.change change
    (outcome, network.put number i)

/-! ### Connections -/

def connect (network : Network) (address : String) : Except IoFault (Endpoint × Connection) := do
  let endpoint ← Endpoint.resolve address
  if let some fault := endpoint.host.connectFault? network.addressed then throw fault
  match network.accepting? endpoint with
  | some number => return (endpoint, ⟨number, true⟩)
  | none => throw .connectionRefused

/-- Sends bytes over a connection and returns what comes back. Nothing does once either end has
closed. -/
def exchange (bytes : Bytes) (connection : Connection) (network : Network) :
    Bytes × Connection × Network :=
  match network.instance? connection.instanceNumber with
  | some i =>
    if connection.isOpen && i.isOpen then
      let served := i.grid.serve bytes
      (served.answers, { connection with isOpen := served.isOpen },
        network.put connection.instanceNumber { i with grid := served.grid })
    else ([], { connection with isOpen := false }, network)
  | none => ([], { connection with isOpen := false }, network)

end Network

end GridSchema
