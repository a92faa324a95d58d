import GridSchema.Network.Client

/-! The instances of a machine together with the clients that were connected to them. -/

namespace GridSchema

/-- Instances, and clients by number in the order in which they were connected. -/
structure Deployment where
  network : Network
  clients : List (ThinClient Connection)

namespace Deployment

def empty (addressed : Bool) : Deployment := ⟨.empty addressed, []⟩

def client? (deployment : Deployment) (number : Nat) : Option (ThinClient Connection) :=
  deployment.clients[number]?

def start (deployment : Deployment) (config : InstanceConfig) : Except Error Nat × Deployment :=
  let (outcome, network) := deployment.network.start config
  (outcome, { deployment with network })

def closeInstance (deployment : Deployment) (number : Nat) : Deployment :=
  { deployment with network := deployment.network.close number }

def connect (deployment : Deployment) (config : ClientConfig) : Except Error Nat × Deployment :=
  match config.connect deployment.network with
  | .ok client =>
    (.ok deployment.clients.length, { deployment with clients := deployment.clients ++ [client] })
  | .error e => (.error e, deployment)

def closeClient (deployment : Deployment) (number : Nat) : Deployment :=
  { deployment with clients := deployment.clients.modify number ThinClient.close }

/-- Makes a call on a client. One that was never connected is closed. -/
def call (number : Nat)
    (f : ThinClient Connection × Network → Except Error α × ThinClient Connection × Network)
    (deployment : Deployment) : Except Error α × Deployment :=
  match deployment.client? number with
  | none => (.error .clientClosed, deployment)
  | some client =>
    let (outcome, client, network) := f (client, deployment.network)
    (outcome, ⟨network, deployment.clients.set number client⟩)

def catalog (number : Nat) : Catalog Deployment where
  names := call number (ThinClient.names Network.peer)
  definition name := call number (ThinClient.definition Network.peer name)

end Deployment

end GridSchema
