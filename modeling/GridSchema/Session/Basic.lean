import GridSchema.Network.Deployment

/-! Sessions: an instance of one's own and a client that is connected to it, for as long as they are
needed. -/

namespace GridSchema

structure OpenSession where
  instanceNumber : Nat
  clientNumber : Nat
  deriving DecidableEq, Repr

/-- A session: where its instances accept connections, the user its clients are, and the numbers of
the instance and of the client that it has. -/
structure Session where
  config : InstanceConfig
  user : String
  instanceNumber : Option Nat
  clientNumber : Option Nat
  deriving DecidableEq, Repr

namespace Session

def new (user : String) : Session :=
  ⟨⟨defaultHost, 0⟩, user, none, none⟩

def isOpen (session : Session) : Bool :=
  session.clientNumber.isSome

def closeClient (session : Session) (deployment : Deployment) : Session × Deployment :=
  match session.clientNumber with
  | some number => ({ session with clientNumber := none }, deployment.closeClient number)
  | none => (session, deployment)

def closeInstance (session : Session) (deployment : Deployment) : Session × Deployment :=
  match session.instanceNumber with
  | some number => ({ session with instanceNumber := none }, deployment.closeInstance number)
  | none => (session, deployment)

/-- Gives up a session: its instance is closed, and its client is left to find that out. -/
def drop (session : Session) (deployment : Deployment) : Deployment :=
  (session.closeInstance deployment).2

def close (session : Session) (deployment : Deployment) : Session × Deployment :=
  let (session, deployment) := session.closeClient deployment
  session.closeInstance deployment

/-- Starts an instance and connects a client to it. An instance that cannot be reached is closed. -/
def launch (session : Session) (deployment : Deployment) :
    Except Error OpenSession × Deployment :=
  match deployment.start session.config with
  | (.error e, deployment) => (.error e, deployment)
  | (.ok number, deployment) =>
    let addresses := ((deployment.network.instance? number).map (·.endpoint.text)).toList
    match deployment.connect ⟨addresses, session.user⟩ with
    | (.ok client, deployment) => (.ok ⟨number, client⟩, deployment)
    | (.error e, deployment) => (.error e, deployment.closeInstance number)

/-- Opens a session that has no client, and returns the number of its client. An instance in whose
place the new one comes is closed. -/
def ensureOpen (session : Session) (deployment : Deployment) :
    Except Error Nat × Session × Deployment :=
  match session.clientNumber with
  | some client => (.ok client, session, deployment)
  | none =>
    match session.launch deployment with
    | (.ok launched, deployment) =>
      (.ok launched.clientNumber,
        { session with
          instanceNumber := launched.instanceNumber, clientNumber := launched.clientNumber },
        session.drop deployment)
    | (.error e, deployment) => (.error e, session, deployment)

/-- Creates caches one after another, up to the first that cannot be created. -/
def createAll (client : Nat) : List CacheDefinition → Deployment → Except Error Unit × Deployment
  | [], deployment => (.ok (), deployment)
  | cache :: caches, deployment =>
    match deployment.call client (ThinClient.create Network.peer cache) with
    | (.error e, deployment) => (.error e, deployment)
    | (.ok _, deployment) => createAll client caches deployment

def seed (session : Session) (caches : List CacheDefinition) (deployment : Deployment) :
    Except Error Unit × Session × Deployment :=
  match session.ensureOpen deployment with
  | (.error e, session, deployment) => (.error e, session, deployment)
  | (.ok client, session, deployment) =>
    let (outcome, deployment) := createAll client caches deployment
    (outcome, session, deployment)

end Session

end GridSchema
