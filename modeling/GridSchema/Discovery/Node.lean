import GridSchema.Data.NameMap
import GridSchema.Error

/-! A cluster of one node, which looks for no others. Its own joining and the messages sent to it go
through one queue, which one worker hands to the listener, one delivery after another. -/

namespace GridSchema

structure Member where
  id : String
  consistentId : String
  order : Nat
  attributes : NameMap String
  deriving DecidableEq, Repr

/-- What is known of a node before it starts. Identities that are missing are made up then. -/
structure NodeConfig where
  id : Option String
  consistentId : Option String
  attributes : NameMap String
  deriving DecidableEq, Repr

structure FreshIds where
  id : String
  consistentId : String

/-- Messages, some of which have an acknowledgement. -/
class Message (μ : Type) where
  /-- What is sent once a message has been handled. -/
  acknowledgement? : μ → Option μ

inductive Delivery (μ : Type) where
  | join
  | message (content : μ)
  deriving DecidableEq, Repr

/-- The life of a node. A node may be stopped without having been started. -/
inductive Phase where
  | notStarted
  | started (member : Member)
  | stopped (member : Option Member)
  deriving DecidableEq, Repr

def stepsPerTurn : Nat := 128

/-- The task that hands out deliveries: the steps that it may still take if it is being run, none if
it waits, and the delivery it is busy with, together with the listener that got it. -/
structure Worker (μ lam : Type) where
  allowance : Option Nat
  current : Option (Delivery μ × lam)

/-- A node without peers. There is a worker from the start of the node until it has ended. -/
structure IsolatedNode (μ lam : Type) where
  config : NodeConfig
  phase : Phase
  listener : Option lam
  queue : List (Delivery μ)
  worker : Option (Worker μ lam)

def topologyVersion : Nat := 1

def Phase.member? : Phase → Option Member
  | notStarted => none
  | started member => some member
  | stopped member => member

def Phase.isStarted : Phase → Bool
  | started _ => true
  | _ => false

namespace IsolatedNode

variable {μ lam : Type}

def create (config : NodeConfig) : IsolatedNode μ lam :=
  ⟨config, .notStarted, none, [], none⟩

def listen (node : IsolatedNode μ lam) (listener : lam) : IsolatedNode μ lam :=
  { node with listener := some listener }

def start (node : IsolatedNode μ lam) (insideExecutor : Bool) (fresh : FreshIds) :
    Except Error (Member × IsolatedNode μ lam) :=
  if insideExecutor then
    match node.phase with
    | .notStarted =>
      let member : Member := {
        id := node.config.id.getD fresh.id
        consistentId := node.config.consistentId.getD fresh.consistentId
        order := 1
        attributes := node.config.attributes }
      .ok (member, { node with
        phase := .started member, queue := [.join], worker := some ⟨none, none⟩ })
    | .started _ => .error (.protocolMisuse .alreadyStarted)
    | .stopped _ => .error (.protocolMisuse .restarted)
  else .error (.protocolMisuse .outsideExecutor)

def send (node : IsolatedNode μ lam) (content : μ) : Except Error (IsolatedNode μ lam) :=
  match node.phase with
  | .started _ => .ok { node with queue := node.queue ++ [.message content] }
  | .notStarted => .error (.protocolMisuse .sentBeforeStart)
  | .stopped _ => .error (.protocolMisuse .sentAfterStop)

def endWorker (node : IsolatedNode μ lam) : IsolatedNode μ lam :=
  { node with queue := [], worker := none }

/-- Stops a node. A worker that waits is ended; one that is being run goes on until it waits. -/
def stop (node : IsolatedNode μ lam) : IsolatedNode μ lam :=
  match node.phase with
  | .notStarted => { node with phase := .stopped none }
  | .stopped _ => node
  | .started member =>
    let stopped := { node with phase := .stopped (some member) }
    if node.worker.any (·.allowance.isSome) then stopped else stopped.endWorker

/-! ### Steps of the worker -/

def wake (node : IsolatedNode μ lam) : IsolatedNode μ lam :=
  { node with worker := node.worker.map fun worker =>
      { worker with allowance := some (worker.allowance.getD stepsPerTurn) } }

/-- Lets the worker wait, which ends it if the node has been stopped. -/
def pause (node : IsolatedNode μ lam) : IsolatedNode μ lam :=
  if node.phase.isStarted then
    { node with worker := node.worker.map fun worker => { worker with allowance := none } }
  else node.endWorker

/-- Whether the worker is being run and must wait before it takes another step. -/
def isSpent (node : IsolatedNode μ lam) : Bool :=
  node.worker.any (·.allowance == some 0)

/-- Counts a step of the worker, such as a listener takes when it gets what it waits for. -/
def spend? (node : IsolatedNode μ lam) : Option (IsolatedNode μ lam) :=
  match node.worker with
  | some ⟨some (allowance + 1), current⟩ =>
    some { node with worker := some ⟨some allowance, current⟩ }
  | _ => none

/-- Takes the first delivery from the queue for the listener there is, which is a step. Without a
listener the delivery is lost. -/
def take (node : IsolatedNode μ lam) : Option (Delivery μ × Option lam × IsolatedNode μ lam) :=
  match node.worker, node.queue with
  | some ⟨some (allowance + 1), none⟩, delivery :: queue =>
    let current := node.listener.map fun listener => (delivery, listener)
    some (delivery, node.listener,
      { node with queue, worker := some ⟨some allowance, current⟩ })
  | _, _ => none

def acknowledgements [Message μ] : Delivery μ → List (Delivery μ)
  | .join => []
  | .message content => ((Message.acknowledgement? content).map .message).toList

/-- Ends a delivery. What follows it goes to the end of the queue, unless the node has been
stopped. -/
def finish [Message μ] (node : IsolatedNode μ lam) : IsolatedNode μ lam :=
  match node.worker with
  | some ⟨allowance, some (delivery, _)⟩ =>
    { node with
      worker := some ⟨allowance, none⟩
      queue := if node.phase.isStarted then node.queue ++ acknowledgements delivery
        else node.queue }
  | _ => node

/-! ### What a node knows -/

def member? (node : IsolatedNode μ lam) : Option Member :=
  node.phase.member?

def find? (node : IsolatedNode μ lam) (id : String) : Option Member :=
  node.member?.filter (·.id == id)

def knows (node : IsolatedNode μ lam) (id : String) : Bool :=
  (node.find? id).isSome

def answers (node : IsolatedNode μ lam) (id : String) : Bool :=
  match node.phase with
  | .started member => member.id == id
  | _ => false

def remotes (_ : IsolatedNode μ lam) : List Member := []

/-- The version of the topology, zero before the node was started or stopped. -/
def version (node : IsolatedNode μ lam) : Nat :=
  match node.phase with
  | .notStarted => 0
  | _ => topologyVersion

end IsolatedNode

end GridSchema
