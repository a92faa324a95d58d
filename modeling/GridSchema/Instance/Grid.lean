import GridSchema.Discovery.Drain
import GridSchema.Instance.Change
import GridSchema.Wire.Message

/-! A node with a registry of caches. Callers enter a change, send the request for it and wait. The
registrar listens to the node: it applies the change of a request when that is delivered, and
releases the caller when the acknowledgement is. -/

namespace GridSchema

/-- The listener that owns the registry. It knows the changes that callers wait for, with the
outcome of those that it has applied, the outcomes that callers were released with and have not
collected, and whether its node has joined. -/
structure Registrar where
  registry : Registry
  pending : List (Nat × Option (Except Error Unit))
  released : List (Nat × Except Error Unit)
  joined : Bool

namespace Registrar

def empty : Registrar := ⟨∅, [], [], false⟩

def note (id : Nat) (outcome : Except Error Unit) (registrar : Registrar) : Registrar :=
  { registrar with
    pending := registrar.pending.map fun entry =>
      if entry.1 = id then (id, some outcome) else entry }

def forget (id : Nat) (registrar : Registrar) : Registrar :=
  { registrar with pending := registrar.pending.filter (·.1 != id) }

def release (id : Nat) (registrar : Registrar) : Registrar :=
  match registrar.pending.lookup id with
  | none => registrar
  | some outcome =>
    let outcome := outcome.getD (.error (.protocolMisuse (.acknowledgedEarly id)))
    { registrar.forget id with released := registrar.released ++ [(id, outcome)] }

def handle (registrar : Registrar) : Delivery ChangeMessage → Registrar
  | .join => { registrar with joined := true }
  | .message (.request id change) =>
    let (outcome, registry) := registrar.registry.apply change
    { registrar with registry }.note id outcome
  | .message (.acknowledgement id) => registrar.release id

/-- The registrar as a listener, which never waits. -/
def behaviour : Behaviour ChangeMessage Unit Registrar where
  handle _ delivery world := (true, world.1.handle delivery, world.2)
  resume _ _ world := (true, world)

end Registrar

/-- A node, its registrar and the number of the next request. -/
structure Grid where
  node : IsolatedNode ChangeMessage Unit
  registrar : Registrar
  nextRequest : Nat

namespace Grid

/-- A grid whose node has been started and has not joined yet. -/
def start (fresh : FreshIds) : Except Error (Member × Grid) := do
  let node : IsolatedNode ChangeMessage Unit := .create ⟨none, none, ∅⟩
  let (member, node) ← (node.listen ()).start true fresh
  return (member, ⟨node, .empty, 0⟩)

def names (grid : Grid) : List String :=
  grid.registrar.registry.names

def definition (grid : Grid) (name : String) : Except Error CacheDefinition :=
  grid.registrar.registry.definition name

/-! ### Steps of a caller -/

def enter (grid : Grid) : Nat × Grid :=
  let id := grid.nextRequest
  let registrar := { grid.registrar with pending := grid.registrar.pending ++ [(id, none)] }
  (id, { grid with registrar, nextRequest := id + 1 })

/-- Sends the request for a change that was entered. If it is refused nobody waits for it any
longer. -/
def request (grid : Grid) (id : Nat) (change : CacheChange) : Except Error Unit × Grid :=
  match grid.node.send (.request id change) with
  | .ok node => (.ok (), { grid with node })
  | .error e => (.error e, { grid with registrar := grid.registrar.forget id })

/-- The outcome of a change whose request was sent, if its caller need not wait any longer. A caller
that is neither released nor waited for was dropped when the instance stopped. -/
def collect (grid : Grid) (id : Nat) : Option (Except Error Unit) × Grid :=
  let registrar := grid.registrar
  match registrar.released.lookup id with
  | some outcome =>
    (some outcome,
      { grid with registrar := { registrar with
          released := registrar.released.filter (·.1 != id) } })
  | none =>
    if (registrar.pending.lookup id).isSome then (none, grid)
    else (some (.error (.protocolMisuse .stoppedWhileWaiting)), grid)

/-! ### Steps of the node -/

def deliver (grid : Grid) (limit : Nat) : Grid :=
  let (registrar, node) :=
    IsolatedNode.drain Registrar.behaviour limit (grid.registrar, grid.node)
  { grid with registrar, node }

/-- Runs the worker until the queue is empty. Each delivery adds at most one. -/
def settle (grid : Grid) : Grid :=
  grid.deliver (2 * grid.node.queue.length + 1)

def stopNode (grid : Grid) : Grid :=
  { grid with node := grid.node.stop }

def dropCallers (grid : Grid) : Grid :=
  { grid with registrar := { grid.registrar with pending := [] } }

def stop (grid : Grid) : Grid :=
  grid.stopNode.dropCallers

/-! ### Whole calls -/

/-- Makes a change: enters it, sends the request and collects the outcome once all has been
delivered. `meanwhile` takes place before that. -/
def submitDuring (grid : Grid) (change : CacheChange) (meanwhile : Grid → Grid) :
    Except Error Unit × Grid :=
  let (id, grid) := grid.enter
  match grid.request id change with
  | (.error e, grid) => (.error e, grid)
  | (.ok _, grid) =>
    let (outcome, grid) := (meanwhile grid).settle.collect id
    (outcome.getD (.error (.protocolMisuse .stoppedWhileWaiting)), grid)

def submit (grid : Grid) (change : CacheChange) : Except Error Unit × Grid :=
  grid.submitDuring change id

def respond (grid : Grid) : Request → Response × Grid
  | .cacheNames => (.cacheNames grid.names, grid)
  | .cacheConfiguration name => (.ofOutcome .cacheConfiguration (grid.definition name), grid)
  | .createCache cache =>
    let (outcome, grid) := grid.submit (.create cache)
    (.ofOutcome (fun _ => .done) outcome, grid)
  | .destroyCache name =>
    let (outcome, grid) := grid.submit (.destroy name)
    (.ofOutcome (fun _ => .done) outcome, grid)

end Grid

end GridSchema
