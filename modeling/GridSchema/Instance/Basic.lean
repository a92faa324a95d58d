import GridSchema.Instance.Connection
import GridSchema.Network.Endpoint

/-! Instances: a cluster of one node that clients can connect to. -/

namespace GridSchema

/-- An instance: its node's member and grid, where it accepts connections, and whether it still
does. -/
structure Instance where
  member : Member
  grid : Grid
  endpoint : Endpoint
  isOpen : Bool

namespace Instance

/-- Starts a node, waits until it has joined, and opens the way to it where it was bound. If there
is no way, the node is stopped, and its grid is all that is left. -/
def start (bound : Except Error Endpoint) (fresh : FreshIds) :
    Except Error Instance × Option Grid :=
  match Grid.start fresh with
  | .error e => (.error e, none)
  | .ok (member, grid) =>
    let grid := grid.settle
    if grid.registrar.joined then
      match bound with
      | .ok endpoint => (.ok ⟨member, grid, endpoint, true⟩, none)
      | .error e => (.error e, some grid.stop)
    else (.error (.protocolMisuse .stoppedBeforeJoining), some grid.stop)

def names (i : Instance) : List String :=
  i.grid.names

def change (i : Instance) (change : CacheChange) : Except Error Unit × Instance :=
  let (outcome, grid) := i.grid.submit change
  (outcome, { i with grid })

/-- Accepts no more connections, ends those there are and stops the node. -/
def close (i : Instance) : Instance :=
  if i.isOpen then { i with grid := i.grid.stop, isOpen := false } else i

def closeDuring (i : Instance) (change : CacheChange) : Except Error Unit × Instance :=
  let (outcome, grid) := i.grid.submitDuring change Grid.stop
  (outcome, { i with grid, isOpen := false })

end Instance

end GridSchema
