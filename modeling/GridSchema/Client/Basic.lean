import GridSchema.Catalog.Schema
import GridSchema.Network.Endpoint
import GridSchema.Wire.Describe
import GridSchema.Wire.Frame

/-! Thin clients. A client sends one request at a time over its connection and takes the next frame
that comes back for the answer. -/

namespace GridSchema

/-- What is at the other end of a connection: bytes sent to it come with the state of that end and
of the world around it, and it sends bytes back. When those have been read the connection has ended,
as far as the client can tell. -/
structure Peer (κ ω : Type) where
  exchange : Bytes → κ → ω → Bytes × κ × ω

/-- A connection: the bytes that came and were not read, and the state of the other end. -/
structure Link (κ : Type) where
  unread : Bytes
  remote : κ

/-- A client: its connection until that is closed, whom it is connected to, the user it is and the
schema it looks tables up in. -/
structure ThinClient (κ : Type) where
  link : Option (Link κ)
  endpoint : Endpoint
  user : String
  schema : String

def Response.outcome : Response → Except Error Response
  | .failure kind message => .error (kind.error message)
  | response => .ok response

def Response.unexpected (response : Response) : Error :=
  .client (.unexpected response.describe)

namespace ThinClient

variable {κ ω : Type}

def connected (endpoint : Endpoint) (user : String) (remote : κ) : ThinClient κ :=
  ⟨some ⟨[], remote⟩, endpoint, user, defaultSchema⟩

def isClosed (client : ThinClient κ) : Bool :=
  client.link.isNone

def close (client : ThinClient κ) : ThinClient κ :=
  { client with link := none }

/-- Sends a request and reads the next frame. A frame that cannot be read leaves the connection as
it is; the end of the stream closes it. -/
def request (peer : Peer κ ω) (request : Request) (world : ThinClient κ × ω) :
    Except Error Response × ThinClient κ × ω :=
  let (client, rest) := world
  match client.link with
  | none => (.error .clientClosed, client, rest)
  | some link =>
    let (bytes, remote, rest) := peer.exchange (Wire.frame request.toJson) link.remote rest
    let (frame, unread) := Wire.readFrame Wire.maxFrame Response.ofJson? (link.unread ++ bytes)
    let reading := { client with link := some ⟨unread, remote⟩ }
    match frame with
    | .message response => (response.outcome, reading, rest)
    | .fault e => (.error e, reading, rest)
    | .ended => (.error (.client (.connectionClosed client.endpoint.text)), client.close, rest)

def ask (peer : Peer κ ω) (request : Request) (expected? : Response → Option α)
    (world : ThinClient κ × ω) : Except Error α × ThinClient κ × ω :=
  let (outcome, world) := ThinClient.request peer request world
  (outcome.bind fun response =>
    match expected? response with
    | some value => .ok value
    | none => .error response.unexpected, world)

def names (peer : Peer κ ω) : ThinClient κ × ω → Except Error (List String) × ThinClient κ × ω :=
  ask peer .cacheNames fun
    | .cacheNames names => some names
    | _ => none

def definition (peer : Peer κ ω) (name : String) :
    ThinClient κ × ω → Except Error CacheDefinition × ThinClient κ × ω :=
  ask peer (.cacheConfiguration name) fun
    | .cacheConfiguration cache => some cache
    | _ => none

def create (peer : Peer κ ω) (cache : CacheDefinition) :
    ThinClient κ × ω → Except Error Unit × ThinClient κ × ω :=
  ask peer (.createCache cache) fun
    | .done => some ()
    | _ => none

def destroy (peer : Peer κ ω) (name : String) :
    ThinClient κ × ω → Except Error Unit × ThinClient κ × ω :=
  ask peer (.destroyCache name) fun
    | .done => some ()
    | _ => none

def catalog (peer : Peer κ ω) : Catalog (ThinClient κ × ω) :=
  ⟨names peer, definition peer⟩

def changeSchema (client : ThinClient κ) (name : String) : Except Error Unit × ThinClient κ :=
  if Text.blank name then (.error (.config .emptySchema), client)
  else (.ok (), { client with schema := name })

def hasTable (peer : Peer κ ω) (table : String) (world : ThinClient κ × ω) :
    Except Error Bool × ThinClient κ × ω :=
  (catalog peer).hasTable world.1.schema table world

end ThinClient

end GridSchema
