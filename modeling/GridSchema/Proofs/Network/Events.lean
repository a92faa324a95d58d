import GridSchema.Network.Client
import GridSchema.Proofs.Client.Calls
import GridSchema.Proofs.Instance.Resting

/-! What may happen on a machine, and what its instances answer. Whatever happens, the instances
that are open are at rest between one event and the next. -/

namespace GridSchema

/-- What may happen on a machine: an instance is started, changed by its own caller or closed, or
bytes come over a connection. -/
inductive NetworkEvent where
  | start (config : InstanceConfig)
  | change (number : Nat) (change : CacheChange)
  | close (number : Nat)
  | receive (bytes : Bytes) (connection : Connection)

namespace Network

def happen (network : Network) : NetworkEvent → Network
  | .start config => (network.start config).2
  | .change number change => (network.change number change).2
  | .close number => network.close number
  | .receive bytes connection => (network.exchange bytes connection).2.2

def run (network : Network) (events : List NetworkEvent) : Network :=
  events.foldl happen network

/-- Calls to be made, each once some events have happened. -/
def turns (calls : List (List NetworkEvent × Request)) : List (Turn Network) :=
  calls.map fun (events, request) => ⟨fun network => network.run events, request⟩

/-! ### Starting an instance -/

def withInstance (network : Network) (i : Instance) : Network :=
  { network with instances := network.instances ++ [i] }

def withAbandoned (network : Network) (grid : Grid) : Network :=
  { network with abandoned := network.abandoned ++ [grid] }

/-- What comes of starting an instance: a node is started and stopped again, if the instance cannot
be bound, or there is one more instance, which is open and at rest without caches. -/
inductive Starting (network : Network) (config : InstanceConfig) :
    Except Error Nat × Network → Prop where
  | refused {fault : IoFault} (unbound : network.bind config = .error fault) (member : Member) :
    Starting network config (.error (config.cannotBind fault),
      network.withAbandoned (Grid.resting member ∅ 0).stop)
  | started {i : Instance} (bound : network.bind config = .ok i.endpoint) (isOpen : i.isOpen = true)
    {member : Member} (grid : i.grid = .resting member ∅ 0) :
    Starting network config (.ok network.instances.length, network.withInstance i)

theorem starting_start (network : Network) (config : InstanceConfig) :
    network.Starting config (network.start config) := by
  obtain ⟨member, started⟩ := Instance.start_eq ((network.bind config).mapError config.cannotBind)
    (.ofNumber (network.instances.length + network.abandoned.length))
  simp only [Network.start, started]
  cases bound : network.bind config with
  | error fault => exact .refused bound member
  | ok endpoint =>
    have new : (⟨member, .resting member ∅ 0, endpoint, true⟩ : Instance).endpoint = endpoint := rfl
    exact .started (new ▸ bound) rfl rfl

/-! ### Instances at rest -/

def Ready (network : Network) : Prop :=
  ∀ i ∈ network.instances, i.Ready

variable {network : Network}

theorem Ready.of_instance? (ready : network.Ready) {number : Nat} {i : Instance}
    (found : network.instance? number = some i) : i.Ready :=
  ready i (List.mem_of_getElem? found)

theorem Ready.put (ready : network.Ready) (number : Nat) {i : Instance} (next : i.Ready) :
    (network.put number i).Ready := by
  intro other h
  rcases List.mem_or_eq_of_mem_set h with h | rfl
  · exact ready other h
  · exact next

theorem Ready.start (ready : network.Ready) (config : InstanceConfig) :
    (network.start config).2.Ready := by
  have starting := network.starting_start config
  generalize network.start config = ends at starting ⊢
  cases starting with
  | refused unbound member => exact ready
  | @started i bound isOpen member grid =>
    intro other h
    rcases List.mem_append.mp h with h | h
    · exact ready other h
    · obtain rfl := List.mem_singleton.mp h
      exact fun _ => ⟨member, ∅, 0, Registry.named_empty, grid⟩

theorem Ready.change (ready : network.Ready) (number : Nat) (change : CacheChange) :
    (network.change number change).2.Ready := by
  unfold Network.change
  split
  · exact ready
  next found => exact ready.put number ((ready.of_instance? found).change change)

theorem Ready.close (ready : network.Ready) (number : Nat) : (network.close number).Ready := by
  intro other h
  obtain ⟨index, found⟩ := List.mem_iff_getElem?.mp h
  rw [Network.close, List.getElem?_modify] at found
  obtain ⟨i, before, rfl⟩ := Option.map_eq_some_iff.mp found
  have old : i.Ready := ready.of_instance? before
  split_ifs
  · exact old.close
  · exact old

theorem Ready.exchange (ready : network.Ready) (bytes : Bytes) (connection : Connection) :
    (network.exchange bytes connection).2.2.Ready := by
  unfold Network.exchange
  split
  next i found =>
    split_ifs with isOpen
    · have grid := ready.of_instance? found (Bool.and_eq_true_iff.mp isOpen).2
      exact ready.put _ fun _ => grid.serve bytes
    · exact ready
  · exact ready

theorem Ready.peer (bytes : Bytes) (connection : Connection) (network : Network)
    (ready : network.Ready) : (peer.exchange bytes connection network).2.2.Ready :=
  ready.exchange bytes connection

theorem Ready.happen (ready : network.Ready) (event : NetworkEvent) :
    (network.happen event).Ready := by
  cases event with
  | start config => exact ready.start config
  | change number change => exact ready.change number change
  | close number => exact ready.close number
  | receive bytes connection => exact ready.exchange bytes connection

theorem Ready.run (ready : network.Ready) (events : List NetworkEvent) :
    (network.run events).Ready := by
  induction events generalizing network with
  | nil => exact ready
  | cons event events ih => exact ih (ready.happen event)

theorem Ready.meanwhile {calls : List (List NetworkEvent × Request)} :
    ∀ turn ∈ turns calls, ∀ network : Network, network.Ready → (turn.meanwhile network).Ready := by
  intro turn h network ready
  obtain ⟨call, -, rfl⟩ := List.mem_map.mp h
  exact ready.run call.1

theorem ready_empty (addressed : Bool) : (Network.empty addressed).Ready :=
  fun _ h => nomatch h

/-! ### Answers -/

/-- What is done with a request that comes over a connection: the instance at its end answers,
unless either end has closed or the request is over the limit, which closes the connection. -/
def reply (request : Request) (connection : Connection) (network : Network) :
    Option Response × Connection × Network :=
  match network.instance? connection.instanceNumber with
  | some i =>
    if connection.isOpen && i.isOpen then
      if request.Fits then
        let (response, grid) := i.grid.respond request
        (some response, connection, network.put connection.instanceNumber { i with grid })
      else
        (none, { connection with isOpen := false }, network.put connection.instanceNumber i)
    else (none, { connection with isOpen := false }, network)
  | none => (none, { connection with isOpen := false }, network)

theorem replies : peer.Replies reply := by
  rintro request ⟨number, isOpen⟩ network
  cases found : network.instance? number with
  | none => simp [peer, exchange, reply, found]
  | some i =>
    obtain ⟨member, grid, endpoint, accepts⟩ := i
    cases both : isOpen && accepts with
    | false => simp [peer, exchange, reply, found, both]
    | true =>
      obtain ⟨rfl, rfl⟩ := Bool.and_eq_true_iff.mp both
      by_cases fits : request.Fits
      · simp [peer, exchange, reply, found, fits, grid.serve_frame fits]
      · simp [peer, exchange, reply, found, fits, grid.serve_oversized (Nat.lt_of_not_le fits)]

def Holds (network : Network) (number : Nat) (registry : Registry) : Prop :=
  ∃ i member next, network.instance? number = some i ∧ i.isOpen = true ∧
    i.grid = .resting member registry next

/-- A request within the limit is answered from the registry of the instance, which is then at rest
again. -/
theorem Holds.reply {network : Network} {number : Nat} {registry : Registry}
    (holds : network.Holds number registry) {request : Request} (fits : request.Fits) :
    ∃ network', Network.reply request ⟨number, true⟩ network =
        (some (registry.answer request), ⟨number, true⟩, network') ∧
      network'.Holds number (registry.after request) := by
  obtain ⟨i, member, next, found, isOpen, grid⟩ := holds
  obtain ⟨next', responded⟩ := Grid.respond_resting member registry next request
  refine ⟨network.put number { i with grid := .resting member (registry.after request) next' },
    ?_, ?_⟩
  · simp [Network.reply, found, isOpen, fits, grid, responded]
  · have inside : number < network.instances.length := (List.getElem?_eq_some_iff.mp found).1
    exact ⟨_, member, next', List.getElem?_set_self inside, isOpen, rfl⟩

/-- What answers a request is an open instance, and the request is within the limit. -/
theorem Ready.of_reply {network : Network} (ready : network.Ready) {request : Request}
    {connection : Connection} {answer : Response}
    (replied : (reply request connection network).1 = some answer) :
    ∃ number registry, connection = ⟨number, true⟩ ∧ registry.Named ∧
      network.Holds number registry ∧ request.Fits := by
  obtain ⟨number, isOpen⟩ := connection
  unfold reply at replied
  split at replied
  next i found =>
    split_ifs at replied with both fits
    obtain ⟨rfl, accepts⟩ := Bool.and_eq_true_iff.mp both
    obtain ⟨member, registry, next, named, grid⟩ := ready.of_instance? found accepts
    exact ⟨number, registry, rfl, named, ⟨i, member, next, found, accepts, grid⟩, fits⟩
  · exact nomatch replied

theorem holds_start {network network' : Network} {config : InstanceConfig} {number : Nat}
    (started : network.start config = (.ok number, network')) : network'.Holds number ∅ := by
  have starting := network.starting_start config
  rw [started] at starting
  cases starting with
  | started bound isOpen grid =>
    exact ⟨_, _, 0, List.getElem?_concat_length, isOpen, grid⟩

end Network

/-! ### Connected clients -/

/-- Whether a client is connected to an instance and has nothing left to read. -/
def ThinClient.ConnectedTo (client : ThinClient Connection) (number : Nat) : Prop :=
  client.link = some ⟨[], number, true⟩

theorem Network.connect_eq (network : Network) (address : String) :
    network.connect address = (Endpoint.resolve address).bind fun endpoint =>
      match endpoint.host.connectFault? network.addressed, network.accepting? endpoint with
      | some fault, _ => .error fault
      | none, some number => .ok (endpoint, ⟨number, true⟩)
      | none, none => .error .connectionRefused := by
  unfold connect
  refine congrArg (Except.bind _) (funext fun endpoint => ?_)
  cases endpoint.host.connectFault? network.addressed <;>
    cases network.accepting? endpoint <;> rfl

/-- A call that fits into the limit both ways returns what the registry answers. -/
theorem ThinClient.ConnectedTo.call {client : ThinClient Connection} {number : Nat}
    (connected : client.ConnectedTo number) {network : Network} {registry : Registry}
    (holds : network.Holds number registry) {request : Request} (asked : request.Fits)
    (answered : (registry.answer request).Fits) :
    ∃ network', ThinClient.call Network.peer request (client, network) =
        (request.decode (registry.answer request), client, network') ∧
      network'.Holds number (registry.after request) := by
  obtain ⟨_, endpoint, user, schema⟩ := client
  obtain rfl := connected
  obtain ⟨network', replied, holds'⟩ := holds.reply asked
  exact ⟨network', call_of_fits endpoint user schema Network.replies replied answered, holds'⟩

/-! ### One instance and one client -/

def Network.lone : Network :=
  ((Network.empty true).start ⟨defaultHost, 4000⟩).2

theorem Network.start_lone : (Network.empty true).start ⟨defaultHost, 4000⟩ = (.ok 0, lone) := by
  rfl

theorem Network.holds_lone : lone.Holds 0 ∅ :=
  holds_start start_lone

def ThinClient.lone : ThinClient Connection :=
  .connected ⟨.loopback, 4000⟩ "user" ⟨0, true⟩

example : (⟨["127.0.0.1:4000"], "user"⟩ : ClientConfig).connect .lone = .ok .lone := by
  rfl

theorem ThinClient.connectedTo_lone : lone.ConnectedTo 0 := rfl

theorem ThinClient.inStep_lone : lone.InStep :=
  inStep_connected _ _ _

/-- The cache that is created and read back there, and the messages that this takes. -/
theorem fits_oddCache :
    Request.Fits (.createCache Wire.oddCache) ∧ Response.Fits .done ∧
      Request.Fits (.cacheConfiguration Wire.oddCache.name) ∧
      Response.Fits (.cacheConfiguration Wire.oddCache) := by
  simp only [Request.fits_iff, Response.fits_iff]
  decide

theorem Registry.answer_oddCache :
    answer ∅ (.createCache Wire.oddCache) = .done ∧
      ((∅ : Registry).after (.createCache Wire.oddCache)).answer
        (.cacheConfiguration Wire.oddCache.name) = .cacheConfiguration Wire.oddCache :=
  ⟨rfl, answer_cacheConfiguration_eq_iff.mpr (find?_after_createCache rfl)⟩

theorem ThinClient.calls_lone {network : Network} (holds : network.Holds 0 ∅) :
    ∃ network' network'',
      ThinClient.call Network.peer (.createCache Wire.oddCache) (lone, network) =
        (.ok .done, lone, network') ∧
      ThinClient.call Network.peer (.cacheConfiguration Wire.oddCache.name) (lone, network') =
        (.ok (.cacheConfiguration Wire.oddCache), lone, network'') := by
  obtain ⟨asked, done, asked', answered⟩ := fits_oddCache
  obtain ⟨stored, found⟩ := Registry.answer_oddCache
  obtain ⟨network', made, holds'⟩ := connectedTo_lone.call holds asked (stored.symm ▸ done)
  obtain ⟨network'', read, -⟩ := connectedTo_lone.call holds' asked' (found.symm ▸ answered)
  rw [stored] at made
  rw [found] at read
  exact ⟨network', network'', made, read⟩

end GridSchema
