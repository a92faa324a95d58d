import GridSchema.Proofs.Network.Address
import GridSchema.Proofs.Network.Running
import GridSchema.Session.Basic

/-! Sessions that are opened. The instance is a new one with no caches, and the client is connected
to it and to no other. What cannot be opened leaves nothing behind that runs. -/

namespace GridSchema

namespace Network

def localEndpoints : List Endpoint :=
  ((List.range freePorts).map (firstFreePort + ·)).map fun port =>
    ⟨.loopback, UInt16.ofNat port⟩

/-- Whether an instance can be started on any port of the machine itself, and reached there. -/
def HasRoom (network : Network) : Prop :=
  network.addressed = true ∧ ∃ endpoint ∈ localEndpoints, network.accepting? endpoint = none

variable {network : Network}

theorem hasRoom_empty : (Network.empty true).HasRoom := by
  have listed : (⟨.loopback, UInt16.ofNat firstFreePort⟩ : Endpoint) ∈ localEndpoints := by
    refine List.mem_map.mpr ⟨firstFreePort, List.mem_map.mpr ⟨0, ?_, rfl⟩, rfl⟩
    exact List.mem_range.mpr (by decide)
  exact ⟨rfl, _, listed, rfl⟩

theorem bind_local (network : Network) :
    network.bind ⟨defaultHost, 0⟩ =
      match localEndpoints.find? fun endpoint => (network.accepting? endpoint).isNone with
      | some endpoint => .ok endpoint
      | none => .error .addressInUse := by
  have host : Host.lookup defaultHost = .ok .loopback := rfl
  have allowed : Host.loopback.bindFault? network.addressed = none := by
    cases network.addressed <;> rfl
  have plain : Host.loopback.withoutInterface = .loopback := rfl
  unfold bind
  simp only [host, localEndpoints, if_true, Bind.bind, Except.bind, allowed, plain]
  cases List.find? _ _ <;> rfl

/-- An endpoint that is given out is at a host where connections are accepted, and nobody else
accepts them there. -/
theorem bind_eq_ok {config : InstanceConfig} {endpoint : Endpoint}
    (bound : network.bind config = .ok endpoint) :
    (∃ host : Host, host.HasGroups ∧ host.bindFault? network.addressed = none ∧
      endpoint.host = host.withoutInterface) ∧ network.accepting? endpoint = none := by
  unfold bind at bound
  cases known : Host.lookup config.host with
  | error fault =>
    rw [known] at bound
    cases bound
  | ok host =>
    have whole := Host.hasGroups_of_lookup known
    simp only [known, Bind.bind, Except.bind] at bound
    cases allowed : host.bindFault? network.addressed with
    | some fault =>
      rw [allowed] at bound
      cases bound
    | none =>
      rw [allowed] at bound
      dsimp only at bound
      split at bound
      next found =>
        cases bound
        have free := List.find?_some found
        obtain ⟨port, -, rfl⟩ := List.mem_map.mp (List.mem_of_find?_eq_some found)
        exact ⟨⟨host, whole, allowed, rfl⟩, Option.isNone_iff_eq_none.mp free⟩
      next => cases bound

theorem exists_bind_of_hasRoom (room : network.HasRoom) :
    ∃ endpoint, network.bind ⟨defaultHost, 0⟩ = .ok endpoint := by
  obtain ⟨-, endpoint, listed, free⟩ := room
  have found : (localEndpoints.find? fun e => (network.accepting? e).isNone).isSome := by
    rw [List.find?_isSome]
    exact ⟨endpoint, listed, by rw [free]; rfl⟩
  obtain ⟨first, found⟩ := Option.isSome_iff_exists.mp found
  refine ⟨first, ?_⟩
  rw [bind_local, found]

theorem start_of_bind {config : InstanceConfig} {endpoint : Endpoint}
    (bound : network.bind config = .ok endpoint) :
    ∃ i, i.isOpen = true ∧ i.endpoint = endpoint ∧
      network.start config = (.ok network.instances.length, network.withInstance i) := by
  have starting := network.starting_start config
  generalize network.start config = ends at starting ⊢
  cases starting with
  | refused unbound member => cases unbound.symm.trans bound
  | @started i bound' isOpen member grid =>
    exact ⟨i, isOpen, Except.ok.inj (bound'.symm.trans bound), rfl⟩

theorem start_of_unbound {config : InstanceConfig} {fault : IoFault}
    (unbound : network.bind config = .error fault) :
    ∃ grid, grid.HasEnded ∧
      network.start config = (.error (config.cannotBind fault), network.withAbandoned grid) := by
  have starting := network.starting_start config
  generalize network.start config = ends at starting ⊢
  cases starting with
  | refused unbound' member =>
    obtain rfl := Except.error.inj (unbound'.symm.trans unbound)
    exact ⟨_, Grid.hasEnded_stop_resting member ∅ 0, rfl⟩
  | started bound isOpen grid => cases bound.symm.trans unbound

/-- An instance that was just started is the one that accepts connections where it was bound. -/
theorem accepting?_concat {endpoint : Endpoint} (free : network.accepting? endpoint = none)
    {i : Instance} (isOpen : i.isOpen = true) (place : i.endpoint = endpoint) :
    (network.withInstance i).accepting? endpoint = some network.instances.length := by
  have meets : i.endpoint.meets endpoint = true := by
    rw [place]
    simp [Endpoint.meets]
  have none : network.instances.findIdx? (fun i => i.isOpen && i.endpoint.meets endpoint) = none :=
    free
  simp [accepting?, withInstance, List.findIdx?_append, none, isOpen, meets]

/-- On a machine with addresses there is a way to every host where connections are accepted. -/
theorem connectFault?_of_bindFault? {host : Host} (whole : host.HasGroups)
    (allowed : host.bindFault? true = none) : host.withoutInterface.connectFault? true = none := by
  cases host with
  | v4 address => rfl
  | v6 groups interface =>
    rcases Host.groups_of_bindFault? whole allowed with ⟨high, low, rfl⟩ | rfl | rfl <;> rfl

theorem exists_connectFault? (host : Host) : ∃ fault, host.connectFault? false = some fault := by
  unfold Host.connectFault?
  cases host.plain with
  | v4 address => exact ⟨_, rfl⟩
  | v6 groups interface =>
    simp only [Bool.false_eq_true, if_false]
    split_ifs
    · exact ⟨_, rfl⟩
    · exact ⟨_, rfl⟩
    · exact ⟨_, rfl⟩

theorem connect_of_not_addressed (nowhere : network.addressed = false) (address : String) :
    ∃ fault, network.connect address = .error fault := by
  rw [connect_eq]
  cases Endpoint.resolve address with
  | error fault => exact ⟨fault, rfl⟩
  | ok endpoint =>
    obtain ⟨fault, no⟩ := exists_connectFault? endpoint.host
    refine ⟨fault, ?_⟩
    simp only [Except.bind, nowhere, no]

/-- Whoever dials the text of an endpoint that an instance was just bound to is connected to this
instance, on a machine with addresses. -/
theorem connect_of_bind (addressed : network.addressed = true) {config : InstanceConfig}
    {endpoint : Endpoint} (bound : network.bind config = .ok endpoint) {i : Instance}
    (isOpen : i.isOpen = true) (place : i.endpoint = endpoint) :
    (network.withInstance i).connect endpoint.text =
      .ok (endpoint, ⟨network.instances.length, true⟩) := by
  obtain ⟨⟨host, whole, allowed, same⟩, free⟩ := bind_eq_ok bound
  rw [addressed] at allowed
  have accepting := accepting?_concat free isOpen place
  have way : endpoint.host.connectFault? (network.withInstance i).addressed = none := by
    change endpoint.host.connectFault? network.addressed = none
    rw [addressed, same]
    exact connectFault?_of_bindFault? whole allowed
  have leads : Endpoint.resolve endpoint.text = .ok endpoint := by
    have text := Endpoint.resolve_text_of_bindFault? whole allowed endpoint.port
    rw [← same] at text
    exact text
  rw [connect_eq, leads]
  simp only [Except.bind, way, accepting]

theorem close_withInstance (network : Network) (i : Instance) :
    (network.withInstance i).close network.instances.length = network.withInstance i.close := by
  have last (instances : List Instance) :
      (instances ++ [i]).modify instances.length Instance.close = instances ++ [i.close] := by
    induction instances with
    | nil => rfl
    | cons first rest ih => simpa using ih
  unfold close withInstance
  rw [last]

end Network

namespace Session

variable {network : Network} {clients : List (ThinClient Connection)} {user : String}

/-- What a session that was opened has: the number of a new instance without caches and that of a
new client, which is connected to the instance. -/
structure Opened (clients : List (ThinClient Connection)) (launched : OpenSession)
    (deployment : Deployment) : Prop where
  clientNumber : launched.clientNumber = clients.length
  clients : ∃ client, client.ConnectedTo launched.instanceNumber ∧
    deployment.clients = clients ++ [client]
  holds : deployment.network.Holds launched.instanceNumber ∅

/-- A session whose instance is bound is opened if the machine has addresses. -/
theorem launch_of_bind (addressed : network.addressed = true) {session : Session}
    {endpoint : Endpoint} (bound : network.bind session.config = .ok endpoint)
    (clients : List (ThinClient Connection)) :
    ∃ i client, client.ConnectedTo network.instances.length ∧
      (network.withInstance i).Holds network.instances.length ∅ ∧
      session.launch ⟨network, clients⟩ = (.ok ⟨network.instances.length, clients.length⟩,
        ⟨network.withInstance i, clients ++ [client]⟩) := by
  obtain ⟨i, isOpen, place, started⟩ := Network.start_of_bind bound
  have holds := Network.holds_start started
  have connect := Network.connect_of_bind addressed bound isOpen place
  have found : (network.withInstance i).instance? network.instances.length = some i :=
    List.getElem?_concat_length
  have dialled : ClientConfig.connect ⟨[endpoint.text], session.user⟩ (network.withInstance i) =
      .ok (.connected endpoint session.user ⟨network.instances.length, true⟩) := by
    simp [ClientConfig.connect, Network.dial, connect, Except.mapError]
  refine ⟨i, .connected endpoint session.user ⟨network.instances.length, true⟩, rfl, holds, ?_⟩
  simp only [launch, Deployment.start, started, found, Option.map_some, place, Option.toList_some,
    Deployment.connect, dialled]

/-- One whose instance cannot be bound is not opened, and the node that was started has ended. -/
theorem launch_of_unbound {session : Session} {fault : IoFault}
    (unbound : network.bind session.config = .error fault)
    (clients : List (ThinClient Connection)) :
    ∃ grid, grid.HasEnded ∧ session.launch ⟨network, clients⟩ =
      (.error (session.config.cannotBind fault), ⟨network.withAbandoned grid, clients⟩) := by
  obtain ⟨grid, ended, started⟩ := Network.start_of_unbound unbound
  refine ⟨grid, ended, ?_⟩
  simp only [launch, Deployment.start, started]

/-- A session is opened if its instance can be started and be reached. -/
theorem launch_of_hasRoom (room : network.HasRoom) (user : String)
    (clients : List (ThinClient Connection)) :
    ∃ launched opened, (Session.new user).launch ⟨network, clients⟩ = (.ok launched, opened) ∧
      Opened clients launched opened := by
  obtain ⟨endpoint, bound⟩ := Network.exists_bind_of_hasRoom room
  obtain ⟨i, client, connected, holds, ends⟩ :=
    launch_of_bind room.1 (show network.bind (Session.new user).config = .ok endpoint from bound)
      clients
  exact ⟨_, _, ends, rfl, ⟨client, connected, rfl⟩, holds⟩

/-- What comes of an attempt to start an instance and to connect a client to it. The instance is not
bound, and the node that was started for it has ended; or it cannot be reached, and is closed; or
the session can be opened. -/
inductive Launch (session : Session) (deployment : Deployment) :
    Except Error OpenSession × Deployment → Prop where
  | refused {fault : IoFault} (unbound : deployment.network.bind session.config = .error fault)
    {grid : Grid} (ended : grid.HasEnded) :
    Launch session deployment (.error (session.config.cannotBind fault),
      ⟨deployment.network.withAbandoned grid, deployment.clients⟩)
  | abandoned {e : Error} {i : Instance} (down : i.condition = (false, false)) :
    Launch session deployment
      (.error e, ⟨deployment.network.withInstance i, deployment.clients⟩)
  | opened {i : Instance} {client : ThinClient Connection}
    (connected : client.ConnectedTo deployment.network.instances.length)
    (holds : (deployment.network.withInstance i).Holds deployment.network.instances.length ∅) :
    Launch session deployment
      (.ok ⟨deployment.network.instances.length, deployment.clients.length⟩,
        ⟨deployment.network.withInstance i, deployment.clients ++ [client]⟩)

theorem launch_launch (session : Session) (deployment : Deployment) :
    session.Launch deployment (session.launch deployment) := by
  obtain ⟨network, clients⟩ := deployment
  cases bound : network.bind session.config with
  | error fault =>
    obtain ⟨grid, ended, ends⟩ := launch_of_unbound bound clients
    rw [ends]
    exact .refused bound ended
  | ok endpoint =>
    cases addressed : network.addressed with
    | true =>
      obtain ⟨i, client, connected, holds, ends⟩ := launch_of_bind addressed bound clients
      rw [ends]
      exact .opened connected holds
    | false =>
      obtain ⟨i, isOpen, place, started⟩ := Network.start_of_bind bound
      have nowhere : (network.withInstance i).addressed = false := addressed
      obtain ⟨fault, no⟩ := Network.connect_of_not_addressed nowhere endpoint.text
      have found : (network.withInstance i).instance? network.instances.length = some i :=
        List.getElem?_concat_length
      obtain ⟨e, dialled⟩ : ∃ e, ClientConfig.connect ⟨[endpoint.text], session.user⟩
          (network.withInstance i) = .error e := by
        simp [ClientConfig.connect, Network.dial, no, Except.mapError]
      have closed : i.close.condition = (false, false) := by
        rw [Instance.condition_close, if_pos isOpen]
      simp only [launch, Deployment.start, started, found, Option.map_some, place,
        Option.toList_some, Deployment.connect, dialled, Deployment.closeInstance,
        Network.close_withInstance]
      exact .abandoned closed

/-! ### Opening and closing -/

/-- A session has an instance if and only if it has a client. -/
def Paired (session : Session) : Prop :=
  session.instanceNumber.isSome = session.clientNumber.isSome

section paired

variable {session : Session} (paired : session.Paired)
include paired

theorem Paired.isOpen_eq : session.isOpen = session.instanceNumber.isSome :=
  paired.symm

theorem Paired.instanceNumber_eq_none (closed : session.clientNumber = none) :
    session.instanceNumber = none := by
  have none : session.instanceNumber.isSome = false := by rw [paired, closed]; rfl
  simpa using none

theorem Paired.exists_instanceNumber {client : Nat} (has : session.clientNumber = some client) :
    ∃ number, session.instanceNumber = some number := by
  rw [← Option.isSome_iff_exists, paired, has]
  rfl

end paired

theorem ensureOpen_of_client {session : Session} {client : Nat}
    (has : session.clientNumber = some client) (deployment : Deployment) :
    session.ensureOpen deployment = (.ok client, session, deployment) := by
  simp only [ensureOpen, has]

theorem ensureOpen_of_launch {session : Session} (closed : session.clientNumber = none)
    (bare : session.instanceNumber = none) {launched : OpenSession}
    {deployment opened : Deployment} (ends : session.launch deployment = (.ok launched, opened)) :
    session.ensureOpen deployment = (.ok launched.clientNumber,
      { session with
        instanceNumber := launched.instanceNumber, clientNumber := launched.clientNumber },
      opened) := by
  simp only [ensureOpen, closed, ends, drop, closeInstance, bare]

theorem ensureOpen_of_error {session : Session} (closed : session.clientNumber = none) {e : Error}
    {deployment after : Deployment} (ends : session.launch deployment = (.error e, after)) :
    session.ensureOpen deployment = (.error e, session, after) := by
  simp only [ensureOpen, closed, ends]

/-- What comes of asking a session to be open, if it has both an instance and a client or neither.
It is open already; or a node is started in vain and has ended; or an instance is started that is
closed again; or it is opened, with the next numbers. -/
inductive Opening (session : Session) (deployment : Deployment) :
    Except Error Nat × Session × Deployment → Prop where
  | again {client : Nat} (has : session.clientNumber = some client) :
    Opening session deployment (.ok client, session, deployment)
  | refused (closed : session.clientNumber = none) {fault : IoFault}
    (unbound : deployment.network.bind session.config = .error fault)
    {grid : Grid} (ended : grid.HasEnded) :
    Opening session deployment (.error (session.config.cannotBind fault), session,
      ⟨deployment.network.withAbandoned grid, deployment.clients⟩)
  | abandoned (closed : session.clientNumber = none) {e : Error} {i : Instance}
    (down : i.condition = (false, false)) :
    Opening session deployment
      (.error e, session, ⟨deployment.network.withInstance i, deployment.clients⟩)
  | opened (closed : session.clientNumber = none) {i : Instance} {client : ThinClient Connection}
    (connected : client.ConnectedTo deployment.network.instances.length)
    (holds : (deployment.network.withInstance i).Holds deployment.network.instances.length ∅) :
    Opening session deployment (.ok deployment.clients.length,
      { session with
        instanceNumber := some deployment.network.instances.length
        clientNumber := some deployment.clients.length },
      ⟨deployment.network.withInstance i, deployment.clients ++ [client]⟩)

theorem opening_ensureOpen {session : Session} (paired : session.Paired)
    (deployment : Deployment) : session.Opening deployment (session.ensureOpen deployment) := by
  cases has : session.clientNumber with
  | some client =>
    rw [ensureOpen_of_client has]
    exact .again has
  | none =>
    have bare := paired.instanceNumber_eq_none has
    have launching := session.launch_launch deployment
    cases ends : session.launch deployment with | mk result after
    rw [ends] at launching
    cases launching with
    | refused unbound ended =>
      rw [ensureOpen_of_error has ends]
      exact .refused has unbound ended
    | abandoned down =>
      rw [ensureOpen_of_error has ends]
      exact .abandoned has down
    | opened connected holds =>
      rw [ensureOpen_of_launch has bare ends]
      exact .opened has connected holds

section opening

variable {session session' : Session} (paired : session.Paired) {deployment deployment' : Deployment}
include paired

theorem Paired.opening {result : Except Error Nat}
    (ends : session.ensureOpen deployment = (result, session', deployment')) :
    session.Opening deployment (result, session', deployment') :=
  ends ▸ opening_ensureOpen paired deployment

theorem Paired.client_of_opened {client : Nat}
    (opened : session.ensureOpen deployment = (.ok client, session', deployment')) :
    session'.clientNumber = some client := by
  cases paired.opening opened with
  | again has => exact has
  | opened closed connected holds => rfl

theorem Paired.bare_of_refused {e : Error}
    (refused : session.ensureOpen deployment = (.error e, session', deployment')) :
    session' = session ∧ session.clientNumber = none ∧ session.instanceNumber = none := by
  cases paired.opening refused with
  | refused closed unbound ended => exact ⟨rfl, closed, paired.instanceNumber_eq_none closed⟩
  | abandoned closed down => exact ⟨rfl, closed, paired.instanceNumber_eq_none closed⟩

end opening

theorem fst_close (session : Session) (deployment : Deployment) :
    (session.close deployment).1 =
      { session with instanceNumber := none, clientNumber := none } := by
  obtain ⟨config, user, instanceNumber, clientNumber⟩ := session
  cases instanceNumber <;> cases clientNumber <;> rfl

theorem close_of_bare {session : Session} (closed : session.clientNumber = none)
    (bare : session.instanceNumber = none) (deployment : Deployment) :
    session.close deployment = (session, deployment) := by
  simp only [close, closeClient, closeInstance, closed, bare]

theorem snd_close {session : Session} {number client : Nat}
    (own : session.instanceNumber = some number) (has : session.clientNumber = some client)
    (deployment : Deployment) : (session.close deployment).2 =
      ⟨deployment.network.close number, deployment.clients.modify client ThinClient.close⟩ := by
  simp only [close, closeClient, closeInstance, own, has]
  rfl

end Session

end GridSchema
