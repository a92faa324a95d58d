import GridSchema.Catalog.Basic
import GridSchema.Proofs.Instance.Serving
import GridSchema.Proofs.Network.Reading

/-! A client that asks an instance one question after another while others act: callers and clients
of this instance and of others, and their workers. What the client is told is what the registry
holds at the moment of the question. -/

namespace GridSchema

/-! ### What others do -/

/-- A step of a caller of an instance, or turns of its worker. -/
inductive GridStep where
  | enter
  | request (id : Nat) (change : CacheChange)
  | deliver (limit : Nat)
  | collect (id : Nat)

/-- What others do: an event of the machine, with a change taking its whole course, or a step on the
way of a change at an instance. -/
inductive Activity where
  | event (event : NetworkEvent)
  | step (number : Nat) (step : GridStep)

def Grid.take (grid : Grid) : GridStep → Grid
  | .enter => grid.enter.2
  | .request id change => (grid.request id change).2
  | .deliver limit => grid.deliver limit
  | .collect id => (grid.collect id).2

namespace Network

def act (network : Network) : Activity → Network
  | .event event => network.happen event
  | .step number step =>
    { network with
      instances := network.instances.modify number fun i => { i with grid := i.grid.take step } }

def meanwhile (network : Network) (activities : List Activity) : Network :=
  activities.foldl act network

/-- The network when a client asks the question with a number, if others act before each of its
questions and questions change nothing. -/
def moment (others : Nat → List Activity) (network : Network) : Nat → Network
  | 0 => network.meanwhile (others 0)
  | k + 1 => (network.moment others k).meanwhile (others (k + 1))

theorem moment_zero (others : Nat → List Activity) (network : Network) :
    network.moment others 0 = network.meanwhile (others 0) := rfl

theorem moment_succ (others : Nat → List Activity) (network : Network) (k : Nat) :
    network.moment others (k + 1) = (network.moment others k).meanwhile (others (k + 1)) := rfl

/-- The registry of an instance at that moment. -/
def registryAt (others : Nat → List Activity) (network : Network) (number k : Nat) : Registry :=
  (network.moment others k).registryOf number

variable {network : Network} {number : Nat}

theorem IsOpen.put (isOpen : network.IsOpen number) {other : Nat} {before after : Instance}
    (found : network.instance? other = some before) (same : after.isOpen = before.isOpen) :
    (network.put other after).IsOpen number := by
  obtain ⟨i, found', accepts⟩ := isOpen
  have inside : number < network.instances.length := (List.getElem?_eq_some_iff.mp found').1
  by_cases here : other = number
  · subst here
    obtain rfl : before = i := Option.some.inj (found.symm.trans found')
    exact ⟨after, List.getElem?_set_self inside, same.trans accepts⟩
  · exact ⟨i, (List.getElem?_set_ne here).trans found', accepts⟩

theorem IsOpen.modify (isOpen : network.IsOpen number) (other : Nat) {f : Instance → Instance}
    (kept : other = number → ∀ i, (f i).isOpen = i.isOpen) :
    IsOpen { network with instances := network.instances.modify other f } number := by
  obtain ⟨i, found, accepts⟩ := isOpen
  have found : network.instances[number]? = some i := found
  by_cases here : other = number
  · refine ⟨f i, ?_, (kept here i).trans accepts⟩
    subst here
    simp [instance?, found]
  · refine ⟨i, ?_, accepts⟩
    simp [instance?, here, found]

theorem IsOpen.happen (isOpen : network.IsOpen number) {event : NetworkEvent}
    (spared : event ≠ .close number) : (network.happen event).IsOpen number := by
  cases event with
  | start config =>
    have starting := network.starting_start config
    change (network.start config).2.IsOpen number
    generalize network.start config = ends at starting ⊢
    cases starting with
    | refused unbound member => exact isOpen
    | started bound new grid =>
      obtain ⟨i, found, accepts⟩ := isOpen
      have inside : number < network.instances.length := (List.getElem?_eq_some_iff.mp found).1
      exact ⟨i, (List.getElem?_append_left inside).trans found, accepts⟩
  | change other change =>
    simp only [Network.happen, Network.change]
    split
    · exact isOpen
    next found => exact isOpen.put found rfl
  | close other =>
    refine isOpen.modify other fun here => ?_
    exact absurd (congrArg NetworkEvent.close here) spared
  | receive bytes connection =>
    simp only [Network.happen, Network.exchange]
    split
    next found =>
      split_ifs
      · exact isOpen.put found rfl
      · exact isOpen
    · exact isOpen

theorem IsOpen.act (isOpen : network.IsOpen number) {activity : Activity}
    (spared : activity ≠ .event (.close number)) : (network.act activity).IsOpen number := by
  cases activity with
  | event event => exact isOpen.happen fun same => spared (congrArg Activity.event same)
  | step other step => exact isOpen.modify other fun _ _ => rfl

theorem IsOpen.meanwhile (isOpen : network.IsOpen number) {activities : List Activity}
    (spared : .event (.close number) ∉ activities) :
    (network.meanwhile activities).IsOpen number := by
  induction activities generalizing network with
  | nil => exact isOpen
  | cons activity activities ih =>
    obtain ⟨first, others⟩ := not_or.mp (List.mem_cons.not.mp spared)
    exact ih (isOpen.act (Ne.symm first)) others

theorem IsOpen.moment (isOpen : network.IsOpen number) {others : Nat → List Activity}
    (spared : ∀ k, .event (.close number) ∉ others k) (k : Nat) :
    (network.moment others k).IsOpen number := by
  induction k with
  | zero => exact isOpen.meanwhile (spared 0)
  | succ k ih => exact ih.meanwhile (spared (k + 1))

/-! ### Requests of other clients -/

/-- Requests that come to an instance over other connections, one after the other. -/
def requestsTo (number : Nat) (requests : List Request) : List Activity :=
  requests.map fun request => .event (.receive (Wire.frame request.toJson) ⟨number, true⟩)

theorem requestsTo_spares (number : Nat) (requests : List Request) :
    .event (.close number) ∉ requestsTo number requests := by
  intro mem
  obtain ⟨request, -, same⟩ := List.mem_map.mp mem
  cases same

theorem Holds.requestsTo {registry : Registry} (holds : network.Holds number registry)
    {requests : List Request} (fit : ∀ request ∈ requests, request.Fits) :
    (network.meanwhile (Network.requestsTo number requests)).Holds number
      (registry.afterAll requests) := by
  induction requests generalizing network registry with
  | nil => exact holds
  | cons request requests ih =>
    obtain ⟨network', replied, holds'⟩ := holds.reply (fit request List.mem_cons_self)
    have received : network.happen (.receive (Wire.frame request.toJson) ⟨number, true⟩) =
        network' := by
      have exchanged := replies request ⟨number, true⟩ network
      rw [replied] at exchanged
      exact congrArg (fun result => result.2.2) exchanged
    have rest : network.meanwhile (Network.requestsTo number (request :: requests)) =
        network'.meanwhile (Network.requestsTo number requests) := by
      rw [← received]
      rfl
    rw [rest]
    exact ih holds' fun r mem => fit r (List.mem_cons_of_mem _ mem)

/-- If others do nothing but send requests to an instance, its registry at each moment is that after
all the requests that were sent by then. -/
theorem Holds.moment {registry : Registry} (holds : network.Holds number registry)
    (requests : Nat → List Request) (fit : ∀ k, ∀ request ∈ requests k, request.Fits) (k : Nat) :
    (network.moment (fun k => Network.requestsTo number (requests k)) k).Holds number
      (registry.afterAll ((List.range (k + 1)).flatMap requests)) := by
  induction k with
  | zero =>
    have first : (List.range 1).flatMap requests = requests 0 := List.append_nil _
    rw [first]
    exact holds.requestsTo (fit 0)
  | succ k ih =>
    have now := ih.requestsTo (fit (k + 1))
    have next : (List.range (k + 2)).flatMap requests =
        (List.range (k + 1)).flatMap requests ++ requests (k + 1) := by
      rw [List.range_succ, List.flatMap_append, List.flatMap_singleton]
    rw [next, Registry.afterAll, List.foldl_append]
    exact now

theorem registryAt_lone (requests : Nat → List Request)
    (fit : ∀ k, ∀ request ∈ requests k, request.Fits) (k : Nat) :
    registryAt (fun k => requestsTo 0 (requests k)) lone 0 k =
      Registry.afterAll ∅ ((List.range (k + 1)).flatMap requests) :=
  (holds_lone.moment requests fit k).registryOf_eq

end Network

/-! ### Questions among what others do -/

def Catalog.amid {κ : Type} (catalog : Catalog (κ × Network)) (others : Nat → List Activity) :
    Catalog (Nat × κ × Network) where
  names := fun (k, client, network) =>
    let (answer, world) := catalog.names (client, network.meanwhile (others k))
    (answer, k + 1, world)
  definition name := fun (k, client, network) =>
    let (answer, world) := catalog.definition name (client, network.meanwhile (others k))
    (answer, k + 1, world)

namespace ThinClient

/-- A client whose questions others come between. -/
def amid (others : Nat → List Activity) : Catalog (Nat × ThinClient Connection × Network) :=
  (catalog Network.peer).amid others

variable {client : ThinClient Connection} {number : Nat} (connected : client.ConnectedTo number)
  {network : Network} (isOpen : network.IsOpen number) {others : Nat → List Activity}
  (spared : ∀ k, .event (.close number) ∉ others k)
include connected isOpen spared

theorem ConnectedTo.names_amid
    (answered : (Response.cacheNames (network.registryAt others number 0).names).Fits) :
    (amid others).names (0, client, network) =
      (.ok (network.registryAt others number 0).names, 1, client, network.moment others 0) := by
  have told := connected.names (isOpen.moment spared 0) answered
  simp only [amid, Catalog.amid, catalog]
  rw [← Network.moment_zero, told]
  rfl

theorem ConnectedTo.definition_amid (k : Nat) {name : String}
    (asked : (Request.cacheConfiguration name).Fits)
    (answered : ((network.registryAt others number (k + 1)).answer
      (.cacheConfiguration name)).Fits) :
    (amid others).definition name (k + 1, client, network.moment others k) =
      ((network.registryAt others number (k + 1)).definition name, k + 2, client,
        network.moment others (k + 1)) := by
  have told := connected.definition (isOpen.moment spared (k + 1)) asked answered
  simp only [amid, Catalog.amid, catalog]
  rw [← Network.moment_succ, told]
  rfl

end ThinClient

end GridSchema
