import GridSchema.Network.Deployment
import GridSchema.Proofs.Network.Events

/-! An instance as its clients see it: a map from names to definitions. -/

namespace GridSchema

namespace KnownCaches

variable (known : KnownCaches)

/-- What is known after a call. A cache whose name is taken is not created, and one that is not
known is not dropped. -/
def after : Request → KnownCaches
  | .cacheNames | .cacheConfiguration _ => known
  | .createCache cache => known.make (.create cache)
  | .destroyCache name => known.make (.destroy name)

/-- Whether a call returns what is known: the names in increasing order, each once, the definition
under a name, and whether a change can be made. -/
def Explains (result : Except Error Response) : Request → Prop
  | .cacheNames => ∃ names, result = .ok (.cacheNames names) ∧ names.Pairwise (· < ·) ∧
      ∀ name, name ∈ names ↔ (known name).isSome
  | .cacheConfiguration name => result = match known name with
      | some cache => .ok (.cacheConfiguration cache)
      | .none => .error (.cacheNotFound name)
  | .createCache cache => result = (known.outcome (.create cache)).map fun _ => .done
  | .destroyCache name => result = (known.outcome (.destroy name)).map fun _ => .done

/-- Whether calls made one after another all return what is known. -/
def Explain (known : KnownCaches) : List CallRecord → Prop
  | [] => True
  | record :: records =>
    known.Explains record.result record.request ∧ (known.after record.request).Explain records

end KnownCaches

/-! ### Answers of a registry -/

theorem Request.decode_of_answers {request : Request} {response : Response}
    (kind : response.answers request = true) : request.decode response = .ok response := by
  cases response with
  | failure kind message => cases request <;> cases kind
  | _ => simp [decode, Response.outcome, Except.bind, kind]

/-- An outcome that is sent as an answer comes out of it again, if its errors do. -/
theorem Request.decode_ofOutcome {α : Type} {request : Request} {f : α → Response}
    (kind : ∀ a, (f a).answers request = true) {outcome : Except Error α}
    (same : ∀ e, outcome = .error e → (Response.ofError e).outcome = .error e) :
    request.decode (.ofOutcome f outcome) = outcome.map f := by
  cases outcome with
  | error e => simp [decode, Response.ofOutcome, same e rfl, Except.bind, Except.map]
  | ok a => exact decode_of_answers (kind a)

namespace Registry

variable (registry : Registry)

theorem outcome_ofError_definition {name : String} {e : Error}
    (failed : registry.definition name = .error e) : (Response.ofError e).outcome = .error e := by
  unfold definition at failed
  split at failed <;> cases failed
  rfl

theorem outcome_ofError_apply {change : CacheChange} {e : Error}
    (failed : (registry.apply change).1 = .error e) : (Response.ofError e).outcome = .error e := by
  cases change with
  | create cache =>
    cases taken : registry.contains cache.name <;> simp [apply, taken] at failed
    exact failed ▸ rfl
  | destroy name =>
    cases known : registry.contains name <;> simp [apply, known] at failed
    exact failed ▸ rfl

/-- A call that reads what a registry answers returns what the registry finds. -/
theorem explains_decode_answer (request : Request) :
    KnownCaches.Explains registry.find? (request.decode (registry.answer request)) request := by
  cases request with
  | cacheNames =>
    exact ⟨registry.names, rfl, registry.names_increasing, fun _ => NameMap.mem_names_iff⟩
  | cacheConfiguration name =>
    rw [answer,
      Request.decode_ofOutcome (fun _ => rfl) fun _ => registry.outcome_ofError_definition]
    cases found : registry.find? name <;>
      simp [KnownCaches.Explains, definition, found, Except.map]
  | createCache cache =>
    rw [answer, Request.decode_ofOutcome (fun _ => rfl) fun _ => registry.outcome_ofError_apply,
      fst_apply]
    rfl
  | destroyCache name =>
    rw [answer, Request.decode_ofOutcome (fun _ => rfl) fun _ => registry.outcome_ofError_apply,
      fst_apply]
    rfl

theorem find?_after (request : Request) :
    (registry.after request).find? = KnownCaches.after registry.find? request := by
  cases request with
  | cacheNames => rfl
  | cacheConfiguration name => rfl
  | createCache cache => exact registry.find?_apply (.create cache)
  | destroyCache name => exact registry.find?_apply (.destroy name)

end Registry

namespace Deployment

/-! ### Calls of several clients -/

def record (number : Nat) (request : Request) (deployment : Deployment) : CallRecord where
  request := request
  answer := (deployment.client? number).bind fun client => client.link.bind fun link =>
    (Network.reply request link.remote deployment.network).1
  result := (call number (ThinClient.call Network.peer request) deployment).1

@[simp]
theorem request_record (number : Nat) (request : Request) (deployment : Deployment) :
    (record number request deployment).request = request := rfl

def history : List (Nat × Request) → Deployment → List CallRecord
  | [], _ => []
  | (number, request) :: calls, deployment =>
    record number request deployment ::
      history calls (call number (ThinClient.call Network.peer request) deployment).2

theorem history_cons (number : Nat) (request : Request) (calls : List (Nat × Request))
    (deployment : Deployment) :
    history ((number, request) :: calls) deployment =
      record number request deployment ::
        history calls (call number (ThinClient.call Network.peer request) deployment).2 := rfl

theorem history_singleton (number : Nat) (request : Request) (deployment : Deployment) :
    history [(number, request)] deployment = [record number request deployment] := rfl

section connected

variable {number : Nat} {clients : List (ThinClient Connection)}
  (connected : ∀ client ∈ clients, client.ConnectedTo number)
  {network : Network} {registry : Registry} (holds : network.Holds number registry)
include connected holds

/-- The instance answers the request of a client that is connected to it from its registry. -/
theorem fits_record_iff {client : Nat} (known : client < clients.length) {request : Request}
    (asked : request.Fits) :
    (record client request ⟨network, clients⟩).Fits ↔ (registry.answer request).Fits := by
  have linked : clients[client].link = some ⟨[], number, true⟩ :=
    connected _ (List.getElem_mem known)
  obtain ⟨network', replied, -⟩ := holds.reply asked
  have sent : (record client request ⟨network, clients⟩).answer =
      some (registry.answer request) := by
    simp [record, client?, known, linked, replied]
  simp [CallRecord.Fits, sent]

/-- The client returns what is in that answer, and everything is as before but for the registry. -/
theorem call_of_connected {client : Nat} (known : client < clients.length) {request : Request}
    (asked : request.Fits) (answered : (registry.answer request).Fits) :
    (record client request ⟨network, clients⟩).result =
        request.decode (registry.answer request) ∧
      ∃ network', (call client (ThinClient.call Network.peer request) ⟨network, clients⟩).2 =
        ⟨network', clients⟩ ∧ network'.Holds number (registry.after request) := by
  have linked : clients[client].ConnectedTo number := connected _ (List.getElem_mem known)
  obtain ⟨network', called, holds'⟩ := linked.call holds asked answered
  have found : clients[client]? = some clients[client] := List.getElem?_eq_getElem known
  have unchanged : clients.set client clients[client] = clients := List.set_getElem_self known
  exact ⟨by simp only [record, call, client?, found, called], network',
    by simp only [call, client?, found, called, unchanged], holds'⟩

theorem history_explained {calls : List (Nat × Request)}
    (known : ∀ call ∈ calls, call.1 < clients.length)
    (within : ∀ record ∈ history calls ⟨network, clients⟩, record.request.Fits ∧ record.Fits) :
    KnownCaches.Explain registry.find? (history calls ⟨network, clients⟩) := by
  -- for each call there are a network that holds the registry and a map that agrees with it
  induction calls generalizing network registry with
  | nil => trivial
  | cons call calls ih =>
    obtain ⟨client, request⟩ := call
    rw [history_cons] at within ⊢
    have here : client < clients.length := known (client, request) List.mem_cons_self
    have asked : request.Fits := (within _ List.mem_cons_self).1
    have answered : (registry.answer request).Fits :=
      (fits_record_iff connected holds here asked).mp (within _ List.mem_cons_self).2
    obtain ⟨result, network', next, holds'⟩ :=
      call_of_connected connected holds here asked answered
    have rest := ih holds' (fun c h => known c (List.mem_cons_of_mem _ h))
      fun r h => within r (List.mem_cons_of_mem _ (next ▸ h))
    rw [registry.find?_after] at rest
    refine ⟨?_, next ▸ rest⟩
    rw [result]
    exact registry.explains_decode_answer request

end connected

/-- An instance that was just started, and that nobody changes but the clients connected to it, is a
map from names to definitions for them, as long as requests and answers are within the limit:
whichever client makes a call, it returns what the map of the calls before it says. -/
theorem clients_see_map (addressed : Bool) (events : List NetworkEvent) (config : InstanceConfig)
    {number : Nat} {network : Network}
    (started : ((Network.empty addressed).run events).start config = (.ok number, network))
    {clients : List (ThinClient Connection)}
    (connected : ∀ client ∈ clients, client.ConnectedTo number)
    {calls : List (Nat × Request)} (known : ∀ call ∈ calls, call.1 < clients.length)
    (within : ∀ record ∈ history calls ⟨network, clients⟩, record.request.Fits ∧ record.Fits) :
    KnownCaches.none.Explain (history calls ⟨network, clients⟩) :=
  history_explained connected (Network.holds_start started) known within

/-- What one client creates another one reads. -/
theorem clients_see_map_two : ∃ created read,
    history [(0, .createCache Wire.oddCache), (1, .cacheConfiguration Wire.oddCache.name)]
        ⟨.lone, [.lone, .lone]⟩ = [created, read] ∧
      created.result = .ok .done ∧ read.result = .ok (.cacheConfiguration Wire.oddCache) := by
  have connected : ∀ client ∈ [ThinClient.lone, .lone], client.ConnectedTo 0 := by
    intro client h
    obtain rfl : client = .lone := by simpa using h
    exact ThinClient.connectedTo_lone
  have zero : 0 < [ThinClient.lone, .lone].length := by decide
  have one : 1 < [ThinClient.lone, .lone].length := by decide
  have known : ∀ call ∈ [(0, Request.createCache Wire.oddCache),
      (1, .cacheConfiguration Wire.oddCache.name)], call.1 < [ThinClient.lone, .lone].length :=
    List.forall_mem_cons.mpr ⟨zero, List.forall_mem_singleton.mpr one⟩
  obtain ⟨asked, done, asked', answered⟩ := fits_oddCache
  rw [← Registry.answer_oddCache.1] at done
  rw [← Registry.answer_oddCache.2] at answered
  have fits := (fits_record_iff connected Network.holds_lone zero asked).mpr done
  obtain ⟨-, network, next, holds⟩ :=
    call_of_connected connected Network.holds_lone zero asked done
  have fits' := (fits_record_iff connected holds one asked').mpr answered
  have split := history_cons 0 (.createCache Wire.oddCache)
    [(1, .cacheConfiguration Wire.oddCache.name)] ⟨.lone, [.lone, .lone]⟩
  rw [next, history_singleton] at split
  have explained := clients_see_map true [] ⟨defaultHost, 4000⟩ Network.start_lone connected known
    (split ▸ List.forall_mem_cons.mpr ⟨⟨asked, fits⟩,
      List.forall_mem_singleton.mpr ⟨asked', fits'⟩⟩)
  rw [split] at explained
  obtain ⟨created, read, -⟩ := explained
  refine ⟨_, _, split, ?_, ?_⟩
  · exact created
  · simpa [KnownCaches.Explains, KnownCaches.after, KnownCaches.make, KnownCaches.none] using read

end Deployment

end GridSchema
