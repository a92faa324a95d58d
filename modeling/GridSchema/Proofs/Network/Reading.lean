import GridSchema.Proofs.Network.ReadBack
import GridSchema.Proofs.Network.Reference

/-! Questions to an instance, at rest or not. They are answered from its registry and change
nothing. -/

namespace GridSchema

namespace Network

def IsOpen (network : Network) (number : Nat) : Prop :=
  ∃ i, network.instance? number = some i ∧ i.isOpen = true

def registryOf (network : Network) (number : Nat) : Registry :=
  match network.instance? number with
  | some i => i.grid.registrar.registry
  | none => ∅

variable {network : Network} {number : Nat}

theorem Holds.isOpen {registry : Registry} (holds : network.Holds number registry) :
    network.IsOpen number := by
  obtain ⟨i, -, -, found, isOpen, -⟩ := holds
  exact ⟨i, found, isOpen⟩

theorem Holds.registryOf_eq {registry : Registry} (holds : network.Holds number registry) :
    network.registryOf number = registry := by
  obtain ⟨i, member, next, found, -, grid⟩ := holds
  unfold registryOf
  rw [found]
  change i.grid.registrar.registry = registry
  rw [grid]
  rfl

theorem put_self {i : Instance} (found : network.instance? number = some i) :
    network.put number i = network := by
  obtain ⟨inside, same⟩ := List.getElem?_eq_some_iff.mp found
  have unchanged : network.instances.set number i = network.instances := by
    rw [← same]
    exact List.set_getElem_self inside
  rw [put, unchanged]

/-- A question that a grid answers from its registry, whatever else goes on there. -/
theorem IsOpen.reply (isOpen : network.IsOpen number) {request : Request} (fits : request.Fits)
    (reads : ∀ grid : Grid, grid.respond request = (grid.registrar.registry.answer request, grid)) :
    Network.reply request ⟨number, true⟩ network =
      (some ((network.registryOf number).answer request), ⟨number, true⟩, network) := by
  obtain ⟨⟨member, grid, endpoint, _⟩, found, rfl⟩ := isOpen
  have registry : network.registryOf number = grid.registrar.registry := by
    rw [registryOf, found]
  have same := put_self found
  simp [Network.reply, found, fits, reads, registry, same]

end Network

namespace ThinClient

variable {client : ThinClient Connection} {number : Nat} (connected : client.ConnectedTo number)
  {network : Network} (isOpen : network.IsOpen number)
include connected isOpen

theorem ConnectedTo.call_of_reads {request : Request} (asked : request.Fits)
    (answered : ((network.registryOf number).answer request).Fits)
    (reads : ∀ grid : Grid, grid.respond request = (grid.registrar.registry.answer request, grid)) :
    ThinClient.call Network.peer request (client, network) =
      (request.decode ((network.registryOf number).answer request), client, network) := by
  obtain ⟨_, endpoint, user, schema⟩ := client
  obtain rfl := connected
  have replied := isOpen.reply asked reads
  exact call_of_fits endpoint user schema Network.replies replied answered

theorem ConnectedTo.names (answered : (Response.cacheNames (network.registryOf number).names).Fits) :
    ThinClient.names Network.peer (client, network) =
      (.ok (network.registryOf number).names, client, network) := by
  have asked : Request.Fits .cacheNames := by
    rw [Request.fits_iff]
    decide
  have called := connected.call_of_reads isOpen asked answered fun _ => rfl
  have left := congrArg Prod.snd called
  refine Prod.ext ?_ left
  have result := congrArg Prod.fst called
  simp only [ThinClient.call] at result
  cases returned : (ThinClient.names Network.peer (client, network)).1 with
  | error e =>
    rw [returned] at result
    cases result
  | ok names =>
    rw [returned] at result
    cases result
    rfl

theorem ConnectedTo.definition {name : String} (asked : (Request.cacheConfiguration name).Fits)
    (answered : ((network.registryOf number).answer (.cacheConfiguration name)).Fits) :
    ThinClient.definition Network.peer name (client, network) =
      ((network.registryOf number).definition name, client, network) := by
  have called := connected.call_of_reads isOpen asked answered fun _ => rfl
  have left := congrArg Prod.snd called
  refine Prod.ext ?_ left
  have decoded : Request.decode (.cacheConfiguration name)
        ((network.registryOf number).answer (.cacheConfiguration name)) =
      ((network.registryOf number).definition name).map .cacheConfiguration :=
    Request.decode_ofOutcome (fun _ => rfl) fun _ => Registry.outcome_ofError_definition _
  exact definition_of_call ((congrArg Prod.fst called).trans decoded)

end ThinClient

end GridSchema
