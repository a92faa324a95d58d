import Mathlib.Data.List.Induction
import GridSchema.Proofs.Network.Reading
import GridSchema.Proofs.Session.Launch

/-! Caches that a session is given. If they have names of their own the instance holds them and no
others; the first name that comes again is refused. -/

namespace GridSchema

/-- Caches without names of their own have a first one whose name comes before it. -/
theorem exists_first_repeated {caches : List CacheDefinition}
    (repeated : ¬ (caches.map (·.name)).Nodup) :
    ∃ front cache back, caches = front ++ cache :: back ∧ (front.map (·.name)).Nodup ∧
      cache.name ∈ front.map (·.name) := by
  induction caches using List.reverseRecOn with
  | nil => exact absurd .nil repeated
  | append_singleton front last ih =>
    by_cases distinct : (front.map (·.name)).Nodup
    · refine ⟨front, last, [], rfl, distinct, ?_⟩
      by_contra new
      have all : (front.map (·.name) ++ [last.name]).Nodup := by
        refine List.nodup_append.mpr ⟨distinct, List.pairwise_singleton _ _, ?_⟩
        rintro name there _ here rfl
        exact new (List.mem_singleton.mp here ▸ there)
      rw [List.map_append] at repeated
      exact repeated all
    · obtain ⟨before, cache, back, split, apart, again⟩ := ih distinct
      refine ⟨before, cache, back ++ [last], ?_, apart, again⟩
      rw [split, List.append_assoc, List.cons_append]

def Registry.ofCaches (caches : List CacheDefinition) : Registry :=
  NameMap.ofList (caches.map fun cache => (cache.name, cache))

namespace Registry

variable {caches caches' : List CacheDefinition}

theorem ofCaches_eq_foldl (caches : List CacheDefinition) :
    ofCaches caches = caches.foldl (fun registry cache => registry.insert cache.name cache) ∅ := by
  rw [ofCaches, NameMap.ofList, List.foldl_map]
  rfl

theorem names_map_entry (caches : List CacheDefinition) :
    (caches.map fun cache => (cache.name, cache)).map Prod.fst = caches.map (·.name) := by
  rw [List.map_map]
  rfl

theorem ofCaches_eq_of_perm (perm : caches.Perm caches')
    (distinct : (caches.map (·.name)).Nodup) : ofCaches caches = ofCaches caches' := by
  refine NameMap.ofList_eq_of_perm (perm.map _) ?_
  rw [names_map_entry]
  exact distinct

theorem entries_ofCaches_perm (distinct : (caches.map (·.name)).Nodup) :
    (ofCaches caches).entries.Perm (caches.map fun cache => (cache.name, cache)) := by
  refine NameMap.entries_ofList_perm ?_
  rw [names_map_entry]
  exact distinct

theorem values_ofCaches_perm (distinct : (caches.map (·.name)).Nodup) :
    (ofCaches caches).values.Perm caches := by
  have values := (entries_ofCaches_perm distinct).map Prod.snd
  have same : caches.map (Prod.snd ∘ fun cache => (cache.name, cache)) = caches :=
    List.map_id' caches
  rw [List.map_map, same] at values
  exact values

theorem apply_create_of_new {registry : Registry} {cache : CacheDefinition}
    (new : cache.name ∉ registry.names) :
    registry.apply (.create cache) = (.ok (), registry.insert cache.name cache) := by
  have absent : registry.contains cache.name = false := by
    rw [NameMap.mem_names_iff] at new
    exact Bool.eq_false_iff.mpr new
  rw [apply, absent]
  rfl

theorem apply_create_of_taken {registry : Registry} {cache : CacheDefinition}
    (taken : cache.name ∈ registry.names) :
    registry.apply (.create cache) = (.error (.cacheExists cache.name), registry) := by
  have there : registry.contains cache.name = true := NameMap.mem_names_iff.mp taken
  rw [apply, there]
  rfl

/-- What is answered to a request to create a cache takes less room than the request. -/
theorem fits_answer_createCache (registry : Registry) {cache : CacheDefinition}
    (fits : (Request.createCache cache).Fits) :
    (registry.answer (.createCache cache)).Fits := by
  have done : Response.Fits .done := fits_oddCache.2.1
  have failure : (Response.failure .cacheExists cache.name).Fits := by
    have words : (Json.escape "error").utf8ByteSize = 5 ∧ (Json.escape "kind").utf8ByteSize = 4 ∧
        (Json.escape "cache_exists").utf8ByteSize = 12 ∧
        (Json.escape "message").utf8ByteSize = 7 ∧
        (Json.escape "query_parallelism").utf8ByteSize = 17 := by
      decide
    rw [Request.fits_iff] at fits
    rw [Response.fits_iff]
    refine Nat.le_trans ?_ fits
    simp only [Response.toJson, FailureKind.name, Request.toJson, CacheDefinition.toJson,
      Json.ofFields, List.map, List.map_append, List.cons_append, List.nil_append, Json.ofText,
      Json.size, Json.sizeMembers, Json.sizeMembers_append, words, size_words]
    omega
  cases taken : registry.contains cache.name with
  | false =>
    simp only [answer, apply, taken]
    exact done
  | true =>
    simp only [answer, apply, taken]
    exact failure

end Registry

theorem ThinClient.ConnectedTo.create {client : ThinClient Connection} {number : Nat}
    (connected : client.ConnectedTo number) {network : Network} {registry : Registry}
    (holds : network.Holds number registry) {cache : CacheDefinition}
    (asked : (Request.createCache cache).Fits) :
    ∃ network', ThinClient.create Network.peer cache (client, network) =
        ((registry.apply (.create cache)).1, client, network') ∧
      network'.Holds number (registry.apply (.create cache)).2 := by
  obtain ⟨network', called, holds'⟩ :=
    connected.call holds asked (registry.fits_answer_createCache asked)
  refine ⟨network', ?_, holds'⟩
  have decoded : Request.decode (.createCache cache) (registry.answer (.createCache cache)) =
      (registry.apply (.create cache)).1.map fun _ => .done :=
    Request.decode_ofOutcome (fun _ => rfl) fun _ => registry.outcome_ofError_apply
  rw [decoded] at called
  have left := congrArg Prod.snd called
  refine Prod.ext ?_ left
  have result := congrArg Prod.fst called
  simp only [ThinClient.call] at result
  cases returned : (ThinClient.create Network.peer cache (client, network)).1 with
  | error e =>
    rw [returned] at result
    cases made : (registry.apply (.create cache)).1 with
    | error e' =>
      rw [made] at result
      cases result
      rfl
    | ok done =>
      rw [made] at result
      cases result
  | ok done =>
    rw [returned] at result
    cases made : (registry.apply (.create cache)).1 with
    | error e' =>
      rw [made] at result
      cases result
    | ok done' => rfl

theorem Deployment.call_of_known {α : Type} {number : Nat} {clients : List (ThinClient Connection)}
    {client : ThinClient Connection} (known : clients[number]? = some client)
    {f : ThinClient Connection × Network → Except Error α × ThinClient Connection × Network}
    {network network' : Network} {result : Except Error α}
    (called : f (client, network) = (result, client, network')) :
    call number f ⟨network, clients⟩ = (result, ⟨network', clients⟩) := by
  have unchanged : clients.set number client = clients := by
    obtain ⟨inside, same⟩ := List.getElem?_eq_some_iff.mp known
    rw [← same]
    exact List.set_getElem_self inside
  simp only [call, client?, known, called, unchanged]

namespace Session

theorem createAll_append (number : Nat) (front back : List CacheDefinition)
    (deployment : Deployment) :
    createAll number (front ++ back) deployment =
      match createAll number front deployment with
      | (.error e, failed) => (.error e, failed)
      | (.ok _, created) => createAll number back created := by
  induction front generalizing deployment with
  | nil => rfl
  | cons cache front ih =>
    rw [List.cons_append, createAll, createAll]
    cases deployment.call number (ThinClient.create Network.peer cache) with | mk outcome next
    cases outcome with
    | error e => rfl
    | ok _ => exact ih next

/-- Those of some caches that are created if they are to be created one after another: all up to the
first whose creation fails. -/
def createdOf (client : Nat) : List CacheDefinition → Deployment → List CacheDefinition
  | [], _ => []
  | cache :: caches, deployment =>
    match deployment.call client (ThinClient.create Network.peer cache) with
    | (.error _, _) => []
    | (.ok _, deployment) => cache :: createdOf client caches deployment

theorem createdOf_append_of_ok {client : Nat} {deployment middle : Deployment}
    {front : List CacheDefinition}
    (created : createAll client front deployment = (.ok (), middle))
    (back : List CacheDefinition) :
    createdOf client (front ++ back) deployment = front ++ createdOf client back middle := by
  induction front generalizing deployment with
  | nil =>
    cases created
    rfl
  | cons cache front ih =>
    cases called : deployment.call client (ThinClient.create Network.peer cache) with
      | mk outcome next
    simp only [createAll, called] at created
    rw [List.cons_append, createdOf, called]
    cases outcome with
    | error e => cases created
    | ok _ => exact congrArg (cache :: ·) (ih created)

section connected

variable {number : Nat} {client : ThinClient Connection} (connected : client.ConnectedTo number)
  {clients : List (ThinClient Connection)} {clientNumber : Nat}
  (known : clients[clientNumber]? = some client)
  {network : Network} {registry : Registry} (holds : network.Holds number registry)
include connected known holds

theorem createAll_of_new {caches : List CacheDefinition}
    (apart : (registry.names ++ caches.map (·.name)).Nodup)
    (fit : ∀ cache ∈ caches, (Request.createCache cache).Fits) :
    ∃ network', createAll clientNumber caches ⟨network, clients⟩ = (.ok (), ⟨network', clients⟩) ∧
      network'.Holds number
        (caches.foldl (fun registry cache => registry.insert cache.name cache) registry) := by
  induction caches generalizing network registry with
  | nil => exact ⟨network, rfl, holds⟩
  | cons cache caches ih =>
    have new : cache.name ∉ registry.names := by
      intro taken
      have other := (List.nodup_append.mp apart).2.2
      exact other _ taken _ List.mem_cons_self rfl
    obtain ⟨network', created, holds'⟩ := connected.create holds (fit cache List.mem_cons_self)
    rw [Registry.apply_create_of_new new] at created holds'
    have names : ((registry.insert cache.name cache).names ++ caches.map (·.name)).Perm
        (registry.names ++ (cache :: caches).map (·.name)) := by
      have inserted := (registry.insert_perm cache new).map Prod.fst
      exact (inserted.append_right _).trans List.perm_middle.symm
    have called := Deployment.call_of_known known created
    obtain ⟨network'', rest, holds''⟩ := ih holds' (names.nodup_iff.mpr apart)
      fun other mem => fit other (List.mem_cons_of_mem _ mem)
    refine ⟨network'', ?_, holds''⟩
    rw [createAll, called]
    exact rest

/-- A cache whose name the instance has is refused, and those after it are not asked for. -/
theorem createAll_of_taken {cache : CacheDefinition} (taken : cache.name ∈ registry.names)
    (fits : (Request.createCache cache).Fits) (back : List CacheDefinition) :
    ∃ failed, createAll clientNumber (cache :: back) ⟨network, clients⟩ =
        (.error (.cacheExists cache.name), failed) ∧
      createdOf clientNumber (cache :: back) ⟨network, clients⟩ = [] := by
  obtain ⟨network', refused, -⟩ := connected.create holds fits
  rw [Registry.apply_create_of_taken taken] at refused
  have called := Deployment.call_of_known known refused
  refine ⟨⟨network', clients⟩, ?_, ?_⟩
  · rw [createAll, called]
  · rw [createdOf, called]

end connected

section opened

variable {clients : List (ThinClient Connection)} {launched : OpenSession} {deployment : Deployment}
  (opened : Opened clients launched deployment)
include opened

theorem Opened.known : ∃ client, client.ConnectedTo launched.instanceNumber ∧
    deployment.clients[launched.clientNumber]? = some client := by
  obtain ⟨client, connected, listed⟩ := opened.clients
  refine ⟨client, connected, ?_⟩
  rw [opened.clientNumber, listed]
  exact List.getElem?_concat_length

/-- Given caches with names of their own, the instance of a session that was just opened holds these
and no others. -/
theorem Opened.createAll {caches : List CacheDefinition}
    (distinct : (caches.map (·.name)).Nodup)
    (fit : ∀ cache ∈ caches, (Request.createCache cache).Fits) :
    ∃ network', Session.createAll launched.clientNumber caches deployment =
        (.ok (), ⟨network', deployment.clients⟩) ∧
      network'.Holds launched.instanceNumber (.ofCaches caches) := by
  obtain ⟨client, connected, known⟩ := opened.known
  have apart : ((∅ : Registry).names ++ caches.map (·.name)).Nodup := distinct
  rw [Registry.ofCaches_eq_foldl]
  exact createAll_of_new connected known opened.holds apart fit

/-- The first cache whose name comes again is refused, once those in front of it were created. -/
theorem Opened.createAll_repeated {front : List CacheDefinition} {cache : CacheDefinition}
    (distinct : (front.map (·.name)).Nodup) (repeated : cache.name ∈ front.map (·.name))
    (fit : ∀ other ∈ front ++ [cache], (Request.createCache other).Fits)
    (back : List CacheDefinition) :
    ∃ failed, Session.createAll launched.clientNumber (front ++ cache :: back) deployment =
        (.error (.cacheExists cache.name), failed) ∧
      createdOf launched.clientNumber (front ++ cache :: back) deployment = front := by
  obtain ⟨client, connected, known⟩ := opened.known
  obtain ⟨network', created, holds⟩ :=
    opened.createAll distinct fun other mem => fit other (List.mem_append_left _ mem)
  have taken : cache.name ∈ (Registry.ofCaches front).names := by
    have names := (Registry.entries_ofCaches_perm distinct).map Prod.fst
    rw [Registry.names_map_entry] at names
    exact names.mem_iff.mpr repeated
  have fits : (Request.createCache cache).Fits := fit cache (by simp)
  obtain ⟨failed, refused, none⟩ := createAll_of_taken connected known holds taken fits back
  refine ⟨failed, ?_, ?_⟩
  · rw [createAll_append, created]
    exact refused
  · rw [createdOf_append_of_ok created, none, List.append_nil]

end opened

/-! ### Caches that are created -/

variable {client : Nat} {deployment : Deployment}

/-- A session that has nothing is opened before the caches are created. -/
theorem seed_of_launch {session : Session} (closed : session.clientNumber = none)
    (bare : session.instanceNumber = none) {launched : OpenSession} {opened made : Deployment}
    (ends : session.launch deployment = (.ok launched, opened)) {caches : List CacheDefinition}
    {outcome : Except Error Unit}
    (created : createAll launched.clientNumber caches opened = (outcome, made)) :
    session.seed caches deployment = (outcome,
      { session with
        instanceNumber := launched.instanceNumber, clientNumber := launched.clientNumber },
      made) := by
  simp only [seed, ensureOpen_of_launch closed bare ends, created]

theorem createdOf_of_ok {caches : List CacheDefinition}
    (ok : (createAll client caches deployment).1 = .ok ()) :
    createdOf client caches deployment = caches := by
  have all := createdOf_append_of_ok (Prod.ext ok rfl) []
  rwa [createdOf, List.append_nil] at all

/-- If caches cannot all be created, one of them could not: those in front of it were created, and
those behind it were not tried. -/
theorem createdOf_of_error {caches : List CacheDefinition} {e : Error} {failed : Deployment}
    (refused : createAll client caches deployment = (.error e, failed)) :
    ∃ cache back middle, caches = createdOf client caches deployment ++ cache :: back ∧
      createAll client (createdOf client caches deployment) deployment = (.ok (), middle) ∧
      middle.call client (ThinClient.create Network.peer cache) = (.error e, failed) := by
  induction caches generalizing deployment with
  | nil => cases refused
  | cons cache caches ih =>
    cases called : deployment.call client (ThinClient.create Network.peer cache) with
      | mk outcome next
    simp only [createAll, called] at refused
    simp only [createdOf, called]
    cases outcome with
    | error e' =>
      cases refused
      exact ⟨cache, caches, deployment, rfl, rfl, called⟩
    | ok done =>
      obtain ⟨blamed, back, middle, split, created, told⟩ := ih refused
      refine ⟨blamed, back, middle, congrArg (cache :: ·) split, ?_, told⟩
      simp only [createAll, called]
      exact created

/-- If an instance holds the caches that were created before, it holds afterwards those that are
created too, and all names are different. -/
theorem holds_createAll {number : Nat} {known : ThinClient Connection}
    (connected : known.ConnectedTo number) {clients : List (ThinClient Connection)}
    (listed : clients[client]? = some known) {network : Network} {before : List CacheDefinition}
    (distinct : (before.map (·.name)).Nodup) (holds : network.Holds number (.ofCaches before))
    {caches : List CacheDefinition} (fit : ∀ cache ∈ caches, (Request.createCache cache).Fits) :
    ∃ network', (createAll client caches ⟨network, clients⟩).2 = ⟨network', clients⟩ ∧
      ((before ++ createdOf client caches ⟨network, clients⟩).map (·.name)).Nodup ∧
      network'.Holds number (.ofCaches (before ++ createdOf client caches ⟨network, clients⟩)) := by
  induction caches generalizing network before with
  | nil =>
    have same : before ++ createdOf client [] ⟨network, clients⟩ = before := List.append_nil before
    rw [same]
    exact ⟨network, rfl, distinct, holds⟩
  | cons cache caches ih =>
    have names : ∀ name, name ∈ (Registry.ofCaches before).names ↔ name ∈ before.map (·.name) := by
      intro name
      have perm := (Registry.entries_ofCaches_perm distinct).map Prod.fst
      rw [Registry.names_map_entry] at perm
      exact perm.mem_iff
    obtain ⟨network', called, holds'⟩ := connected.create holds (fit cache List.mem_cons_self)
    have rest : ∀ other ∈ caches, (Request.createCache other).Fits :=
      fun other mem => fit other (List.mem_cons_of_mem cache mem)
    by_cases taken : cache.name ∈ (Registry.ofCaches before).names
    · rw [Registry.apply_create_of_taken taken] at called holds'
      have refused := Deployment.call_of_known listed called
      simp only [createAll, createdOf, refused, List.append_nil]
      exact ⟨network', rfl, distinct, holds'⟩
    · rw [Registry.apply_create_of_new taken] at called holds'
      have made := Deployment.call_of_known listed called
      have inserted : (Registry.ofCaches before).insert cache.name cache =
          Registry.ofCaches (before ++ [cache]) := by
        rw [Registry.ofCaches_eq_foldl, Registry.ofCaches_eq_foldl, List.foldl_append]
        rfl
      have apart : ((before ++ [cache]).map (·.name)).Nodup := by
        rw [List.map_append]
        refine List.nodup_append.mpr ⟨distinct, List.pairwise_singleton _ _, ?_⟩
        intro name old other new same
        rw [List.map_singleton, List.mem_singleton] at new
        exact taken ((names cache.name).mpr (new ▸ same ▸ old))
      rw [inserted] at holds'
      have later := ih apart holds' rest
      simp only [createAll, createdOf, made]
      rw [List.append_assoc] at later
      exact later

end Session

end GridSchema
