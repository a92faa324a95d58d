import GridSchema.Proofs.Catalog.Lookup
import GridSchema.Proofs.Network.Moments

/-! Clients of an instance that look up schemas and tables, one question after another, while others
act. If the caches stay as they are, a look-up finds exactly what they have. If others change them,
it ends in an error when a cache is gone that was listed before, and tells else what each cache has
when it is asked for. -/

namespace GridSchema

open Catalog (AllFound Told allFound_names told_exposes_iff)

/-- The other end of a connection, if others act on the network before each exchange. -/
def Peer.amid (peer : Peer κ Network) (others : Nat → List Activity) : Peer κ (Nat × Network) where
  exchange bytes state := fun (k, network) =>
    let (answer, state, network) := peer.exchange bytes state (network.meanwhile (others k))
    (answer, state, k + 1, network)

namespace ThinClient

/-! ### The schema of a client -/

def afterChanges (client : ThinClient κ) (changes : List String) : ThinClient κ :=
  changes.foldl (fun client name => (client.changeSchema name).2) client

variable {κ : Type}

theorem changeSchema_of_blank (client : ThinClient κ) {name : String}
    (blank : Text.blank name = true) :
    client.changeSchema name = (.error (.config .emptySchema), client) := by
  rw [changeSchema, if_pos blank]

theorem changeSchema_of_not_blank (client : ThinClient κ) {name : String}
    (named : Text.blank name = false) :
    client.changeSchema name = (.ok (), { client with schema := name }) := by
  rw [changeSchema, named]
  rfl

/-- Changes of the schema leave the connection alone. The last that was not blank counts. -/
theorem afterChanges_eq (client : ThinClient κ) (changes : List String) :
    client.afterChanges changes =
      { client with
        schema := (changes.filter fun name => !Text.blank name).getLast?.getD client.schema } := by
  induction changes generalizing client with
  | nil => rfl
  | cons name changes ih =>
    have next : client.afterChanges (name :: changes) =
        (client.changeSchema name).2.afterChanges changes := rfl
    rw [next, ih]
    cases blank : Text.blank name with
    | true => simp [changeSchema_of_blank client blank, blank]
    | false => simp [changeSchema_of_not_blank client blank, blank, List.getLast?_cons]

/-! ### Questions among what others do -/

section amid

variable {client : ThinClient Connection} {number : Nat} {network : Network}

theorem ConnectedTo.afterChanges (connected : client.ConnectedTo number) (changes : List String) :
    (client.afterChanges changes).ConnectedTo number := by
  rw [afterChanges_eq]
  exact connected

/-- A question comes to the network that others have left, and counts as one more. -/
theorem ConnectedTo.ask_amid {α : Type} (connected : client.ConnectedTo number)
    {peer : Peer Connection Network} {others : Nat → List Activity} {request : Request}
    {expected? : Response → Option α} {k : Nat} {result : Except Error α}
    {client' : ThinClient Connection} {network' : Network}
    (asked : ask peer request expected? (client, network.meanwhile (others k)) =
      (result, client', network')) :
    ask (peer.amid others) request expected? (client, k, network) =
      (result, client', k + 1, network') := by
  obtain ⟨_, endpoint, user, schema⟩ := client
  obtain rfl := connected
  rcases exchanged : peer.exchange (Wire.frame request.toJson) ⟨number, true⟩
    (network.meanwhile (others k)) with ⟨bytes, remote, rest⟩
  simp only [ask, ThinClient.request, Peer.amid, exchanged] at asked ⊢
  generalize (Wire.readFrame Wire.maxFrame Response.ofJson? ([] ++ bytes)).1 = frame at asked ⊢
  cases frame <;> cases asked <;> rfl

variable (connected : client.ConnectedTo number) (isOpen : network.IsOpen number)
  {others : Nat → List Activity} (spared : ∀ k, .event (.close number) ∉ others k)
include connected isOpen spared

theorem ConnectedTo.listed_amid
    (answered : (Response.cacheNames (network.registryAt others number 0).names).Fits) :
    (catalog (Network.peer.amid others)).names (client, 0, network) =
      (.ok (network.registryAt others number 0).names, client, 1, network.moment others 0) := by
  change ask (Network.peer.amid others) .cacheNames _ (client, 0, network) = _
  refine connected.ask_amid ?_
  exact connected.names (isOpen.moment spared 0) answered

theorem ConnectedTo.answeredFrom_amid {names : List String}
    (fit : ∀ k name, names[k]? = some name → (Request.cacheConfiguration name).Fits ∧
      ((network.registryAt others number (k + 1)).answer (.cacheConfiguration name)).Fits) :
    (catalog (Network.peer.amid others)).AnsweredFrom
      (fun k => network.registryAt others number (k + 1))
      (fun k => (client, k + 1, network.moment others k)) names := by
  intro k name place
  obtain ⟨asked, answered⟩ := fit k name place
  change ask (Network.peer.amid others) (.cacheConfiguration name) _
    (client, k + 1, network.moment others k) = _
  refine connected.ask_amid ?_
  exact connected.definition (isOpen.moment spared (k + 1)) asked answered

end amid

/-! ### Look-ups while the caches stay as they are -/

section

variable {number : Nat} {network : Network} {others : Nat → List Activity}

/-- Asked of an instance whose caches stay as they are, a look-up finds exactly what they have,
whatever changes of the client's schema came before. The tables of a schema are in order, each once.
Schemas whose names differ only in case have the same tables. A table is found in whatever case it
is asked for, if it is in the schema that the client changed to last, or in the default one. A blank
schema is refused and changes nothing. -/
theorem lookups_exact (endpoint : Endpoint) (user : String) (isOpen : network.IsOpen number)
    (spared : ∀ k, .event (.close number) ∉ others k) {registry : Registry}
    (unchanged : ∀ k ≤ registry.names.length, network.registryAt others number k = registry)
    (listing : (Response.cacheNames registry.names).Fits)
    (fit : ∀ name ∈ registry.names, (Request.cacheConfiguration name).Fits ∧
      (registry.answer (.cacheConfiguration name)).Fits) (changes : List String) :
    let peer := Network.peer.amid others
    let client := (connected endpoint user ⟨number, true⟩).afterChanges changes
    let left := (client, registry.names.length + 1, network.moment others registry.names.length)
    (∀ name, ∃ tables,
      (catalog peer).schema name (client, 0, network) = (.ok ⟨name, tables⟩, left) ∧
        tables.Pairwise (· < ·) ∧ (∀ table, table ∈ tables ↔ registry.Exposes name table) ∧
        ∀ other, Text.SameButCase name other →
          (catalog peer).schema other (client, 0, network) = (.ok ⟨other, tables⟩, left)) ∧
    (∀ table, ∃ answer, hasTable peer table (client, 0, network) = (.ok answer, left) ∧
      (answer = true ↔
        ∃ made, registry.Exposes client.schema made ∧ Text.SameButCase made table)) ∧
    client.schema = (changes.filter fun name => !Text.blank name).getLast?.getD "PUBLIC" ∧
    ∀ name, Text.blank name = true →
      client.changeSchema name = (.error (.config .emptySchema), client) := by
  intro peer client left
  have fresh : (connected endpoint user ⟨number, true⟩).ConnectedTo number := rfl
  have attached : client.ConnectedTo number := fresh.afterChanges changes
  have first : network.registryAt others number 0 = registry := unchanged 0 (Nat.zero_le _)
  have listed : (catalog peer).names (client, 0, network) =
      (.ok registry.names, client, 1, network.moment others 0) :=
    first ▸ attached.listed_amid isOpen spared (first.symm ▸ listing)
  have answered : (catalog peer).AnsweredFrom (fun _ => registry)
      (fun k => (client, k + 1, network.moment others k)) registry.names := by
    refine (attached.answeredFrom_amid isOpen spared fun k name place => ?_).congr fun k inside =>
      unchanged (k + 1) inside
    obtain ⟨inside, -⟩ := List.getElem?_eq_some_iff.mp place
    rw [unchanged (k + 1) inside]
    exact fit name (List.mem_of_getElem? place)
  obtain ⟨caches, known, found⟩ := answered.schema_of_found listed (allFound_names registry)
  refine ⟨fun name => ?_, fun table => ?_, ?_, ?_⟩
  · refine ⟨(SchemaTables.ofCaches name caches).tables, (found name).1,
      SchemaTables.tables_increasing name caches, fun table => ?_, fun other same => ?_⟩
    · rw [SchemaTables.mem_tables_iff]
      simp only [known, told_exposes_iff]
    · rw [SchemaTables.tables_congr same]
      exact (found other).1
  · refine ⟨_, (found client.schema).2 table, ?_⟩
    rw [SchemaTables.has_ofCaches_iff]
    simp only [known, told_exposes_iff]
  · exact congrArg ThinClient.schema (afterChanges_eq _ changes)
  · exact fun name blank => changeSchema_of_blank client blank

def shopCache : CacheDefinition :=
  { CacheDefinition.bare "shop" with
    entities := [⟨defaultKeyType, "com.example.Pet", none, none, none, [], ∅, ∅⟩,
      ⟨defaultKeyType, "Order", some "Orders", some "Sales", none, [], ∅, ∅⟩] }

theorem shopCache_exposes :
    shopCache.Exposes "Public" "PET" ∧ shopCache.Exposes "sales" "Orders" := by
  have initial : Text.SameButCase "PUBLIC" "Public" := Text.sameLetters_iff.mp (by decide)
  have sales : Text.SameButCase "Sales" "sales" := Text.sameLetters_iff.mp (by decide)
  exact ⟨⟨_, List.mem_cons_self, initial, by decide⟩,
    ⟨_, List.mem_cons_of_mem _ List.mem_cons_self, sales, rfl⟩⟩

/-- It is created before the first question. Later others ask for it too. -/
def visits : Nat → List Request
  | 0 => [.createCache shopCache]
  | _ + 1 => [.cacheConfiguration "shop"]

def visiting (k : Nat) : List Activity :=
  Network.requestsTo 0 (visits k)

theorem lookups_exact_shop : ∃ tables left,
    let peer := Network.peer.amid visiting
    let client := lone.afterChanges ["sales", " "]
    (catalog peer).schema "Public" (client, 0, .lone) = (.ok ⟨"Public", tables⟩, left) ∧
      "PET" ∈ tables ∧ hasTable peer "ORDERS" (client, 0, .lone) = (.ok true, left) ∧
      client.schema = "sales" := by
  let registry : Registry := .afterAll ∅ (visits 0)
  have fits : ∀ k, ∀ request ∈ visits k, request.Fits := by
    intro k
    simp only [Request.fits_iff]
    obtain _ | k := k
    · decide
    · change ∀ request ∈ [Request.cacheConfiguration "shop"], _
      decide
  have names : registry.names = ["shop"] := by decide
  have found : registry.find? "shop" = some shopCache := by decide
  have unchanged : ∀ k ≤ registry.names.length,
      Network.registryAt visiting .lone 0 k = registry := by
    intro k below
    have below : k ≤ 1 := Nat.le_trans below (Nat.le_of_eq (congrArg List.length names))
    refine (Network.registryAt_lone visits fits k).trans ?_
    interval_cases k <;> decide
  have sizes : (Response.cacheNames ["shop"]).Fits ∧
      (Request.cacheConfiguration "shop").Fits ∧ (Response.cacheConfiguration shopCache).Fits := by
    simp only [Request.fits_iff, Response.fits_iff]
    decide
  have fit : ∀ name ∈ registry.names, (Request.cacheConfiguration name).Fits ∧
      (registry.answer (.cacheConfiguration name)).Fits := by
    intro name mem
    obtain rfl : name = "shop" := by simpa [names] using mem
    rw [Registry.answer_cacheConfiguration_eq_iff.mpr found]
    exact sizes.2
  obtain ⟨schemas, tables, now, -⟩ := lookups_exact ⟨.loopback, 4000⟩ "user"
    Network.holds_lone.isOpen (fun k => Network.requestsTo_spares 0 (visits k)) unchanged
    (names ▸ sizes.1) fit ["sales", " "]
  obtain ⟨pets, looked, -, exactly, -⟩ := schemas "Public"
  obtain ⟨answer, asked, yes⟩ := tables "ORDERS"
  have current : (lone.afterChanges ["sales", " "]).schema = "sales" := now.trans (by decide)
  have orders : registry.Exposes (lone.afterChanges ["sales", " "]).schema "Orders" :=
    current.symm ▸ ⟨"shop", shopCache, found, shopCache_exposes.2⟩
  have same : Text.SameButCase "Orders" "ORDERS" := Text.sameLetters_iff.mp (by decide)
  obtain rfl : answer = true := yes.mpr ⟨"Orders", orders, same⟩
  have listed := (exactly "PET").mpr ⟨"shop", shopCache, found, shopCache_exposes.1⟩
  exact ⟨pets, _, looked, listed, asked, current⟩

end

/-! ### Look-ups amid changes -/

section

variable {client : ThinClient Connection} {number : Nat} (connected : client.ConnectedTo number)
  {network : Network} (isOpen : network.IsOpen number) {others : Nat → List Activity}
  (spared : ∀ k, .event (.close number) ∉ others k)
include connected isOpen spared

/-- A look-up while others create and drop caches, but do not close the instance. If each cache that
was listed is still there when it is asked for, the look-up succeeds. It tells the tables that these
caches have in the schema at those moments: all tables of each cache that stays the same from the
listing to the end, and none that no cache has at some moment. Otherwise the look-up ends in an error
at the first cache that is gone. -/
theorem lookups_amid_changes
    (listing : (Response.cacheNames (network.registryAt others number 0).names).Fits)
    (fit : ∀ k name, (network.registryAt others number 0).names[k]? = some name →
      (Request.cacheConfiguration name).Fits ∧
        ((network.registryAt others number (k + 1)).answer (.cacheConfiguration name)).Fits) :
    let peer := Network.peer.amid others
    let registry := network.registryAt others number
    let names := (registry 0).names
    let left := (client, names.length + 1, network.moment others names.length)
    (AllFound (fun k => registry (k + 1)) names →
      (∀ schema, ∃ tables,
        (catalog peer).schema schema (client, 0, network) = (.ok ⟨schema, tables⟩, left) ∧
          tables.Pairwise (· < ·) ∧
          (∀ table, table ∈ tables ↔
            ∃ cache, Told (fun k => registry (k + 1)) names cache ∧ cache.Exposes schema table) ∧
          (∀ name cache, (∀ k ≤ names.length, (registry k).find? name = some cache) →
            ∀ table, cache.Exposes schema table → table ∈ tables) ∧
          ∀ table ∈ tables, ∃ k ≤ names.length, (registry k).Exposes schema table) ∧
      ∀ table, ∃ answer, hasTable peer table (client, 0, network) = (.ok answer, left) ∧
        (answer = true ↔ ∃ made,
          (∃ cache, Told (fun k => registry (k + 1)) names cache ∧
            cache.Exposes client.schema made) ∧ Text.SameButCase made table)) ∧
    ∀ k name, names[k]? = some name → (registry (k + 1)).find? name = none →
      AllFound (fun k => registry (k + 1)) (names.take k) →
      (∀ schema, (catalog peer).schema schema (client, 0, network) =
        (.error (.cacheNotFound name), client, k + 2, network.moment others (k + 1))) ∧
      ∀ table, hasTable peer table (client, 0, network) =
        (.error (.cacheNotFound name), client, k + 2, network.moment others (k + 1)) := by
  intro peer registry names left
  have listed : (catalog peer).names (client, 0, network) =
      (.ok names, client, 1, network.moment others 0) :=
    connected.listed_amid isOpen spared listing
  have answered : (catalog peer).AnsweredFrom (fun k => registry (k + 1))
      (fun k => (client, k + 1, network.moment others k)) names :=
    connected.answeredFrom_amid isOpen spared fit
  constructor
  · intro found
    obtain ⟨caches, known, looked⟩ := answered.schema_of_found listed found
    constructor
    · intro schema
      have tables (table : String) : table ∈ (SchemaTables.ofCaches schema caches).tables ↔
          ∃ cache, Told (fun k => registry (k + 1)) names cache ∧ cache.Exposes schema table := by
        simp only [SchemaTables.mem_tables_iff, known]
      refine ⟨(SchemaTables.ofCaches schema caches).tables, (looked schema).1,
        SchemaTables.tables_increasing schema caches, tables, ?_, ?_⟩
      · intro name cache stays table exposed
        have mem : name ∈ names := by
          rw [NameMap.mem_names_iff]
          exact Option.isSome_iff_exists.mpr ⟨cache, stays 0 (Nat.zero_le _)⟩
        obtain ⟨k, inside, place⟩ := List.getElem_of_mem mem
        have asked : names[k]? = some name := List.getElem?_eq_some_iff.mpr ⟨inside, place⟩
        exact (tables table).mpr ⟨cache, ⟨k, name, asked, stays (k + 1) inside⟩, exposed⟩
      · intro table mem
        obtain ⟨cache, ⟨k, name, place, there⟩, exposed⟩ := (tables table).mp mem
        have inside : k < names.length := (List.getElem?_eq_some_iff.mp place).1
        exact ⟨k + 1, inside, name, cache, there, exposed⟩
    · intro table
      refine ⟨_, (looked client.schema).2 table, ?_⟩
      rw [SchemaTables.has_ofCaches_iff]
      simp only [known]
  · intro k name place missing before
    have refused := answered.schema_of_missing listed place missing before
    exact ⟨fun schema => (refused schema).1, (refused client.schema).2⟩

end

/-- A cache with one table in the default schema. -/
def tableCache (name table : String) : CacheDefinition :=
  { CacheDefinition.bare name with
    entities := [⟨defaultKeyType, "Row", some table, none, none, [], ∅, ∅⟩] }

theorem tableCache_exposes (name table : String) : (tableCache name table).Exposes "PUBLIC" table :=
  ⟨_, List.mem_cons_self, .refl _, rfl⟩

/-- Two caches are created before a client asks for names, and the first is dropped again, before
the client asks for it or later. -/
def departure (late : Bool) : Nat → List Request
  | 0 => [.createCache (tableCache "a" "A"), .createCache (tableCache "b" "B")]
  | 1 => if late then [] else [.destroyCache "a"]
  | 2 => if late then [.destroyCache "a"] else []
  | _ => []

def departing (late : Bool) (k : Nat) : List Activity :=
  Network.requestsTo 0 (departure late k)

/-- The registry while the client asks. -/
def departed (late : Bool) (k : Nat) : Registry :=
  Network.registryAt (departing late) .lone 0 k

theorem departed_eq (late : Bool) (k : Nat) :
    departed late k = Registry.afterAll ∅ ((List.range (k + 1)).flatMap (departure late)) := by
  have fits : ∀ k, ∀ request ∈ departure late k, request.Fits := by
    intro k
    simp only [Request.fits_iff]
    obtain _ | _ | _ | k := k
    · cases late <;> decide
    · cases late <;> decide
    · cases late <;> decide
    · exact nofun
  exact Network.registryAt_lone (departure late) fits k

theorem names_departed (late : Bool) : (departed late 0).names = ["a", "b"] := by
  rw [departed_eq]
  cases late <;> decide

theorem listed_departed (late : Bool) : (departed late 0).names[0]? = some "a" := by
  rw [names_departed]
  rfl

theorem find?_departed_first (late : Bool) :
    (departed late 1).find? "a" = if late then some (tableCache "a" "A") else none := by
  rw [departed_eq]
  cases late <;> decide

theorem find?_departed_second (late : Bool) :
    ∀ k ≤ 2, (departed late k).find? "b" = some (tableCache "b" "B") := by
  simp only [departed_eq]
  cases late <;> decide

theorem fits_departed (late : Bool) :
    (Response.cacheNames (departed late 0).names).Fits ∧
      ∀ k name, (departed late 0).names[k]? = some name → (Request.cacheConfiguration name).Fits ∧
        ((departed late (k + 1)).answer (.cacheConfiguration name)).Fits := by
  have sizes : (Response.cacheNames ["a", "b"]).Fits ∧ (Request.cacheConfiguration "a").Fits ∧
      (Request.cacheConfiguration "b").Fits ∧ (Response.failure .cacheNotFound "a").Fits ∧
      (Response.cacheConfiguration (tableCache "a" "A")).Fits ∧
      (Response.cacheConfiguration (tableCache "b" "B")).Fits := by
    simp only [Request.fits_iff, Response.fits_iff]
    decide
  obtain ⟨listing, askA, askB, gone, first, second⟩ := sizes
  rw [names_departed]
  refine ⟨listing, fun k name listed => ?_⟩
  obtain _ | _ | k := k
  · cases listed
    refine ⟨askA, ?_⟩
    rw [Registry.answer, Registry.definition, find?_departed_first]
    cases late with
    | true => exact first
    | false => exact gone
  · cases listed
    refine ⟨askB, ?_⟩
    rw [Registry.answer, Registry.definition, find?_departed_second late 2 le_rfl]
    exact second
  · cases listed

theorem departing_spares (late : Bool) (k : Nat) : .event (.close 0) ∉ departing late k :=
  Network.requestsTo_spares 0 (departure late k)

theorem lookups_amid_changes_departing :
    (∃ tables left, (catalog (Network.peer.amid (departing true))).schema "PUBLIC"
        (.lone, 0, .lone) = (.ok ⟨"PUBLIC", tables⟩, left) ∧ "A" ∈ tables ∧ "B" ∈ tables) ∧
      ∃ left, (catalog (Network.peer.amid (departing false))).schema "PUBLIC" (.lone, 0, .lone) =
        (.error (.cacheNotFound "a"), left) := by
  have isOpen := Network.holds_lone.isOpen
  constructor
  · have found : AllFound (fun k => departed true (k + 1)) (departed true 0).names := by
      rw [names_departed]
      intro k name listed
      obtain _ | _ | k := k
      · cases listed
        exact ⟨_, find?_departed_first true⟩
      · cases listed
        exact ⟨_, find?_departed_second true 2 le_rfl⟩
      · cases listed
    obtain ⟨schemas, -⟩ := (lookups_amid_changes connectedTo_lone isOpen (departing_spares true)
      (fits_departed true).1 (fits_departed true).2).1 found
    obtain ⟨tables, told, -, exactly, kept, -⟩ := schemas "PUBLIC"
    have first : "A" ∈ tables :=
      (exactly "A").mpr
        ⟨_, ⟨0, "a", listed_departed true, find?_departed_first true⟩, tableCache_exposes ..⟩
    have length : (departed true 0).names.length = 2 := congrArg List.length (names_departed true)
    have stays : ∀ k ≤ (departed true 0).names.length, (departed true k).find? "b" =
        some (tableCache "b" "B") := length ▸ find?_departed_second true
    exact ⟨tables, _, told, first, kept "b" _ stays "B" (tableCache_exposes ..)⟩
  · have failed := (lookups_amid_changes connectedTo_lone isOpen (departing_spares false)
      (fits_departed false).1 (fits_departed false).2).2
    have refused := failed 0 "a" (listed_departed false) (find?_departed_first false) nofun
    exact ⟨_, refused.1 "PUBLIC"⟩

/-- A cache that is dropped between the listing and the question for it makes the look-up fail,
though another cache keeps its table from the beginning to the end. -/
theorem lookup_fails_amid_changes :
    (∀ k, .event (.close 0) ∉ departing false k) ∧
      (∀ k ≤ 2, (Network.registryAt (departing false) .lone 0 k).find? "b" =
        some (tableCache "b" "B")) ∧
      (tableCache "b" "B").Exposes "PUBLIC" "B" ∧
      ((catalog (Network.peer.amid (departing false))).schema "PUBLIC" (.lone, 0, .lone)).1 =
        .error (.cacheNotFound "a") ∧
      (hasTable (Network.peer.amid (departing false)) "B" (.lone, 0, .lone)).1 =
        .error (.cacheNotFound "a") := by
  refine ⟨departing_spares false, find?_departed_second false, tableCache_exposes "b" "B", ?_⟩
  have isOpen := Network.holds_lone.isOpen
  have listed := connectedTo_lone.listed_amid isOpen (departing_spares false) (fits_departed false).1
  have answered := connectedTo_lone.answeredFrom_amid isOpen (departing_spares false)
    (fits_departed false).2
  obtain ⟨schema, table⟩ := answered.schema_of_missing listed (listed_departed false)
    (find?_departed_first false) nofun "PUBLIC"
  refine ⟨by rw [schema], ?_⟩
  have asked : hasTable (Network.peer.amid (departing false)) "B" (.lone, 0, .lone) = _ := table "B"
  rw [asked]

end ThinClient

end GridSchema
