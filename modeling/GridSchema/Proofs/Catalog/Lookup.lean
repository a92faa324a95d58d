import GridSchema.Instance.Change
import GridSchema.Proofs.Catalog.Schema

/-! Asking for the tables of a schema, name by name, where each answer comes from a registry. That
may be another one at each question. The answers make a schema if every listed cache is still there
when it is asked for. The first that is gone ends the questions. -/

namespace GridSchema

/-- Some cache of a registry has a table in a schema. -/
def Registry.Exposes (registry : Registry) (schema table : String) : Prop :=
  ∃ name cache, registry.find? name = some cache ∧ cache.Exposes schema table

namespace Catalog

variable {ω : Type} {registries : Nat → Registry} {names : List String}

/-- The caches that are told to someone who asks for names, one registry answering each. -/
def Told (registries : Nat → Registry) (names : List String) (cache : CacheDefinition) : Prop :=
  ∃ k name, names[k]? = some name ∧ (registries k).find? name = some cache

theorem not_told_nil {cache : CacheDefinition} : ¬ Told registries [] cache := by
  rintro ⟨k, name, listed, -⟩
  cases listed

theorem told_cons {name : String} {cache : CacheDefinition} :
    Told registries (name :: names) cache ↔
      (registries 0).find? name = some cache ∨ Told (fun k => registries (k + 1)) names cache := by
  constructor
  · rintro ⟨_ | k, other, listed, found⟩
    · cases listed
      exact .inl found
    · exact .inr ⟨k, other, listed, found⟩
  · rintro (found | ⟨k, other, listed, found⟩)
    · exact ⟨0, name, rfl, found⟩
    · exact ⟨k + 1, other, listed, found⟩

/-- Someone who asks for all the names of a registry that stays the same is told all its caches. -/
theorem told_names_iff {registry : Registry} {cache : CacheDefinition} :
    Told (fun _ => registry) registry.names cache ↔ ∃ name, registry.find? name = some cache := by
  constructor
  · rintro ⟨k, name, -, found⟩
    exact ⟨name, found⟩
  · rintro ⟨name, found⟩
    have mem : name ∈ registry.names := by
      rw [NameMap.mem_names_iff, found]
      rfl
    obtain ⟨k, listed⟩ := List.mem_iff_getElem?.mp mem
    exact ⟨k, name, listed, found⟩

theorem told_exposes_iff {registry : Registry} {schema table : String} :
    (∃ cache, Told (fun _ => registry) registry.names cache ∧ cache.Exposes schema table) ↔
      registry.Exposes schema table := by
  simp only [told_names_iff, Registry.Exposes]
  exact ⟨fun ⟨cache, ⟨name, found⟩, exposed⟩ => ⟨name, cache, found, exposed⟩,
    fun ⟨name, cache, found, exposed⟩ => ⟨cache, ⟨name, found⟩, exposed⟩⟩

/-- Whether questions for names, one after the other, are answered from registries: the question in
a place is put in the world of that number and leads to the next one. -/
def AnsweredFrom (catalog : Catalog ω) (registries : Nat → Registry) (worlds : Nat → ω)
    (names : List String) : Prop :=
  ∀ k name, names[k]? = some name →
    catalog.definition name (worlds k) = ((registries k).definition name, worlds (k + 1))

/-- Whether each cache is in the registry that is asked for it. -/
def AllFound (registries : Nat → Registry) (names : List String) : Prop :=
  ∀ k name, names[k]? = some name → ∃ cache, (registries k).find? name = some cache

theorem allFound_names (registry : Registry) : AllFound (fun _ => registry) registry.names := by
  intro k name listed
  have mem := NameMap.mem_names_iff.mp (List.mem_of_getElem? listed)
  exact Option.isSome_iff_exists.mp mem

variable {catalog : Catalog ω} {worlds : Nat → ω}

theorem AnsweredFrom.congr {others : Nat → Registry}
    (answered : catalog.AnsweredFrom registries worlds names)
    (same : ∀ k < names.length, registries k = others k) :
    catalog.AnsweredFrom others worlds names := by
  intro k name listed
  have inside : k < names.length := (List.getElem?_eq_some_iff.mp listed).1
  rw [← same k inside]
  exact answered k name listed

theorem AnsweredFrom.tail {name : String}
    (answered : catalog.AnsweredFrom registries worlds (name :: names)) :
    catalog.AnsweredFrom (fun k => registries (k + 1)) (fun k => worlds (k + 1)) names :=
  fun k other listed => answered (k + 1) other listed

theorem definitions_cons_of_ok {name : String} {cache : CacheDefinition} {world next last : ω}
    {rest : Except Error (List CacheDefinition)}
    (asked : catalog.definition name world = (.ok cache, next))
    (told : catalog.definitions names next = (rest, last)) :
    catalog.definitions (name :: names) world = (rest.map (cache :: ·), last) := by
  simp only [definitions, asked, told]

theorem AnsweredFrom.definitions_of_found (answered : catalog.AnsweredFrom registries worlds names)
    (found : AllFound registries names) :
    ∃ caches, catalog.definitions names (worlds 0) = (.ok caches, worlds names.length) ∧
      ∀ cache, cache ∈ caches ↔ Told registries names cache := by
  induction names generalizing registries worlds with
  | nil =>
    refine ⟨[], rfl, fun cache => ?_⟩
    exact iff_of_false List.not_mem_nil not_told_nil
  | cons name names ih =>
    obtain ⟨first, here⟩ := found 0 name rfl
    have later : AllFound (fun k => registries (k + 1)) names :=
      fun k other listed => found (k + 1) other listed
    obtain ⟨rest, told, known⟩ := ih answered.tail later
    have asked := answered 0 name rfl
    rw [Registry.definition, here] at asked
    refine ⟨first :: rest, definitions_cons_of_ok asked told, fun cache => ?_⟩
    rw [List.mem_cons, known, told_cons, here, Option.some_inj, eq_comm]

/-- The first cache that is gone is the error, and no later one is asked for. -/
theorem AnsweredFrom.definitions_of_missing {k : Nat} {name : String}
    (answered : catalog.AnsweredFrom registries worlds names) (listed : names[k]? = some name)
    (missing : (registries k).find? name = none) (before : AllFound registries (names.take k)) :
    catalog.definitions names (worlds 0) = (.error (.cacheNotFound name), worlds (k + 1)) := by
  induction names generalizing registries worlds k with
  | nil => cases listed
  | cons head names ih =>
    have asked := answered 0 head rfl
    cases k with
    | zero =>
      cases listed
      rw [Registry.definition, missing] at asked
      rw [definitions, asked]
    | succ k =>
      obtain ⟨first, here⟩ := before 0 head rfl
      have later : AllFound (fun k => registries (k + 1)) (names.take k) :=
        fun j other early => before (j + 1) other early
      have rest := ih answered.tail listed missing later
      rw [Registry.definition, here] at asked
      exact definitions_cons_of_ok asked rest

/-! ### Tables of a schema -/

section listed

variable {world : ω} (listed : catalog.names world = (.ok names, worlds 0))
  (answered : catalog.AnsweredFrom registries worlds names)
include listed answered

/-- What is found in a schema is what the caches have there that were told. -/
theorem AnsweredFrom.schema_of_found (found : AllFound registries names) :
    ∃ caches, (∀ cache, cache ∈ caches ↔ Told registries names cache) ∧ ∀ schema,
      catalog.schema schema world = (.ok (.ofCaches schema caches), worlds names.length) ∧
      ∀ table, catalog.hasTable schema table world =
        (.ok ((SchemaTables.ofCaches schema caches).has table), worlds names.length) := by
  obtain ⟨caches, told, known⟩ := answered.definitions_of_found found
  refine ⟨caches, known, fun schema => ?_⟩
  have looked : catalog.schema schema world =
      (.ok (.ofCaches schema caches), worlds names.length) := by
    rw [Catalog.schema, Catalog.caches, listed]
    simp only [told]
    rfl
  refine ⟨looked, fun table => ?_⟩
  rw [hasTable, looked]
  rfl

theorem AnsweredFrom.schema_of_missing {k : Nat} {name : String} (place : names[k]? = some name)
    (missing : (registries k).find? name = none) (before : AllFound registries (names.take k))
    (schema : String) :
    catalog.schema schema world = (.error (.cacheNotFound name), worlds (k + 1)) ∧
      ∀ table, catalog.hasTable schema table world =
        (.error (.cacheNotFound name), worlds (k + 1)) := by
  have refused := answered.definitions_of_missing place missing before
  have looked : catalog.schema schema world = (.error (.cacheNotFound name), worlds (k + 1)) := by
    rw [Catalog.schema, Catalog.caches, listed]
    simp only [refused]
    rfl
  refine ⟨looked, fun table => ?_⟩
  rw [hasTable, looked]
  rfl

end listed

end Catalog

end GridSchema
