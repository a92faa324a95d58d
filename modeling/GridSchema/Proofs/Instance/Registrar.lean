import GridSchema.Instance.Grid
import GridSchema.Proofs.Data.NameMap
import Mathlib.Logic.Function.Basic

/-! What changes do to a registry one after the other, and what a registrar knows of those who wait
for them. -/

namespace GridSchema

/-! ### Registries -/

/-- The name that a change is about. -/
def CacheChange.name : CacheChange → String
  | create cache => cache.name
  | destroy name => name

def CacheDefinition.bare (name : String) : CacheDefinition :=
  ⟨name, none, none, defaultParallelism, defaultBackups, none, defaultWriteSync, []⟩

abbrev KnownCaches := String → Option CacheDefinition

namespace KnownCaches

def none : KnownCaches := fun _ => .none

/-- The outcome of a change: a name that is known cannot be created, and one that is not cannot be
destroyed. -/
def outcome (known : KnownCaches) : CacheChange → Except Error Unit
  | .create cache => if (known cache.name).isSome then .error (.cacheExists cache.name) else .ok ()
  | .destroy name => if (known name).isSome then .ok () else .error (.cacheNotFound name)

def make (known : KnownCaches) : CacheChange → KnownCaches
  | .create cache =>
    if (known cache.name).isSome then known else Function.update known cache.name (some cache)
  | .destroy name => if (known name).isSome then Function.update known name .none else known

def makeAll (changes : List CacheChange) : KnownCaches :=
  changes.foldl make none

end KnownCaches

namespace Registry

variable {registry : Registry}

def Named (registry : Registry) : Prop :=
  ∀ entry ∈ registry.entries, entry.2.name = entry.1

theorem named_empty : Named ∅ := fun _ h => nomatch h

/-- A change succeeds, or fails because of the name that it is about and changes nothing. -/
theorem apply_cases (registry : Registry) (change : CacheChange) :
    (registry.apply change).1 = .ok () ∨
      ((registry.apply change).1 = .error (.cacheExists change.name) ∨
        (registry.apply change).1 = .error (.cacheNotFound change.name)) ∧
      (registry.apply change).2 = registry := by
  cases change with
  | create cache =>
    simp only [apply, CacheChange.name]
    split_ifs
    · exact .inr ⟨.inl rfl, rfl⟩
    · exact .inl rfl
  | destroy name =>
    simp only [apply, CacheChange.name]
    split_ifs
    · exact .inl rfl
    · exact .inr ⟨.inr rfl, rfl⟩

theorem named_apply (named : registry.Named) (change : CacheChange) :
    (registry.apply change).2.Named := by
  cases change with
  | create cache =>
    simp only [apply]
    split_ifs
    · exact named
    · intro entry h
      rcases NameMap.mem_insertEntry h with rfl | h
      · rfl
      · exact named entry h
  | destroy name =>
    simp only [apply]
    split_ifs
    · exact fun entry h => named entry (List.mem_filter.mp h).1
    · exact named

/-- A change has the outcome that it should have with the caches there are. -/
theorem fst_apply (registry : Registry) (change : CacheChange) :
    (registry.apply change).1 = KnownCaches.outcome registry.find? change := by
  cases change with
  | create cache =>
    cases found : registry.find? cache.name <;>
      simp [apply, NameMap.contains, KnownCaches.outcome, found]
  | destroy name =>
    cases found : registry.find? name <;>
      simp [apply, NameMap.contains, KnownCaches.outcome, found]

theorem find?_apply (registry : Registry) (change : CacheChange) :
    (registry.apply change).2.find? = KnownCaches.make registry.find? change := by
  funext other
  cases change with
  | create cache =>
    cases found : registry.find? cache.name <;>
      simp [apply, NameMap.contains, KnownCaches.make, found, NameMap.find?_insert,
        Function.update_apply]
  | destroy name =>
    cases found : registry.find? name <;>
      simp [apply, NameMap.contains, KnownCaches.make, found, NameMap.find?_erase,
        Function.update_apply]

def replay (changes : List CacheChange) : Registry :=
  changes.foldl (fun registry change => (registry.apply change).2) ∅

theorem replay_concat (changes : List CacheChange) (change : CacheChange) :
    replay (changes ++ [change]) = ((replay changes).apply change).2 := by
  simp only [replay, List.foldl_append, List.foldl_cons, List.foldl_nil]

theorem find?_replay (changes : List CacheChange) :
    (replay changes).find? = KnownCaches.makeAll changes :=
  (List.foldl_hom NameMap.find? fun registry change => (find?_apply registry change).symm).symm

theorem named_replay (changes : List CacheChange) : (replay changes).Named := by
  have keeps (registry : Registry) (named : registry.Named) :
      Named (changes.foldl (fun registry change => (registry.apply change).2) registry) := by
    induction changes generalizing registry with
    | nil => exact named
    | cons change rest ih => exact ih _ (named_apply named change)
  exact keeps ∅ named_empty

end Registry

/-! ### Those who wait -/

namespace Registrar

variable {registrar : Registrar} {id : Nat}

theorem lookup_note (id other : Nat) (outcome : Except Error Unit) (registrar : Registrar) :
    (registrar.note id outcome).pending.lookup other =
      if other = id then (registrar.pending.lookup id).map fun _ => some outcome
      else registrar.pending.lookup other :=
  lookup_map_value registrar.pending id other (some outcome)

theorem lookup_forget (id other : Nat) (registrar : Registrar) :
    (registrar.forget id).pending.lookup other =
      if other = id then none else registrar.pending.lookup other :=
  lookup_filter_ne registrar.pending id other

/-- A caller whose change was made is released with its outcome. -/
theorem release_of_lookup {outcome : Except Error Unit}
    (noted : registrar.pending.lookup id = some (some outcome)) :
    registrar.release id =
      { registrar.forget id with released := registrar.released ++ [(id, outcome)] } := by
  simp only [release, noted, Option.getD_some]

end Registrar

end GridSchema
