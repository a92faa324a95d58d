import Mathlib.Data.List.Nodup
import GridSchema.Proofs.Options.Argument

/-! Maps of properties. A map has no order, but the one in which its entries are listed decides which
value a property gets, if the map has a value for each of its two keys. What is left of the map does
not depend on it. -/

namespace GridSchema

def Property.assigned? (entry : String × String) : Option Argument :=
  (parse? entry.1).map fun property => .property property entry.2

theorem Property.assigned?_eq_some_iff {property : Property} {entry : String × String}
    {value : String} :
    assigned? entry = some (.property property value) ↔
      entry.1 ∈ property.keys ∧ entry.2 = value := by
  unfold assigned?
  rw [Option.map_eq_some_iff, ← parse?_eq_some_iff]
  constructor
  · rintro ⟨other, read, same⟩
    cases same
    exact ⟨read, rfl⟩
  · rintro ⟨read, rfl⟩
    exact ⟨property, read, rfl⟩

theorem Property.lastAssigned?_eq_some_iff (property : Property)
    {entries : List (String × String)} {value : String} :
    property.lastValue? (entries.filterMap assigned?) = some value ↔
      LastGives (fun entry given => entry.1 ∈ property.keys ∧ entry.2 = given) entries value :=
  property.lastValue?_filterMap_eq_some_iff fun _ _ => assigned?_eq_some_iff

theorem Property.lastAssigned?_eq_none_iff (property : Property)
    {entries : List (String × String)} :
    property.lastValue? (entries.filterMap assigned?) = none ↔
      ∀ entry ∈ entries, entry.1 ∉ property.keys := by
  rw [property.lastValue?_filterMap_eq_none_iff fun _ _ => assigned?_eq_some_iff]
  simp

/-- A map of properties switches no flag on. -/
theorem Property.not_flag_mem_assigned (entries : List (String × String)) (flag : Flag) :
    (entries.filterMap assigned?).contains (.flag flag) = false := by
  rw [Bool.eq_false_iff, ne_eq, List.contains_iff_mem, List.mem_filterMap]
  rintro ⟨entry, -, asks⟩
  unfold assigned? at asks
  obtain ⟨property, -, same⟩ := Option.map_eq_some_iff.mp asks
  cases same

namespace SnapshotOptions

variable {options : SnapshotOptions} {entries order other : List (String × String)}

theorem applyProperties_eq (options : SnapshotOptions) (entries : List (String × String)) :
    options.applyProperties entries =
      (options.applyAll (entries.filterMap Property.assigned?),
        entries.filter fun entry => (Property.parse? entry.1).isNone) := by
  unfold applyProperties
  refine Prod.ext ?_ rfl
  change List.foldl _ options entries = _
  induction entries generalizing options with
  | nil => rfl
  | cons entry entries ih =>
    rw [List.foldl_cons, ih]
    cases read : Property.parse? entry.1 <;>
      simp [Property.assigned?, read, applyAll, applyArgument]

/-- Whether no property is given two values, one by each of its keys. -/
def Agree (entries : List (String × String)) : Prop :=
  ∀ property : Property, ∀ bare qualified, (property.key, bare) ∈ entries →
    (Property.domain ++ property.key, qualified) ∈ entries → bare = qualified

section distinct

variable (distinct : (entries.map (·.1)).Nodup)
include distinct

theorem eq_of_mem_of_key {key one another : String} (here : (key, one) ∈ entries)
    (there : (key, another) ∈ entries) : one = another := by
  have same := List.inj_on_of_nodup_map distinct here there rfl
  exact congrArg Prod.snd same

theorem Agree.eq_of_mem (agree : Agree entries) {property : Property}
    {entry another : String × String} (here : entry ∈ entries) (there : another ∈ entries)
    (named : entry.1 ∈ property.keys) (named' : another.1 ∈ property.keys) :
    entry.2 = another.2 := by
  obtain ⟨key, value⟩ := entry
  obtain ⟨key', value'⟩ := another
  simp only [Property.keys, List.mem_cons, List.not_mem_nil, or_false] at named named'
  rcases named with rfl | rfl <;> rcases named' with rfl | rfl
  · exact eq_of_mem_of_key distinct here there
  · exact agree property value value' here there
  · exact (agree property value' value there here).symm
  · exact eq_of_mem_of_key distinct here there

/-- Then any entry for a property gives it its value, whatever the order. -/
theorem Agree.lastValue?_eq_some_iff (agree : Agree entries) (perm : order.Perm entries)
    {property : Property} {value : String} :
    property.lastValue? (order.filterMap Property.assigned?) = some value ↔
      ∃ entry ∈ entries, entry.1 ∈ property.keys ∧ entry.2 = value := by
  constructor
  · intro found
    obtain ⟨before, entry, behind, split, gives, -⟩ := property.lastAssigned?_eq_some_iff.mp found
    have listed : entry ∈ order := by simp [split]
    exact ⟨entry, perm.mem_iff.mp listed, gives⟩
  · rintro ⟨entry, listed, named, rfl⟩
    cases found : property.lastValue? (order.filterMap Property.assigned?) with
    | none =>
      have silent := property.lastAssigned?_eq_none_iff.mp found
      exact absurd named (silent entry (perm.mem_iff.mpr listed))
    | some value =>
      obtain ⟨before, another, behind, split, ⟨named', rfl⟩, -⟩ :=
        property.lastAssigned?_eq_some_iff.mp found
      have listed' : another ∈ order := by simp [split]
      rw [agree.eq_of_mem distinct listed (perm.mem_iff.mp listed') named named']

theorem Agree.applyProperties_of_perm (agree : Agree entries) (perm : order.Perm entries)
    (options : SnapshotOptions) :
    (options.applyProperties order).1 = (options.applyProperties entries).1 := by
  have same (property : Property) :
      property.lastValue? (order.filterMap Property.assigned?) =
        property.lastValue? (entries.filterMap Property.assigned?) := by
    apply Option.ext
    intro value
    rw [agree.lastValue?_eq_some_iff distinct perm,
      agree.lastValue?_eq_some_iff distinct (List.Perm.refl entries)]
  simp only [applyProperties_eq, applyAll_eq, same, Property.not_flag_mem_assigned]

end distinct

/-- An order of a map in which an entry comes last. -/
def endingIn (entry : String × String) (entries : List (String × String)) :
    List (String × String) :=
  entries.erase entry ++ [entry]

theorem endingIn_perm {entry : String × String} (listed : entry ∈ entries) :
    (endingIn entry entries).Perm entries :=
  (List.perm_append_comm).trans (List.perm_cons_erase listed).symm

/-- In such an order it is that entry which counts. -/
theorem value_applyProperties_endingIn (options : SnapshotOptions) {property : Property}
    {key : String} (named : key ∈ property.keys) (value : String)
    (entries : List (String × String)) :
    (options.applyProperties (endingIn (key, value) entries)).1.value property = value := by
  have last : property.lastValue? ((endingIn (key, value) entries).filterMap Property.assigned?) =
      some value := by
    rw [property.lastAssigned?_eq_some_iff]
    exact ⟨entries.erase (key, value), (key, value), [], rfl, ⟨named, rfl⟩, nofun⟩
  rw [applyProperties_eq, value_applyAll, last, Option.getD_some]

/-- What a map of properties does in any order of its entries. The other entries are left as they
are, and of the options only the properties change: each has the value that the last entry for it
gives, or the one it had. So the options are the same for all orders if and only if no property is
given two values, one by each of its keys. -/
theorem properties_in_any_order (options : SnapshotOptions) {entries : List (String × String)}
    (distinct : (entries.map (·.1)).Nodup) :
    (∀ order, order.Perm entries →
      let (after, left) := options.applyProperties order
      ((left.map (·.1)).Nodup ∧ ∀ entry, entry ∈ left ↔
        entry ∈ entries ∧ ∀ property : Property, entry.1 ∉ property.keys) ∧
      (after.degrade = options.degrade ∧ after.full = options.full ∧
        after.caches = options.caches) ∧
      (∀ property value,
        LastGives (fun entry given => entry.1 ∈ property.keys ∧ entry.2 = given) order value →
        after.value property = value) ∧
      ∀ property, (∀ entry ∈ entries, entry.1 ∉ property.keys) →
        after.value property = options.value property) ∧
    ((∀ one another, one.Perm entries → another.Perm entries →
        (options.applyProperties one).1 = (options.applyProperties another).1) ↔
      ∀ property : Property, ∀ bare qualified, (property.key, bare) ∈ entries →
        (Property.domain ++ property.key, qualified) ∈ entries → bare = qualified) := by
  constructor
  · intro order perm
    have known (entry : String × String) :
        entry ∈ (order.filter fun entry => (Property.parse? entry.1).isNone) ↔
          entry ∈ entries ∧ ∀ property : Property, entry.1 ∉ property.keys := by
      rw [List.mem_filter, perm.mem_iff]
      simp only [Option.isNone_iff_eq_none, Option.eq_none_iff_forall_ne_some, ne_eq,
        Property.parse?_eq_some_iff]
    have apart : (order.map (·.1)).Nodup := (perm.map _).nodup_iff.mpr distinct
    rw [applyProperties_eq]
    refine ⟨⟨?_, known⟩, ?_, ?_, ?_⟩
    · exact apart.sublist (List.filter_sublist.map _)
    · simp only [applyAll_eq, Property.not_flag_mem_assigned, Bool.or_false, and_self]
    · intro property value last
      have found := property.lastAssigned?_eq_some_iff.mpr last
      rw [value_applyAll, found, Option.getD_some]
    · intro property silent
      have missing := property.lastAssigned?_eq_none_iff.mpr
        fun entry listed => silent entry (perm.mem_iff.mp listed)
      rw [value_applyAll, missing, Option.getD_none]
  · constructor
    · intro same property bare qualified here there
      have own : property.key ∈ property.keys := by simp [Property.keys]
      have inDomain : Property.domain ++ property.key ∈ property.keys := by simp [Property.keys]
      have first := options.value_applyProperties_endingIn own bare entries
      have second := options.value_applyProperties_endingIn inDomain qualified entries
      rw [same _ _ (endingIn_perm here) (endingIn_perm there), second] at first
      exact first.symm
    · intro agree one another perm perm'
      have left := Agree.applyProperties_of_perm distinct agree perm options
      have right := Agree.applyProperties_of_perm distinct agree perm' options
      exact left.trans right.symm

theorem properties_in_any_order_agreeing :
    let entries := [("flyway.snapshot.dir", "out"), ("snapshot.dir", "out"), ("flyway.url", "u")]
    (entries.map (·.1)).Nodup ∧
      ∀ one another, one.Perm entries → another.Perm entries →
        (SnapshotOptions.default.applyProperties one).1 =
          (SnapshotOptions.default.applyProperties another).1 := by
  intro entries
  have distinct : (entries.map (·.1)).Nodup := by decide
  refine ⟨distinct, (properties_in_any_order .default distinct).2.mpr ?_⟩
  intro property bare qualified here there
  cases property with
  | name =>
    have values : ∀ entry ∈ entries, entry.1 ≠ Property.name.key := by decide
    exact absurd rfl (values _ here)
  | dir =>
    have values : ∀ entry ∈ entries, entry.1 ∈ Property.dir.keys → entry.2 = "out" := by decide
    have own : Property.dir.key ∈ Property.dir.keys := by decide
    have inDomain : Property.domain ++ Property.dir.key ∈ Property.dir.keys := by decide
    exact (values _ here own).trans (values _ there inDomain).symm

/-- Properties as they are set for migrations, with a name for snapshots under each of its keys. -/
def crowdedProperties : List (String × String) :=
  [("flyway.baselineOnMigrate", "false"), ("flyway.baselineVersion", "1"),
    ("flyway.batch", "false"), ("flyway.cleanDisabled", "true"), ("flyway.connectRetries", "3"),
    ("flyway.encoding", "UTF-8"), ("flyway.group", "false"), ("flyway.installedBy", "ci"),
    ("flyway.locations", "sql"), ("flyway.mixed", "false"), ("flyway.outOfOrder", "false"),
    ("flyway.schemas", "PUBLIC"), ("flyway.snapshot.name", "weekly"), ("snapshot.name", "nightly")]

/-- The name that comes last is taken. -/
theorem properties_order_matters :
    let other := endingIn ("flyway.snapshot.name", "weekly") crowdedProperties
    (crowdedProperties.map (·.1)).Nodup ∧ other.Perm crowdedProperties ∧
      (SnapshotOptions.default.applyProperties crowdedProperties).1.name = "nightly" ∧
      (SnapshotOptions.default.applyProperties other).1.name = "weekly" := by
  refine ⟨by decide, endingIn_perm (by decide), by decide, by decide⟩

end SnapshotOptions

end GridSchema
