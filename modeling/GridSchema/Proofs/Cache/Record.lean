import GridSchema.Proofs.Data.NameMap
import GridSchema.Proofs.Json.RoundTrip
import GridSchema.Wire.Message

/-! Cache definitions are read back from the records in which a message holds them. -/

namespace GridSchema

/-- Items that are each read back are read back in their order. -/
theorem mapM_map_eq_some {α β : Type} {read : β → Option α} {write : α → β} {items : List α}
    (back : ∀ item ∈ items, read (write item) = some item) :
    (items.map write).mapM read = some items := by
  induction items with
  | nil => rfl
  | cons item items ih =>
    rw [List.map_cons, List.mapM_cons, back item List.mem_cons_self,
      ih fun i h => back i (List.mem_cons_of_mem _ h)]
    rfl

/-! ### Fields of a record -/

namespace Reader

variable {ν : Type}

@[simp] theorem required_some {α : Type} (read : ν → Option α) (value : ν) :
    required read (some value) = read value := rfl

@[simp] theorem defaulted_some {α : Type} (otherwise : α) (read : ν → Option α) (value : ν) :
    defaulted otherwise read (some value) = read value := rfl

def given : List String → List (Option ν) → List (String × ν)
  | name :: names, some value :: values => (name, value) :: given names values
  | _ :: names, none :: values => given names values
  | _, _ => []

theorem mem_names_of_mem_given {names : List String} {values : List (Option ν)}
    {field : String × ν} (h : field ∈ given names values) : field.1 ∈ names := by
  fun_induction given names values with
  | case1 name names value values ih =>
    rcases List.mem_cons.mp h with rfl | h
    · exact List.mem_cons_self
    · exact List.mem_cons_of_mem _ (ih h)
  | case2 name names values ih => exact List.mem_cons_of_mem _ (ih h)
  | case3 => exact nomatch h

theorem some_mem_of_mem_given {names : List String} {values : List (Option ν)}
    {field : String × ν} (h : field ∈ given names values) : some field.2 ∈ values := by
  fun_induction given names values with
  | case1 name names value values ih =>
    rcases List.mem_cons.mp h with rfl | h
    · exact List.mem_cons_self
    · exact List.mem_cons_of_mem _ (ih h)
  | case2 name names values ih => exact List.mem_cons_of_mem _ (ih h)
  | case3 => exact nomatch h

/-- Nothing is given under a name that is none of the fields'. -/
theorem filter_given_eq_nil {name : String} {names : List String} (other : name ∉ names)
    (values : List (Option ν)) : (given names values).filter (·.1 == name) = [] := by
  refine List.filter_eq_nil_iff.mpr fun field h same => other ?_
  exact eq_of_beq same ▸ mem_names_of_mem_given h

/-- A field that is none of the named ones is passed over. -/
theorem assign_cons_of_notMem {names : List String} {field : String × ν}
    (other : field.1 ∉ names) (fields : List (String × ν)) :
    assign names (field :: fields) = assign names fields := by
  induction names with
  | nil => rfl
  | cons name names ih =>
    obtain ⟨differs, others⟩ := not_or.mp (List.mem_cons.not.mp other)
    have passed : (field :: fields).filter (·.1 == name) = fields.filter (·.1 == name) :=
      List.filter_cons_of_neg fun same => differs (eq_of_beq same)
    unfold assign at ih ⊢
    rw [List.mapM_cons, List.mapM_cons, ih others, passed]

/-- Fields of different names are found under them. -/
theorem assign_given (names : List String) (distinct : names.Nodup) (values : List (Option ν))
    (each : values.length = names.length) : assign names (given names values) = some values := by
  induction names generalizing values with
  | nil =>
    obtain rfl := List.length_eq_zero_iff.mp each
    rfl
  | cons name names ih =>
    obtain ⟨new, distinct⟩ := List.nodup_cons.mp distinct
    obtain _ | ⟨value, values⟩ := values
    · exact absurd each (by simp)
    have rest := ih distinct values (by simpa using each)
    have alone := filter_given_eq_nil new values
    unfold assign at rest ⊢
    cases value with
    | none => simp [given, alone, rest]
    | some value =>
      have other : (name, value).1 ∉ names := new
      have skip := assign_cons_of_notMem other (given names values)
      unfold assign at skip
      simp [given, alone, skip, rest]

end Reader

namespace Json

theorem text?_ofText (text : String) : (ofText text).text? = some text := by
  rw [ofText, text?, unescape?_escape]

theorem members?_ofFields (fields : List (String × Json)) :
    (ofFields fields).members? = some fields := by
  refine mapM_map_eq_some fun field _ => ?_
  simp [unescape?_escape]

theorem fields?_given (names : List String) (distinct : names.Nodup)
    (values : List (Option Json)) (each : values.length = names.length) :
    fields? names (ofFields (Reader.given names values)) = some values := by
  change (ofFields _).members?.bind (Reader.assign names) = _
  rw [members?_ofFields]
  exact Reader.assign_given names distinct values each

/-- An optional text is a field without a value when it is absent. -/
theorem given_optionalText (name : String) (text : Option String) (names : List String)
    (values : List (Option Json)) :
    Reader.given (name :: names) (text.map ofText :: values) =
      optionalText name text ++ Reader.given names values := by
  cases text <;> rfl

end Json

/-! ### Readers of values -/

namespace Wire

theorem text?_ofText (text : String) : reader.text? (.ofText text) = some text := by
  have same : reader.text? = Json.text? := rfl
  rw [same, Json.text?_ofText]

theorem choice?_ofText (text : String) : reader.choice? (.ofText text) = some text := by
  have same : reader.choice? = Json.choice? true := rfl
  rw [same, Json.ofText, Json.choice?, Json.unescape?_escape]

theorem given?_ofText (text : String) :
    reader.given? (.ofText text) = some (some (.ofText text)) := rfl

theorem optional_text (text : Option String) :
    reader.optional reader.text? (text.map .ofText) = some text := by
  cases text with
  | none => rfl
  | some text => simp [Reader.optional, given?_ofText, text?_ofText]

theorem word?_ofNat (word : UInt32) : reader.word? (.ofNat word.toNat) = some word := by
  have count : reader.count? (.ofNat word.toNat) = some word.toNat :=
    Json.digits?_toString word.toNat
  have small : word.toNat < Nat.pow 2 32 := word.toNat_lt
  simp [Reader.word?, Reader.bounded?, count, small]

theorem list?_array {α : Type} {read : Json → Option α} {write : α → Json} {items : List α}
    (back : ∀ item ∈ items, read (write item) = some item) :
    reader.list? read (.array (items.map write)) = some items :=
  mapM_map_eq_some back

theorem texts?_ofTexts (texts : List String) : reader.texts? (.ofTexts texts) = some texts :=
  list?_array fun text _ => text?_ofText text

theorem map?_ofFields {α : Type} {read : Json → Option α} (write : α → Json)
    {entries : List (String × α)} (back : ∀ entry ∈ entries, read (write entry.2) = some entry.2) :
    reader.map? read (.ofFields (entries.map fun (key, value) => (key, write value))) =
      some entries := by
  have members : reader.entries? (.ofFields (entries.map fun (key, value) => (key, write value))) =
      some (entries.map fun (key, value) => (key, write value)) := Json.members?_ofFields _
  rw [Reader.map?, members]
  refine mapM_map_eq_some fun entry h => ?_
  simp [back entry h]

/-- A collection that is left out when it has no contents. -/
theorem defaulted_unless {α : Type} {read : Json → Option (List α)} {value : Json}
    {items : List α} {isEmpty : Bool} (back : read value = some items)
    (nil : isEmpty = true → items = []) :
    Reader.defaulted [] read (if isEmpty then none else some value) = some items := by
  cases isEmpty with
  | false => exact back
  | true => exact congrArg some (nil rfl).symm

end Wire

theorem WriteSync.read_ofText (mode : WriteSync) :
    WriteSync.read Wire.reader (.ofText mode.name) = some mode := by
  rw [WriteSync.read, Wire.choice?_ofText]
  cases mode <;> rfl

theorem Atomicity.read_ofText (mode : Atomicity) :
    Atomicity.read Wire.reader (.ofText mode.name) = some mode := by
  rw [Atomicity.read, Wire.choice?_ofText]
  cases mode <;> rfl

theorem QueryField.read_toJson (field : QueryField) :
    QueryField.read Wire.reader field.toJson = some field := by
  have fields : Wire.reader.fields? ["name", "type"] field.toJson =
      some [some (.ofText field.name), some (.ofText field.className)] :=
    Json.fields?_given ["name", "type"] (by decide)
      [some (.ofText field.name), some (.ofText field.className)] rfl
  simp [QueryField.read, fields, Wire.text?_ofText]

def QueryEntity.values (entity : QueryEntity) : List (Option Json) :=
  [some (.ofText entity.keyType), some (.ofText entity.valueType),
    entity.declaredTable.map .ofText, entity.schema.map .ofText, entity.keyField.map .ofText,
    some (.array (entity.fields.map QueryField.toJson)),
    if entity.notNull.isEmpty then none else some (.ofTexts entity.notNull.names),
    if entity.precisions.isEmpty then none
      else some (.ofFields (entity.precisions.entries.map fun (key, n) => (key, .ofNat n.toNat)))]

theorem QueryEntity.toJson_eq (entity : QueryEntity) :
    entity.toJson = .ofFields (Reader.given
      ["key_type", "value_type", "table_name", "schema", "key_field_name", "fields",
        "not_null_fields", "fields_precision"] entity.values) := by
  rw [values, toJson]
  split_ifs <;> simp [Reader.given, Json.given_optionalText]

theorem QueryEntity.read_toJson (entity : QueryEntity) :
    QueryEntity.read Wire.reader entity.toJson = some entity := by
  have fields : Wire.reader.fields?
      ["key_type", "value_type", "table_name", "schema", "key_field_name", "fields",
        "not_null_fields", "fields_precision"] entity.toJson = some entity.values := by
    rw [toJson_eq]
    exact Json.fields?_given _ (by decide) entity.values rfl
  have columns : Wire.reader.list? (QueryField.read Wire.reader)
      (.array (entity.fields.map QueryField.toJson)) = some entity.fields :=
    Wire.list?_array fun field _ => field.read_toJson
  have names : Reader.defaulted [] Wire.reader.texts?
      (if entity.notNull.isEmpty then none else some (.ofTexts entity.notNull.names)) =
        some entity.notNull.names :=
    Wire.defaulted_unless (Wire.texts?_ofTexts _) (by simp [NameMap.isEmpty, NameMap.names])
  have entries : Reader.defaulted [] (Wire.reader.map? Wire.reader.word?)
      (if entity.precisions.isEmpty then none else
        some (.ofFields (entity.precisions.entries.map fun (key, n) => (key, .ofNat n.toNat)))) =
        some entity.precisions.entries :=
    Wire.defaulted_unless
      (Wire.map?_ofFields (fun n : UInt32 => .ofNat n.toNat) fun entry _ =>
        Wire.word?_ofNat entry.2)
      (by simp [NameMap.isEmpty])
  rw [QueryEntity.read, fields]
  simp [values, Wire.text?_ofText, Wire.optional_text, columns, names, entries,
    NameMap.ofList_entries, NameSet.ofNames_names]

def CacheDefinition.values (cache : CacheDefinition) : List (Option Json) :=
  [some (.ofText cache.name), cache.group.map .ofText, cache.dataRegion.map .ofText,
    some (.ofNat cache.parallelism.toNat), some (.ofNat cache.backups.toNat),
    (cache.atomicity.map Atomicity.name).map .ofText, some (.ofText cache.writeSync.name),
    some (.array (cache.entities.map QueryEntity.toJson))]

theorem CacheDefinition.toJson_eq (cache : CacheDefinition) :
    cache.toJson = .ofFields (Reader.given
      ["name", "group_name", "data_region", "query_parallelism", "backups", "atomicity_mode",
        "write_synchronization_mode", "query_entities"] cache.values) := by
  simp [values, toJson, Reader.given, Json.given_optionalText, -Option.map_map]

theorem CacheDefinition.read_toJson (cache : CacheDefinition) :
    CacheDefinition.read Wire.reader cache.toJson = some cache := by
  have fields : Wire.reader.fields?
      ["name", "group_name", "data_region", "query_parallelism", "backups", "atomicity_mode",
        "write_synchronization_mode", "query_entities"] cache.toJson = some cache.values := by
    rw [toJson_eq]
    exact Json.fields?_given _ (by decide) cache.values rfl
  have mode : Wire.reader.optional (Atomicity.read Wire.reader)
      ((cache.atomicity.map Atomicity.name).map .ofText) = some cache.atomicity := by
    cases h : cache.atomicity with
    | none => rfl
    | some mode =>
      simp [Reader.optional, Wire.given?_ofText, Atomicity.read_ofText]
  have entities : Wire.reader.list? (QueryEntity.read Wire.reader)
      (.array (cache.entities.map QueryEntity.toJson)) = some cache.entities :=
    Wire.list?_array fun entity _ => entity.read_toJson
  rw [CacheDefinition.read, fields]
  simp [values, Wire.text?_ofText, Wire.optional_text, Wire.word?_ofNat, mode,
    WriteSync.read_ofText, entities, -Option.map_map]

/-! ### What records are made of -/

namespace Json.Written

theorem given {depth : Nat} (names : List String) {values : List (Option Json)}
    (each : ∀ value ∈ values, ∀ json ∈ value, Written depth json) :
    Written (depth + 1) (.ofFields (Reader.given names values)) :=
  .object _ fun _ h => each _ (Reader.some_mem_of_mem_given h) _ rfl

theorem texts (depth : Nat) (texts : List String) : Written (depth + 1) (.ofTexts texts) :=
  .array _ fun item h => by
    obtain ⟨text, -, rfl⟩ := List.mem_map.mp h
    exact .text text

theorem word {depth : Nat} (word : UInt32) : Written depth (.ofNat word.toNat) :=
  .number _ (Nat.lt_trans word.toNat_lt (by decide))

end Json.Written

open Json (Written)

theorem QueryField.written (field : QueryField) : Written 1 field.toJson :=
  .object _ (by simp [Written.text])

theorem QueryEntity.written (entity : QueryEntity) : Written 3 entity.toJson := by
  have columns : Written 2 (.array (entity.fields.map QueryField.toJson)) :=
    .array _ (by simp [QueryField.written])
  have precisions : Written 2
      (.ofFields (entity.precisions.entries.map fun (key, n) => (key, .ofNat n.toNat))) :=
    .object _ fun field h => by
      obtain ⟨entry, -, rfl⟩ := List.mem_map.mp h
      exact .word entry.2
  rw [toJson_eq]
  refine .given _ ?_
  simp [values, Written.text, columns, precisions, Written.texts]

theorem CacheDefinition.written (cache : CacheDefinition) : Written 5 cache.toJson := by
  have entities : Written 4 (.array (cache.entities.map QueryEntity.toJson)) :=
    .array _ (by simp [QueryEntity.written])
  rw [toJson_eq]
  refine .given _ ?_
  simp [values, Written.text, Written.word, entities]

end GridSchema
