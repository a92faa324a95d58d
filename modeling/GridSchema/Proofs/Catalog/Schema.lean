import GridSchema.Catalog.Schema
import GridSchema.Proofs.Data.NameMap
import Mathlib.Data.List.Forall2

/-! What is in a schema: the tables that some cache has there, each once and in order. Names of
schemas, and tables that are looked for, count as the same if they differ only in case. -/

namespace GridSchema

/-! ### Letters and their case -/

namespace Text

/-- One character, or the two cases of an ASCII letter. -/
def SameLetter (c d : Char) : Prop :=
  c = d ∨ c.isUpper = true ∧ d.toNat = c.toNat + 32 ∨ d.isUpper = true ∧ c.toNat = d.toNat + 32

/-- Two texts that differ in nothing but the case of ASCII letters. -/
def SameButCase (a b : String) : Prop :=
  List.Forall₂ SameLetter a.toList b.toList

theorem SameButCase.refl (text : String) : SameButCase text text :=
  List.forall₂_same.mpr fun _ _ => .inl rfl

theorem isUpper_iff {c : Char} : c.isUpper = true ↔ 65 ≤ c.toNat ∧ c.toNat ≤ 90 := by
  change decide (c.val ≥ 'A'.val ∧ c.val ≤ 'Z'.val) = true ↔ _
  simp [UInt32.le_iff_toNat_le]

theorem toNat_toLower (c : Char) :
    c.toLower.toNat = if 65 ≤ c.toNat ∧ c.toNat ≤ 90 then c.toNat + 32 else c.toNat := by
  have range : (c.val ≥ 'A'.val ∧ c.val ≤ 'Z'.val) ↔ 65 ≤ c.toNat ∧ c.toNat ≤ 90 := by
    simp [UInt32.le_iff_toNat_le]
  unfold Char.toLower
  by_cases upper : c.val ≥ 'A'.val ∧ c.val ≤ 'Z'.val
  · rw [dif_pos upper, if_pos (range.mp upper)]
    have below : c.toNat + 32 < 2 ^ 32 := by
      have le := (range.mp upper).2
      omega
    exact Nat.mod_eq_of_lt below
  · rw [dif_neg upper, if_neg (range.not.mp upper)]

theorem toLower_eq_toLower_iff {c d : Char} : c.toLower = d.toLower ↔ SameLetter c d := by
  have same (a b : Char) : a = b ↔ a.toNat = b.toNat := Char.toNat_inj.symm
  rw [same c.toLower, toNat_toLower, toNat_toLower, SameLetter, same c, isUpper_iff, isUpper_iff]
  split_ifs <;> omega

theorem sameLetters_iff {a b : String} : sameLetters a b = true ↔ SameButCase a b := by
  unfold sameLetters SameButCase
  rw [beq_iff_eq, ← List.forall₂_eq_eq_eq, List.forall₂_map_left_iff, List.forall₂_map_right_iff]
  simp only [toLower_eq_toLower_iff]

end Text

/-! ### Tables -/

/-- A cache has a table in a schema: one of its entities is in that schema and makes that table. -/
def CacheDefinition.Exposes (cache : CacheDefinition) (schema table : String) : Prop :=
  ∃ entity ∈ cache.entities, Text.SameButCase (entity.schema.getD "PUBLIC") schema ∧
    entity.tableName = table

namespace SchemaTables

variable {name table : String} {caches : List CacheDefinition}

theorem tables_increasing (name : String) (caches : List CacheDefinition) :
    (ofCaches name caches).tables.Pairwise (· < ·) :=
  NameMap.names_increasing _

theorem mem_tables_iff :
    table ∈ (ofCaches name caches).tables ↔ ∃ cache ∈ caches, cache.Exposes name table := by
  unfold ofCaches
  rw [NameSet.mem_names_ofNames, List.mem_map]
  constructor
  · rintro ⟨entity, kept, made⟩
    obtain ⟨mem, belongs⟩ := List.mem_filter.mp kept
    obtain ⟨cache, known, declared⟩ := List.mem_flatMap.mp mem
    exact ⟨cache, known, entity, declared, Text.sameLetters_iff.mp belongs, made⟩
  · rintro ⟨cache, known, entity, declared, same, made⟩
    have mem := List.mem_flatMap.mpr ⟨cache, known, declared⟩
    have belongs : entity.belongsTo name = true := Text.sameLetters_iff.mpr same
    exact ⟨entity, List.mem_filter.mpr ⟨mem, belongs⟩, made⟩

/-- Schemas whose names differ only in case have the same tables. -/
theorem tables_congr {other : String} (same : Text.SameButCase name other)
    (caches : List CacheDefinition) :
    (ofCaches name caches).tables = (ofCaches other caches).tables := by
  have letters : name.toList.map Char.toLower = other.toList.map Char.toLower :=
    beq_iff_eq.mp (Text.sameLetters_iff.mpr same)
  have belongs (entity : QueryEntity) : entity.belongsTo name = entity.belongsTo other := by
    rw [QueryEntity.belongsTo, QueryEntity.belongsTo, Text.sameLetters, Text.sameLetters, letters]
  simp only [ofCaches, belongs]

/-- A table is looked for without regard to case. -/
theorem has_iff {schema : SchemaTables} :
    schema.has table = true ↔ ∃ made ∈ schema.tables, Text.SameButCase made table := by
  rw [has, List.any_eq_true]
  simp only [Text.sameLetters_iff]

theorem has_ofCaches_iff :
    (ofCaches name caches).has table = true ↔
      ∃ made, (∃ cache ∈ caches, cache.Exposes name made) ∧ Text.SameButCase made table := by
  rw [has_iff]
  simp only [mem_tables_iff]

end SchemaTables

end GridSchema
