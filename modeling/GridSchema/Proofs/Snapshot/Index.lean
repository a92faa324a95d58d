import GridSchema.Proofs.Json.Spelling
import GridSchema.Snapshot.Name
import Mathlib.Data.List.Induction
import Mathlib.Data.Nat.Digits.Defs

/-! Indices in names of snapshots. A name has one exactly if it is the base name, some digits and
the extension, whatever the base name ends in, and no name in a directory has one past the last. -/

namespace GridSchema

theorem stripStart?_eq_some_iff {start text rest : List Char} :
    stripStart? start text = some rest ↔ text = start ++ rest := by
  unfold stripStart?
  constructor
  · intro stripped
    split_ifs at stripped with starts
    obtain ⟨behind, rfl⟩ := List.isPrefixOf_iff_prefix.mp starts
    cases stripped
    rw [List.drop_left]
  · rintro rfl
    have starts : start.isPrefixOf (start ++ rest) = true :=
      List.isPrefixOf_iff_prefix.mpr (List.prefix_append start rest)
    rw [if_pos starts, List.drop_left]

/-- Each digit counts as often as its place says. -/
theorem Text.decimal_eq_ofDigits (digits : List Char) :
    Text.decimal digits = Nat.ofDigits 10 (digits.reverse.map fun c => c.toNat - '0'.toNat) := by
  unfold decimal
  induction digits using List.reverseRecOn with
  | nil => rfl
  | append_singleton digits last ih =>
    rw [List.foldl_append, ih, List.reverse_append, List.reverse_singleton, List.map_append,
      List.map_singleton, List.singleton_append, Nat.ofDigits_cons, List.foldl_cons,
      List.foldl_nil, Nat.mul_comm, Nat.add_comm]

namespace Snapshot

variable {base name : String} {index : Nat} {names : List String}

/-- What stands between the base name and the extension, if a name has both, and apart. -/
theorem between_iff {middle : List Char} :
    ((stripStart? base.toList name.toList).bind fun rest =>
        stripStart? extension.toList.reverse rest.reverse) = some middle.reverse ↔
      name.toList = base.toList ++ middle ++ extension.toList := by
  simp only [Option.bind_eq_some_iff, stripStart?_eq_some_iff]
  constructor
  · rintro ⟨rest, behind, ends⟩
    have split : rest = middle ++ extension.toList := by
      simpa using congrArg List.reverse ends
    rw [behind, split, List.append_assoc]
  · intro spelled
    refine ⟨middle ++ extension.toList, ?_, ?_⟩
    · rw [spelled, List.append_assoc]
    · rw [List.reverse_append]

/-- The names with an index are those of a base name, digits and the extension. Zeros may stand in
front of the index. -/
theorem index?_eq_some_iff :
    index? base name = some index ↔
      ∃ digits : List Char, digits ≠ [] ∧ (∀ c ∈ digits, c.isDigit = true) ∧
        name.toList = base.toList ++ digits ++ extension.toList ∧
        Text.decimal digits = index ∧ index ≤ maxIndex := by
  unfold index?
  constructor
  · intro read
    obtain ⟨rest, behind, read⟩ := Option.bind_eq_some_iff.mp read
    obtain ⟨digits, ends, read⟩ := Option.bind_eq_some_iff.mp read
    obtain ⟨wellFormed, read⟩ := Option.ite_none_left_eq_some.mp read
    obtain ⟨fits, read⟩ := Option.ite_none_right_eq_some.mp read
    cases read
    rw [not_or, not_not] at wellFormed
    obtain ⟨given, decimal⟩ := wellFormed
    refine ⟨digits.reverse, by simpa using given, ?_, ?_, rfl, fits⟩
    · intro c among
      exact List.all_eq_true.mp decimal c (List.mem_reverse.mp among)
    · refine between_iff.mp ?_
      rw [behind, List.reverse_reverse]
      exact ends
  · rintro ⟨digits, given, decimal, spelled, rfl, fits⟩
    obtain ⟨rest, behind, ends⟩ := Option.bind_eq_some_iff.mp (between_iff.mpr spelled)
    have all : digits.reverse.all Char.isDigit = true := by
      rw [List.all_reverse]
      exact List.all_eq_true.mpr decimal
    have wellFormed :
        ¬ (digits.reverse.isEmpty = true ∨ ¬ digits.reverse.all Char.isDigit = true) := by
      rw [not_or, not_not]
      exact ⟨by simpa using given, all⟩
    refine Option.bind_eq_some_iff.mpr ⟨rest, behind, Option.bind_eq_some_iff.mpr ⟨_, ends, ?_⟩⟩
    rw [if_neg wellFormed, List.reverse_reverse, if_pos fits]

/-- An index is read back from the name that is made of it. -/
theorem index?_toString (base : String) (fits : index ≤ maxIndex) :
    index? base (base ++ toString index ++ extension) = some index := by
  refine index?_eq_some_iff.mpr ⟨Nat.toDigits 10 index, Nat.toDigits_ne_nil, ?_, ?_, ?_, fits⟩
  · exact Json.isDigit_toDigits index
  · rw [String.toList_append, String.toList_append, Json.toList_toString]
  · exact Json.decimal_toDigits index

theorem index_le (numbered : index? base name = some index) : index ≤ maxIndex := by
  obtain ⟨-, -, -, -, -, fits⟩ := index?_eq_some_iff.mp numbered
  exact fits

theorem le_maxIndex_iff : index ≤ maxIndex ↔ index < Nat.pow 2 64 :=
  Nat.le_sub_one_iff_lt (by decide)

/-- The names with an index are those of a base name, some digits and the extension, if the digits
are worth less than 2^64. They may start with zeros, and the base name may end in digits or have the
extension in it. What is written for an index is one of these spellings. -/
theorem indices_read_back_exactly (base : String) :
    (∀ index < Nat.pow 2 64, index? base (base ++ toString index ++ extension) = some index) ∧
      ∀ name index, index? base name = some index ↔
        ∃ digits : String, digits ≠ "" ∧ (∀ c ∈ digits.toList, c.isDigit = true) ∧
          name = base ++ digits ++ extension ∧
          Nat.ofDigits 10 (digits.toList.reverse.map fun c => c.toNat - '0'.toNat) = index ∧
          index < Nat.pow 2 64 := by
  refine ⟨fun index fits => index?_toString base (le_maxIndex_iff.mpr fits), ?_⟩
  intro name index
  rw [index?_eq_some_iff]
  constructor
  · rintro ⟨digits, given, decimal, spelled, value, fits⟩
    refine ⟨String.ofList digits, ?_, ?_, ?_, ?_, le_maxIndex_iff.mp fits⟩
    · simpa using given
    · simpa using decimal
    · apply String.toList_injective
      simpa using spelled
    · rw [String.toList_ofList, ← Text.decimal_eq_ofDigits, value]
  · rintro ⟨digits, given, decimal, rfl, value, fits⟩
    refine ⟨digits.toList, ?_, decimal, ?_, ?_, le_maxIndex_iff.mpr fits⟩
    · simpa using given
    · rw [String.toList_append, String.toList_append]
    · rw [Text.decimal_eq_ofDigits, value]

theorem indices_read_back_exactly_zeros :
    index? "a.sql1" ("a.sql1" ++ toString maxIndex ++ extension) = some maxIndex ∧
      index? "a.sql1" "a.sql1007.sql" = some 7 := by
  obtain ⟨written, read⟩ := indices_read_back_exactly "a.sql1"
  refine ⟨written _ (by decide), (read _ _).mpr ⟨"007", by decide, ?_, rfl, rfl, by decide⟩⟩
  exact List.all_eq_true.mp rfl

/-! ### The last index -/

theorem foldl_max_le_iff {numbers : List Nat} {first bound : Nat} :
    numbers.foldl max first ≤ bound ↔ first ≤ bound ∧ ∀ number ∈ numbers, number ≤ bound := by
  induction numbers generalizing first with
  | nil => simp
  | cons number numbers ih =>
    rw [List.foldl_cons, ih, List.forall_mem_cons, Nat.max_le, and_assoc]

theorem lastIndex_le_iff {bound : Nat} :
    lastIndex base names ≤ bound ↔
      ∀ name ∈ names, ∀ index, index? base name = some index → index ≤ bound := by
  unfold lastIndex
  rw [foldl_max_le_iff]
  constructor
  · rintro ⟨-, bounded⟩ name listed index numbered
    exact bounded index (List.mem_filterMap.mpr ⟨name, listed, numbered⟩)
  · intro bounded
    refine ⟨Nat.zero_le bound, ?_⟩
    intro index among
    obtain ⟨name, listed, numbered⟩ := List.mem_filterMap.mp among
    exact bounded name listed index numbered

theorem le_lastIndex (listed : name ∈ names) (numbered : index? base name = some index) :
    index ≤ lastIndex base names :=
  lastIndex_le_iff.mp (Nat.le_refl _) name listed index numbered

theorem lastIndex_le (base : String) (names : List String) : lastIndex base names ≤ maxIndex :=
  lastIndex_le_iff.mpr fun _ _ _ numbered => index_le numbered

end Snapshot

end GridSchema
