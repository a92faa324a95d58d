import Mathlib.Tactic.SplitIfs

/-! Outcomes of steps that may fail, and lists of pairs. -/

namespace GridSchema

/-- A chain of two steps succeeds if both do. -/
theorem bind_eq_ok {ε α β : Type} {first : Except ε α} {second : α → Except ε β} {b : β} :
    first >>= second = .ok b ↔ ∃ a, first = .ok a ∧ second a = .ok b := by
  cases first with
  | error e => exact ⟨fun h => (nomatch h), fun ⟨a, h, _⟩ => (nomatch h)⟩
  | ok a => exact ⟨fun h => ⟨a, rfl, h⟩, fun ⟨_, rfl, h⟩ => h⟩

variable {α β : Type} [BEq α] [LawfulBEq α] [DecidableEq α]

/-- Only the pairs of one key are gone after that key was taken out. -/
theorem lookup_filter_ne (pairs : List (α × β)) (key other : α) :
    (pairs.filter (·.1 != key)).lookup other =
      if other = key then none else pairs.lookup other := by
  induction pairs with
  | nil => simp
  | cons head rest ih =>
    obtain ⟨first, value⟩ := head
    by_cases hf : first = key
    · subst hf
      rw [List.filter_cons_of_neg (by simp), ih]
      by_cases ho : other = first
      · simp only [ho, ↓reduceIte]
      · simp only [ho, ↓reduceIte, List.lookup_cons, beq_eq_false_iff_ne.mpr ho]
    · rw [List.filter_cons_of_pos (by simpa using hf)]
      by_cases ho : other = first
      · simp [ho, hf]
      · simp only [List.lookup_cons, beq_eq_false_iff_ne.mpr ho, ih]

/-- Only the value of one key is another after that was changed. -/
theorem lookup_map_value (pairs : List (α × β)) (key other : α) (value : β) :
    (pairs.map fun pair => if pair.1 = key then (key, value) else pair).lookup other =
      if other = key then (pairs.lookup key).map fun _ => value else pairs.lookup other := by
  induction pairs with
  | nil => simp
  | cons head rest ih =>
    obtain ⟨first, old⟩ := head
    by_cases hf : first = key
    · subst hf
      by_cases ho : other = first
      · simp [ho]
      · simp [List.lookup_cons, beq_eq_false_iff_ne.mpr ho, ih, ho]
    · by_cases ho : other = first
      · simp [ho, hf]
      · have hk : (key == first) = false := beq_eq_false_iff_ne.mpr (Ne.symm hf)
        simp [List.lookup_cons, beq_eq_false_iff_ne.mpr ho, hf, hk, ih]

end GridSchema
