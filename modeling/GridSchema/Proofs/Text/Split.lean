import Mathlib.Data.List.TakeWhile
import GridSchema.Text.Split

/-! Texts that are cut where a character stands, and joined again. -/

namespace GridSchema.Text

variable {separator : Char} {text : List Char}

theorem split_ne_nil (separator : Char) (text : List Char) : split separator text ≠ [] := by
  cases text with
  | nil => exact List.cons_ne_nil _ _
  | cons c rest =>
    unfold split
    split
    · exact List.cons_ne_nil _ _
    · split <;> exact List.cons_ne_nil _ _

theorem split_of_notMem (absent : separator ∉ text) : split separator text = [text] := by
  induction text with
  | nil => rfl
  | cons c rest ih =>
    rw [List.mem_cons, not_or] at absent
    rw [split, if_neg (Ne.symm absent.1), ih absent.2]

/-- A text is cut where the separator stands, and the parts of both sides stay. -/
theorem split_append (separator : Char) (before after : List Char) :
    split separator (before ++ separator :: after) =
      split separator before ++ split separator after := by
  induction before with
  | nil => simp [split]
  | cons c before ih =>
    rw [List.cons_append]
    by_cases here : c = separator
    · rw [split, if_pos here, split, if_pos here, ih]
      rfl
    · rw [split, if_neg here, split, if_neg here, ih]
      cases parts : split separator before with
      | nil => exact absurd parts (split_ne_nil separator before)
      | cons part parts => rfl

theorem split_intercalate {part : List Char} {parts : List (List Char)}
    (plain : ∀ p ∈ part :: parts, separator ∉ p) :
    split separator ([separator].intercalate (part :: parts)) = part :: parts := by
  have first := split_of_notMem (plain part List.mem_cons_self)
  induction parts generalizing part with
  | nil =>
    have same : [separator].intercalate [part] = part := by simp
    rw [same, first]
  | cons next parts ih =>
    have later : ∀ p ∈ next :: parts, separator ∉ p :=
      fun p mem => plain p (List.mem_cons_of_mem part mem)
    have rest := ih later (split_of_notMem (later next List.mem_cons_self))
    have joined : [separator].intercalate (part :: next :: parts) =
        part ++ separator :: [separator].intercalate (next :: parts) := by
      rw [List.intercalate_cons_cons, List.append_assoc]
      rfl
    rw [joined, split_append, first, rest]
    rfl

theorem splitFirst?_of_notMem (absent : separator ∉ text) :
    splitFirst? separator text = none := by
  have all : ∀ c ∈ text, (c != separator) = true := by
    intro c mem
    rw [bne_iff_ne]
    rintro rfl
    exact absent mem
  unfold splitFirst?
  rw [List.dropWhile_eq_nil_iff.mpr all]

end GridSchema.Text
