import GridSchema.Json.Printer
import GridSchema.Proofs.Text.Utf8

/-! How many bytes a value takes in one line. -/

namespace GridSchema.Json

mutual

def size : Json → Nat
  | .null => 4
  | .bool true => 4
  | .bool false => 5
  | .number spelling => spelling.utf8ByteSize
  | .string spelling => spelling.utf8ByteSize + 2
  | .array [] => 2
  | .array (item :: items) => item.size + sizeItems items + 2
  | .object [] => 2
  | .object ((key, value) :: members) =>
    key.utf8ByteSize + value.size + sizeMembers members + 5

def sizeItems : List Json → Nat
  | [] => 0
  | item :: items => item.size + sizeItems items + 1

def sizeMembers : List (String × Json) → Nat
  | [] => 0
  | (key, value) :: members => key.utf8ByteSize + value.size + sizeMembers members + 4

end

private theorem size_marks :
    "\"".utf8ByteSize = 1 ∧ "[".utf8ByteSize = 1 ∧ "]".utf8ByteSize = 1 ∧
      ",".utf8ByteSize = 1 ∧ ",\"".utf8ByteSize = 2 ∧ "\":".utf8ByteSize = 2 ∧
      "\x7b\"".utf8ByteSize = 2 ∧ "\x7d".utf8ByteSize = 1 := by
  decide +kernel

mutual

theorem utf8ByteSize_render : (value : Json) → value.render.utf8ByteSize = value.size
  | .null => by decide +kernel
  | .bool true => by decide +kernel
  | .bool false => by decide +kernel
  | .number _ => rfl
  | .string _ => by
    simp only [render, size, String.utf8ByteSize_append, size_marks]
    omega
  | .array [] => by decide +kernel
  | .array (item :: items) => by
    simp only [render, size, String.utf8ByteSize_append, size_marks, utf8ByteSize_render item,
      utf8ByteSize_renderItems items]
    omega
  | .object [] => by decide +kernel
  | .object ((key, value) :: members) => by
    simp only [render, size, String.utf8ByteSize_append, size_marks, utf8ByteSize_render value,
      utf8ByteSize_renderMembers members]
    omega

theorem utf8ByteSize_renderItems :
    (items : List Json) → (renderItems items).utf8ByteSize = sizeItems items
  | [] => rfl
  | item :: items => by
    simp only [renderItems, sizeItems, String.utf8ByteSize_append, size_marks,
      utf8ByteSize_render item, utf8ByteSize_renderItems items]
    omega

theorem utf8ByteSize_renderMembers :
    (members : List (String × Json)) → (renderMembers members).utf8ByteSize = sizeMembers members
  | [] => rfl
  | (key, value) :: members => by
    simp only [renderMembers, sizeMembers, String.utf8ByteSize_append, size_marks,
      utf8ByteSize_render value, utf8ByteSize_renderMembers members]
    omega

end

theorem sizeMembers_append (members more : List (String × Json)) :
    sizeMembers (members ++ more) = sizeMembers members + sizeMembers more := by
  induction members with
  | nil => rw [List.nil_append, sizeMembers, Nat.zero_add]
  | cons member members ih =>
    obtain ⟨key, value⟩ := member
    rw [List.cons_append, sizeMembers, sizeMembers, ih]
    omega

theorem length_encode_render (value : Json) : (Utf8.encode value.render).length = value.size := by
  rw [Utf8.length_encode, utf8ByteSize_render]

end GridSchema.Json
