import GridSchema.Json.Basic

/-! JSON values as text, in one line or indented. -/

namespace GridSchema.Json

mutual

def render : Json → String
  | .null => "null"
  | .bool true => "true"
  | .bool false => "false"
  | .number spelling => spelling
  | .string spelling => "\"" ++ spelling ++ "\""
  | .array [] => "[]"
  | .array (item :: items) => "[" ++ item.render ++ renderItems items ++ "]"
  | .object [] => "\x7b\x7d"
  | .object ((key, value) :: members) =>
    "\x7b\"" ++ key ++ "\":" ++ value.render ++ renderMembers members ++ "\x7d"

def renderItems : List Json → String
  | [] => ""
  | item :: items => "," ++ item.render ++ renderItems items

def renderMembers : List (String × Json) → String
  | [] => ""
  | (key, value) :: members => ",\"" ++ key ++ "\":" ++ value.render ++ renderMembers members

end

def margin (depth : Nat) : String :=
  "\n" ++ String.ofList (List.replicate (2 * depth) ' ')

mutual

/-- The value with each item and member on a line of its own. -/
def renderIndented (depth : Nat) : Json → String
  | .null => "null"
  | .bool true => "true"
  | .bool false => "false"
  | .number spelling => spelling
  | .string spelling => "\"" ++ spelling ++ "\""
  | .array [] => "[]"
  | .array (item :: items) =>
    "[" ++ margin (depth + 1) ++ item.renderIndented (depth + 1) ++
      renderIndentedItems (depth + 1) items ++ margin depth ++ "]"
  | .object [] => "\x7b\x7d"
  | .object ((key, value) :: members) =>
    "\x7b" ++ margin (depth + 1) ++ "\"" ++ key ++ "\": " ++ value.renderIndented (depth + 1) ++
      renderIndentedMembers (depth + 1) members ++ margin depth ++ "\x7d"

def renderIndentedItems (depth : Nat) : List Json → String
  | [] => ""
  | item :: items =>
    "," ++ margin depth ++ item.renderIndented depth ++ renderIndentedItems depth items

def renderIndentedMembers (depth : Nat) : List (String × Json) → String
  | [] => ""
  | (key, value) :: members =>
    "," ++ margin depth ++ "\"" ++ key ++ "\": " ++ value.renderIndented depth ++
      renderIndentedMembers depth members

end

end GridSchema.Json
