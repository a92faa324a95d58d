import GridSchema.Json.Basic
import GridSchema.Record

/-! Records in JSON: objects, or arrays of the fields in their order. -/

namespace GridSchema.Json

def fields? (names : List String) : Json → Option (List (Option Json))
  | .array items => Reader.position names items
  | value => value.members?.bind (Reader.assign names)

/-- The name of a choice: a string, or the key of an object with one member that is null, or an
empty object if `bare` allows it. -/
def choice? (bare : Bool) : Json → Option String
  | .string spelling => unescape? spelling
  | .object [(key, .null)] => unescape? key
  | .object [(key, .object [])] => if bare then unescape? key else none
  | _ => none

def reader : Reader Option Json where
  given?
    | .null => some none
    | value => some (some value)
  text? := text?
  flag? := flag?
  count? := count?
  choice? := choice? false
  items? := items?
  entries? := members?
  fields? := fields?

end GridSchema.Json
