import GridSchema.Text.Graphic
import GridSchema.Text.Split
import GridSchema.Wire.Message

/-! Answers as the text of an error shows them. -/

namespace GridSchema

namespace Describe

/-- How a character is shown between quotes. One that is not graphic is shown by an escape. -/
def character (c : Char) : List Char :=
  match c with
  | '"' => ['\\', '"']
  | '\\' => ['\\', '\\']
  | '\n' => ['\\', 'n']
  | '\r' => ['\\', 'r']
  | '\t' => ['\\', 't']
  | '\x00' => ['\\', '0']
  | c =>
    if Text.isGraphic c then [c]
    else ['\\', 'u', '\x7b'] ++ Nat.toDigits 16 c.toNat ++ ['\x7d']

def text (value : String) : String :=
  "\"" ++ String.ofList (value.toList.flatMap character) ++ "\""

def optional (describe : α → String) : Option α → String
  | none => "None"
  | some value => "Some(" ++ describe value ++ ")"

def list (values : List String) : String :=
  "[" ++ ", ".intercalate values ++ "]"

def set (values : List String) : String :=
  "\x7b" ++ ", ".intercalate values ++ "\x7d"

def record (name : String) (fields : List (String × String)) : String :=
  name ++ " \x7b " ++ ", ".intercalate (fields.map fun (key, value) => key ++ ": " ++ value) ++
    " \x7d"

def capitalized (word : String) : String :=
  String.ofList <| (Text.split '_' word.toList).flatMap fun
    | [] => []
    | c :: rest => c.toUpper :: rest.map Char.toLower

end Describe

open Describe

def QueryField.describe (field : QueryField) : String :=
  record "QueryField" [("name", text field.name), ("type_name", text field.className)]

def QueryEntity.describe (entity : QueryEntity) : String :=
  record "QueryEntity" [
    ("key_type", text entity.keyType),
    ("value_type", text entity.valueType),
    ("table_name", optional text entity.declaredTable),
    ("schema", optional text entity.schema),
    ("key_field_name", optional text entity.keyField),
    ("fields", list (entity.fields.map QueryField.describe)),
    ("not_null_fields", set (entity.notNull.names.map text)),
    ("fields_precision", set (entity.precisions.entries.map fun (name, precision) =>
      text name ++ ": " ++ toString precision))]

def CacheDefinition.describe (cache : CacheDefinition) : String :=
  record "CacheDefinition" [
    ("name", text cache.name),
    ("group_name", optional text cache.group),
    ("data_region", optional text cache.dataRegion),
    ("query_parallelism", toString cache.parallelism),
    ("backups", toString cache.backups),
    ("atomicity_mode", optional (fun mode => capitalized mode.name) cache.atomicity),
    ("write_synchronization_mode", capitalized cache.writeSync.name),
    ("query_entities", list (cache.entities.map QueryEntity.describe))]

def Response.describe : Response → String
  | cacheNames names => record "CacheNames" [("names", list (names.map text))]
  | cacheConfiguration cache => record "CacheConfiguration" [("cache", cache.describe)]
  | done => "Done"
  | failure kind message =>
    record "Error" [("kind", capitalized kind.name), ("message", text message)]

end GridSchema
