import GridSchema.Cache.Record
import GridSchema.Error
import GridSchema.Json.Range

/-! What a client asks of a server and what the server answers. -/

namespace GridSchema

inductive Request where
  | cacheNames
  | cacheConfiguration (name : String)
  | createCache (cache : CacheDefinition)
  | destroyCache (name : String)
  deriving DecidableEq, Repr

inductive FailureKind where
  | cacheNotFound
  | cacheExists
  | internal
  deriving DecidableEq, Repr

inductive Response where
  | cacheNames (names : List String)
  | cacheConfiguration (cache : CacheDefinition)
  | done
  | failure (kind : FailureKind) (message : String)
  deriving DecidableEq, Repr

def FailureKind.name : FailureKind → String
  | cacheNotFound => "cache_not_found"
  | cacheExists => "cache_exists"
  | internal => "internal"

def FailureKind.ofName? : String → Option FailureKind
  | "cache_not_found" => some cacheNotFound
  | "cache_exists" => some cacheExists
  | "internal" => some internal
  | _ => none

def FailureKind.error (kind : FailureKind) (message : String) : Error :=
  match kind with
  | cacheNotFound => .cacheNotFound message
  | cacheExists => .cacheExists message
  | internal => .client (.stated message)

/-- The answer for an error. Errors about one cache name it; of the others the text is kept. -/
def Response.ofError : Error → Response
  | .cacheNotFound name => failure .cacheNotFound name
  | .cacheExists name => failure .cacheExists name
  | error => failure .internal error.message

def Response.ofOutcome (answer : α → Response) : Except Error α → Response
  | .ok value => answer value
  | .error error => .ofError error

def Request.toJson : Request → Json
  | cacheNames => .ofFields [("op", .ofText "cache_names")]
  | cacheConfiguration name =>
    .ofFields [("op", .ofText "cache_configuration"), ("name", .ofText name)]
  | createCache cache => .ofFields [("op", .ofText "create_cache"), ("cache", cache.toJson)]
  | destroyCache name => .ofFields [("op", .ofText "destroy_cache"), ("name", .ofText name)]

def Response.toJson : Response → Json
  | cacheNames names => .ofFields [("status", .ofText "cache_names"), ("names", .ofTexts names)]
  | cacheConfiguration cache =>
    .ofFields [("status", .ofText "cache_configuration"), ("cache", cache.toJson)]
  | done => .ofFields [("status", .ofText "done")]
  | failure kind message =>
    .ofFields [("status", .ofText "error"), ("kind", .ofText kind.name),
      ("message", .ofText message)]

namespace Wire

/-- Values inside a message, which have all been read before their meaning is asked. The one
difference is that a choice may have an empty object for its contents. -/
def reader : Reader Option Json :=
  { Json.reader with choice? := Json.choice? true }

/-- The tag of a message and what comes with it: members by key, or items by position. -/
inductive Tagged where
  | members (tag : String) (rest : List (String × Json))
  | items (tag : String) (rest : List Json)

/-- Takes the tag out of a message. In an object it has a key and may stand anywhere, but once;
in an array it comes first. -/
def tagged? (key : String) : Json → Option Tagged
  | .array (tag :: rest) => tag.text?.map (.items · rest)
  | value => do
    let members ← value.members?
    let [(_, tag)] := members.filter (·.1 == key) | none
    return .members (← tag.text?) (members.filter (·.1 != key))

def Tagged.tag : Tagged → String
  | members tag _ => tag
  | items tag _ => tag

def Tagged.fields? (names : List String) : Tagged → Option (List (Option Json))
  | members _ rest => Reader.assign names rest
  | items _ rest => Reader.position names rest

/-- Accepts a message without fields. Members that it does not know are passed over, items are
not. -/
def Tagged.bare? (message : α) : Tagged → Option α
  | members .. => some message
  | items _ rest => if rest.isEmpty then some message else none

def Tagged.only? (name : String) (read : Json → Option α) (tagged : Tagged) : Option α := do
  let [field] ← tagged.fields? [name] | none
  Reader.required read field

end Wire

open Wire in
def Request.ofJson? (value : Json) : Option Request := do
  let tagged ← tagged? "op" value
  match tagged.tag with
  | "cache_names" => tagged.bare? cacheNames
  | "cache_configuration" => return cacheConfiguration (← tagged.only? "name" reader.text?)
  | "create_cache" => return createCache (← tagged.only? "cache" (CacheDefinition.read reader))
  | "destroy_cache" => return destroyCache (← tagged.only? "name" reader.text?)
  | _ => none

open Wire in
def Response.ofJson? (value : Json) : Option Response := do
  let tagged ← tagged? "status" value
  match tagged.tag with
  | "cache_names" => return cacheNames (← tagged.only? "names" reader.texts?)
  | "cache_configuration" =>
    return cacheConfiguration (← tagged.only? "cache" (CacheDefinition.read reader))
  | "done" => tagged.bare? done
  | "error" =>
    let [kind, message] ← tagged.fields? ["kind", "message"] | none
    return failure
      (← Reader.required (fun value => (reader.choice? value).bind FailureKind.ofName?) kind)
      (← Reader.required reader.text? message)
  | _ => none

end GridSchema
