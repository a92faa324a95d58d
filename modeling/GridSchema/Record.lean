/-! Reading records from a notation, such as JSON or YAML, without fixing which one. -/

namespace GridSchema

/-- How the values of a notation are read, in a monad in which reading can fail. Each reader fails
for a value that is not of its kind. -/
structure Reader (m : Type → Type) (ν : Type) where
  /-- The value of an optional field, unless it says that the field is left out. -/
  given? : ν → m (Option ν)
  /-- A text. -/
  text? : ν → m String
  /-- A truth value. -/
  flag? : ν → m Bool
  /-- A natural number. -/
  count? : ν → m Nat
  /-- One of several names, each standing for a choice without contents. -/
  choice? : ν → m String
  /-- A list. -/
  items? : ν → m (List ν)
  /-- A map from texts, in the order in which it is written. -/
  entries? : ν → m (List (String × ν))
  /-- The values of a record's fields, in the order in which the fields are named. Other fields
  are passed over; a field given twice is an error. -/
  fields? : List String → ν → m (List (Option ν))

namespace Reader

/-- The values given under each name. No name may be given twice. -/
def assign (names : List String) (given : List (String × ν)) : Option (List (Option ν)) :=
  names.mapM fun name =>
    match given.filter (·.1 == name) with
    | [] => some none
    | [(_, value)] => some (some value)
    | _ => none

def position (names : List String) (given : List ν) : Option (List (Option ν)) :=
  if given.length ≤ names.length then
    some (given.map some ++ List.replicate (names.length - given.length) none)
  else none

variable {m : Type → Type} [Monad m] [MonadLiftT Option m]

def required (read : ν → m α) (field : Option ν) : m α := do
  read (← field)

def defaulted (otherwise : α) (read : ν → m α) : Option ν → m α
  | none => pure otherwise
  | some value => read value

variable (r : Reader m ν)

def optional (read : ν → m α) : Option ν → m (Option α)
  | none => pure none
  | some value => do (← r.given? value).mapM read

def bounded? (width : Nat) (value : ν) : m Nat := do
  Option.guard (· < Nat.pow 2 width) (← r.count? value)

def word? (value : ν) : m UInt32 :=
  UInt32.ofNat <$> r.bounded? 32 value

def list? (read : ν → m α) (value : ν) : m (List α) := do
  (← r.items? value).mapM read

def texts? (value : ν) : m (List String) :=
  r.list? r.text? value

/-- A map from texts, whose values `read` reads. -/
def map? (read : ν → m α) (value : ν) : m (List (String × α)) := do
  (← r.entries? value).mapM fun (key, value) => do return (key, ← read value)

end Reader

end GridSchema
