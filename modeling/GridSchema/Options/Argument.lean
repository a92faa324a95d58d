import GridSchema.Error
import GridSchema.Options.Basic

/-! Options given as raw arguments and as properties. -/

namespace GridSchema

inductive Flag where
  | degrade
  | full
  deriving DecidableEq, Repr

inductive Property where
  | name
  | dir
  deriving DecidableEq, Repr

def Flag.aliases : Flag → List String
  | degrade => ["unsafe-type", "ut"]
  | full => ["full"]

def Flag.all : List Flag := [degrade, full]

def Flag.parse? (argument : String) : Option Flag :=
  match argument.toList with
  | '-' :: name => all.find? fun flag => flag.aliases.contains (String.ofList name)
  | _ => none

def Property.key : Property → String
  | name => "snapshot.name"
  | dir => "snapshot.dir"

def Property.all : List Property := [name, dir]

def Property.domain : String := "flyway."

/-- The property of a key, with or without its domain. -/
def Property.parse? (key : String) : Option Property :=
  let bare := match stripStart? domain.toList key.toList with
    | some rest => String.ofList rest
    | none => key
  all.find? fun property => property.key == bare

def SnapshotOptions.applyFlag (options : SnapshotOptions) : Flag → SnapshotOptions
  | .degrade => { options with degrade := true }
  | .full => { options with full := true }

def SnapshotOptions.applyProperty (options : SnapshotOptions) (property : Property)
    (value : String) : SnapshotOptions :=
  match property with
  | .name => { options with name := value }
  | .dir => { options with dir := value }

/-- The two parts of a text around the first equals sign. -/
def splitAssignment? (text : List Char) : Option (String × String) :=
  match text.dropWhile (· != '=') with
  | _ :: value => some (String.ofList (text.takeWhile (· != '=')), String.ofList value)
  | [] => none

inductive Argument where
  | flag (flag : Flag)
  | property (property : Property) (value : String)
  deriving DecidableEq, Repr

/-- Reads an argument: a flag, or a dash and an assignment to a property. -/
def Argument.parse? (argument : String) : Option Argument :=
  match Flag.parse? argument with
  | some named => some (.flag named)
  | none =>
    match argument.toList with
    | '-' :: rest => do
      let (key, value) ← splitAssignment? rest
      return .property (← Property.parse? key) value
    | _ => none

def SnapshotOptions.applyArgument (options : SnapshotOptions) : Argument → SnapshotOptions
  | .flag flag => options.applyFlag flag
  | .property property value => options.applyProperty property value

/-- Applies arguments in order up to the first that is not recognized, which is an error. The
options are returned in either case. -/
def SnapshotOptions.applyArguments (options : SnapshotOptions) :
    List String → SnapshotOptions × Except Error Unit
  | [] => (options, .ok ())
  | text :: rest =>
    match Argument.parse? text with
    | some argument => (options.applyArgument argument).applyArguments rest
    | none => (options, .error (.config (.unknownArgument text)))

/-- Applies the properties among the entries of a map, in the order in which they are listed, and
returns the other entries. -/
def SnapshotOptions.applyProperties (options : SnapshotOptions) (entries : List (String × String)) :
    SnapshotOptions × List (String × String) :=
  (entries.foldl (fun options (key, value) =>
      match Property.parse? key with
      | some property => options.applyProperty property value
      | none => options) options,
    entries.filter fun (key, _) => (Property.parse? key).isNone)

end GridSchema
