import GridSchema.Command.Line
import GridSchema.Instance.Config
import GridSchema.Text.Digits

/-! What a command line asks the program to do. -/

namespace GridSchema.Command

structure SnapshotCommand where
  addresses : List String
  dir : Option String
  name : Option String
  degrade : Bool
  full : Bool
  caches : List String
  playground : Option String
  raw : List String
  deriving DecidableEq, Repr

structure ServeCommand where
  config : InstanceConfig
  seed : Option String
  deriving DecidableEq, Repr

inductive Action where
  | snapshot (command : SnapshotCommand)
  | serve (command : ServeCommand)
  deriving DecidableEq, Repr

/-- A command line: the configuration file, whether a report is shown as JSON, and the action. -/
structure Invocation where
  configPath : Option String
  asJson : Bool
  action : Action
  deriving DecidableEq, Repr

def versionText : String := "schema-snapshot 0.1.0"

/-! ### Switches -/

def textSwitch (key : String) : Switch :=
  ⟨key, [], none, .valued (fun _ => true) false⟩

def pathSwitch (key : String) : Switch :=
  ⟨key, [], none, .valued (fun value => !value.isEmpty) false⟩

/-- The port that a text stands for. A sign may stand in front. -/
def port? (text : String) : Option Nat := do
  let (negative, digits) := match text.toList with
    | '-' :: digits => (true, digits)
    | '+' :: digits => (false, digits)
    | digits => (false, digits)
  let port ← Text.numberIn? 10 digits
  if port < 65536 ∧ (negative → port = 0) then return port else none

def helpSwitch : Switch := ⟨"help", [], 'h', .halting .help⟩

def outerGrammar : Grammar where
  switches := [
    { pathSwitch "config" with letter := 'c' },
    ⟨"output-json", [], none, .plain⟩,
    textSwitch "log-format",
    textSwitch "verbosity",
    helpSwitch,
    ⟨"version", [], 'V', .halting .version⟩]
  commands := ["snapshot", "ss", "serve", "help"]

def snapshotGrammar : Grammar where
  switches := [
    ⟨"address", [], 'a', .valued (fun _ => true) true⟩,
    pathSwitch "dir",
    textSwitch "name",
    ⟨"unsafe-type", ["ut"], none, .plain⟩,
    ⟨"full", [], none, .plain⟩,
    ⟨"cache", [], none, .valued (fun _ => true) true⟩,
    pathSwitch "playground",
    helpSwitch]
  commands := []

def serveGrammar : Grammar where
  switches := [
    textSwitch "host",
    ⟨"port", [], none, .valued (fun value => (port? value).isSome) false⟩,
    pathSwitch "seed",
    helpSwitch]
  commands := []

def defaultPort : Nat := 10800

/-! ### Reading -/

def SnapshotCommand.parse (arguments : List String) : Except Halt SnapshotCommand := do
  let (reading, rest) ← snapshotGrammar.read .empty arguments
  let given ← reading.settle
  return {
    addresses := values given "address"
    dir := value? given "dir"
    name := value? given "name"
    degrade := isGiven given "unsafe-type"
    full := isGiven given "full"
    caches := values given "cache"
    playground := value? given "playground"
    raw := match rest with
      | .raw arguments => arguments
      | _ => [] }

def ServeCommand.parse (arguments : List String) : Except Halt ServeCommand := do
  let (reading, rest) ← serveGrammar.read .empty arguments
  let given ← reading.settle
  if let .raw (_ :: _) := rest then throw .misuse
  return {
    config := {
      host := (value? given "host").getD defaultHost
      port := ((value? given "port").bind port?).getD defaultPort }
    seed := value? given "seed" }

def parseHelp : List String → Halt
  | [] => .help
  | [name] => if outerGrammar.commands.contains name then .help else .misuse
  | _ => .misuse

def Action.parse (name : String) (arguments : List String) : Except Halt Action :=
  match name with
  | "serve" => return .serve (← ServeCommand.parse arguments)
  | "help" => .error (parseHelp arguments)
  | _ => return .snapshot (← SnapshotCommand.parse arguments)

/-- Reads a command line. The last switch before the command is filed after what follows the
command has been read. -/
def Invocation.parse (arguments : List String) : Except Halt Invocation := do
  let (reading, rest) ← outerGrammar.read .empty arguments
  match rest with
  | .command name arguments =>
    let action ← Action.parse name arguments
    let given ← reading.settle
    return {
      configPath := value? given "config"
      asJson := isGiven given "output-json"
      action }
  | _ => throw .misuse

end GridSchema.Command
