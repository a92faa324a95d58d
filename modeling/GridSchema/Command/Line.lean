/-! Command lines: switches with and without values, the name of a command, and what follows two
dashes. Switches are read from left to right, and the first fault or request for help ends that. -/

namespace GridSchema.Command

inductive Halt where
  | help
  | version
  | misuse
  deriving DecidableEq, Repr

/-- What a switch does: it is given or not, ends the reading, or has a value, which is accepted or
not and may be given once or many times. -/
inductive SwitchKind where
  | plain
  | halting (halt : Halt)
  | valued (accepts : String → Bool) (mayRepeat : Bool)

/-- A switch: its names after two dashes, the first of which its values are filed under, and its
letter after one. -/
structure Switch where
  key : String
  aliases : List String
  letter : Option Char
  kind : SwitchKind

structure Grammar where
  switches : List Switch
  commands : List String

/-- What was read: the switches that were given, with their values, latest first, and the switch
that was given last if it is not filed yet. Its value may still be missing. -/
structure Reading where
  given : List (String × String)
  last : Option (Switch × Option String)

/-- What is left of a command line: nothing, a command with its arguments, or what follows two
dashes. -/
inductive Rest where
  | nothing
  | command (name : String) (arguments : List String)
  | raw (arguments : List String)
  deriving DecidableEq, Repr

def Reading.empty : Reading := ⟨[], none⟩

/-- Files a switch. It must accept its value, and may not have been given before unless it may
repeat. -/
def Switch.file (switch : Switch) (value : String) (given : List (String × String)) :
    Except Halt (List (String × String)) :=
  let filed := (switch.key, value) :: given
  let isNew := !given.any (·.1 == switch.key)
  match switch.kind with
  | .plain => if isNew then .ok filed else .error .misuse
  | .halting halt => .error halt
  | .valued accepts mayRepeat =>
    if accepts value && (mayRepeat || isNew) then .ok filed else .error .misuse

def Reading.settle (reading : Reading) : Except Halt (List (String × String)) :=
  match reading.last with
  | none => .ok reading.given
  | some (switch, some value) => switch.file value reading.given
  | some (_, none) => .error .misuse

def Reading.take (reading : Reading) (switch : Switch) (attached : Option String) :
    Except Halt Reading := do
  match switch.kind, attached with
  | .valued .., none => return ⟨← reading.settle, some (switch, none)⟩
  | .valued .., some value => return ⟨← switch.file value (← reading.settle), none⟩
  | _, none => return ⟨← switch.file "" (← reading.settle), none⟩
  | _, some _ => throw .misuse

namespace Grammar

/-- Reads a switch by name, and a value after an equals sign. -/
def takeNamed (grammar : Grammar) (reading : Reading) (text : List Char) : Except Halt Reading :=
  let name := String.ofList (text.takeWhile (· != '='))
  let attached := match text.dropWhile (· != '=') with
    | _ :: value => some (String.ofList value)
    | [] => none
  match grammar.switches.find? fun switch => switch.key == name || switch.aliases.contains name with
  | some switch => reading.take switch attached
  | none => .error .misuse

/-- Reads switches by letter. What follows the letter of one with a value is its value, after an
equals sign or not. -/
def takeLetters (grammar : Grammar) (reading : Reading) : List Char → Except Halt Reading
  | [] => .ok reading
  | letter :: rest =>
    match grammar.switches.find? (·.letter == some letter) with
    | none => .error .misuse
    | some switch =>
      match switch.kind, rest with
      | .valued .., [] => reading.take switch none
      | .valued .., '=' :: value => reading.take switch (String.ofList value)
      | .valued .., value => reading.take switch (String.ofList value)
      | _, rest => do grammar.takeLetters (← reading.take switch none) rest

/-- Reads arguments up to a command or two dashes. A value may not start with a dash unless it is
attached or no more than that. -/
def read (grammar : Grammar) (reading : Reading) : List String → Except Halt (Reading × Rest)
  | [] => .ok (reading, .nothing)
  | argument :: arguments =>
    match reading.last, argument.toList with
    | _, ['-', '-'] => .ok (reading, .raw arguments)
    | _, '-' :: '-' :: text => do
      grammar.read (← grammar.takeNamed reading text) arguments
    | _, '-' :: letter :: letters => do
      grammar.read (← grammar.takeLetters reading (letter :: letters)) arguments
    | some (switch, none), _ => grammar.read ⟨reading.given, some (switch, some argument)⟩ arguments
    | _, _ =>
      if grammar.commands.contains argument then .ok (reading, .command argument arguments)
      else .error .misuse

end Grammar

def value? (given : List (String × String)) (key : String) : Option String :=
  given.lookup key

def values (given : List (String × String)) (key : String) : List String :=
  ((given.filter (·.1 == key)).map (·.2)).reverse

def isGiven (given : List (String × String)) (key : String) : Bool :=
  given.any (·.1 == key)

end GridSchema.Command
