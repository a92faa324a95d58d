import GridSchema.Json.Basic

/-! A reader of JSON that takes one character at a time and keeps its open arrays and objects on a
stack, so that nesting is bounded only where a bound is asked for. -/

namespace GridSchema.Json

namespace Parser

/-- An array or object whose end has not been read, with what it holds so far, latest first. In an
object `key` is the key whose value comes next. -/
inductive Opened where
  | array (items : List Json)
  | object (members : List (String × Json)) (key : String)

inductive NumberPart where
  | sign
  | zero
  | whole
  | point
  | fraction
  | exponent
  | exponentSign
  | exponentDigits
  deriving DecidableEq

/-- How far a string has been read: up to a character of its own, after a backslash, or with `owed`
digits of an escape to come. -/
inductive StringPart where
  | plain
  | escape
  | unicode (owed : Nat)

/-- What comes next. `first` holds before the first item or member, where the end may come too. -/
inductive Position where
  | value (first : Bool)
  | key (first : Bool)
  | colon
  | afterValue
  | finished (value : Json)
  | word (rest : List Char) (value : Json)
  | number (part : NumberPart) (spelled : List Char)
  | string (isKey : Bool) (part : StringPart) (spelled : List Char)

structure State where
  position : Position
  opened : List Opened

def State.initial : State := ⟨.value false, []⟩

private def isSpace (c : Char) : Bool :=
  c == ' ' || c == '\n' || c == '\r' || c == '\t'

def complete (value : Json) : List Opened → State
  | [] => ⟨.finished value, []⟩
  | .array items :: around => ⟨.afterValue, .array (value :: items) :: around⟩
  | .object members key :: around => ⟨.afterValue, .object ((key, value) :: members) "" :: around⟩

def close (c : Char) : List Opened → Option State
  | .array items :: around =>
    if c = ']' then some (complete (.array items.reverse) around) else none
  | .object members _ :: around =>
    if c = '}' then some (complete (.object members.reverse) around) else none
  | [] => none

def afterValue (state : State) (c : Char) : Option State :=
  if isSpace c then some state
  else if c = ',' then
    match state.opened with
    | .array _ :: _ => some ⟨.value false, state.opened⟩
    | .object _ _ :: _ => some ⟨.key false, state.opened⟩
    | [] => none
  else close c state.opened

/-- Whether one more array or object may be opened inside `opened`. -/
def fits (limit : Option Nat) (opened : List Opened) : Bool :=
  limit.all fun most => opened.length < most

def startValue (limit : Option Nat) (first : Bool) (opened : List Opened) (c : Char) :
    Option State :=
  if isSpace c then some ⟨.value first, opened⟩
  else match c with
  | '{' => if fits limit opened then some ⟨.key true, .object [] "" :: opened⟩ else none
  | '[' => if fits limit opened then some ⟨.value true, .array [] :: opened⟩ else none
  | ']' => if first then close ']' opened else none
  | '"' => some ⟨.string false .plain [], opened⟩
  | 't' => some ⟨.word ['r', 'u', 'e'] (.bool true), opened⟩
  | 'f' => some ⟨.word ['a', 'l', 's', 'e'] (.bool false), opened⟩
  | 'n' => some ⟨.word ['u', 'l', 'l'] .null, opened⟩
  | '-' => some ⟨.number .sign ['-'], opened⟩
  | '0' => some ⟨.number .zero ['0'], opened⟩
  | c => if c.isDigit then some ⟨.number .whole [c], opened⟩ else none

def NumberPart.next? (part : NumberPart) (c : Char) : Option NumberPart :=
  match part with
  | .sign => if c = '0' then some .zero else if c.isDigit then some .whole else none
  | .zero =>
    if c = '.' then some .point else if c = 'e' ∨ c = 'E' then some .exponent else none
  | .whole =>
    if c.isDigit then some .whole
    else if c = '.' then some .point else if c = 'e' ∨ c = 'E' then some .exponent else none
  | .point => if c.isDigit then some .fraction else none
  | .fraction =>
    if c.isDigit then some .fraction else if c = 'e' ∨ c = 'E' then some .exponent else none
  | .exponent =>
    if c = '+' ∨ c = '-' then some .exponentSign
    else if c.isDigit then some .exponentDigits else none
  | .exponentSign => if c.isDigit then some .exponentDigits else none
  | .exponentDigits => if c.isDigit then some .exponentDigits else none

def NumberPart.complete : NumberPart → Bool
  | .zero | .whole | .fraction | .exponentDigits => true
  | _ => false

def readNumber (part : NumberPart) (spelled : List Char) (opened : List Opened) (c : Char) :
    Option State :=
  match part.next? c with
  | some part => some ⟨.number part (c :: spelled), opened⟩
  | none =>
    -- A zero is not followed by a digit.
    if part.complete ∧ ¬ c.isDigit then
      afterValue (Parser.complete (.number (String.ofList spelled.reverse)) opened) c
    else none

def endString (isKey : Bool) (spelling : String) (opened : List Opened) : Option State :=
  if isKey then
    match opened with
    | .object members _ :: around => some ⟨.colon, .object members spelling :: around⟩
    | _ => none
  else some (complete (.string spelling) opened)

private def isHex (c : Char) : Bool :=
  c.isDigit || ('a' ≤ c && c ≤ 'f') || ('A' ≤ c && c ≤ 'F')

/-- Reads a character of a string. Only the syntax of an escape is checked. -/
def readString (isKey : Bool) (part : StringPart) (spelled : List Char) (opened : List Opened)
    (c : Char) : Option State :=
  match part with
  | .plain =>
    if c = '"' then endString isKey (String.ofList spelled.reverse) opened
    else if c = '\\' then some ⟨.string isKey .escape (c :: spelled), opened⟩
    else if c.toNat < 0x20 then none
    else some ⟨.string isKey .plain (c :: spelled), opened⟩
  | .escape =>
    if c = 'u' then some ⟨.string isKey (.unicode 4) (c :: spelled), opened⟩
    else if (shortEscape? c).isSome then some ⟨.string isKey .plain (c :: spelled), opened⟩
    else none
  | .unicode owed =>
    if isHex c then
      let part := if owed ≤ 1 then .plain else .unicode (owed - 1)
      some ⟨.string isKey part (c :: spelled), opened⟩
    else none

/-- Reads one character. At most `limit` arrays and objects may be open at once. -/
def step (limit : Option Nat) (state : State) (c : Char) : Option State :=
  match state.position with
  | .value first => startValue limit first state.opened c
  | .key first =>
    if isSpace c then some state
    else if c = '"' then some ⟨.string true .plain [], state.opened⟩
    else if c = '}' ∧ first then close c state.opened
    else none
  | .colon =>
    if isSpace c then some state
    else if c = ':' then some ⟨.value false, state.opened⟩
    else none
  | .afterValue => afterValue state c
  | .finished _ => if isSpace c then some state else none
  | .word [] _ => none
  | .word [last] value => if c = last then some (complete value state.opened) else none
  | .word (next :: rest) value => if c = next then some ⟨.word rest value, state.opened⟩ else none
  | .number part spelled => readNumber part spelled state.opened c
  | .string isKey part spelled => readString isKey part spelled state.opened c

def run (limit : Option Nat) (state : State) : List Char → Option State
  | [] => some state
  | c :: rest =>
    match step limit state c with
    | some state => run limit state rest
    | none => none

def finish (state : State) : Option Json :=
  match state.position, state.opened with
  | .finished value, _ => some value
  | .number part spelled, [] =>
    if part.complete then some (.number (String.ofList spelled.reverse)) else none
  | _, _ => none

end Parser

/-- The value that a text spells, with at most `limit` arrays and objects inside one another. -/
def parseWithin? (limit : Option Nat) (text : String) : Option Json :=
  (Parser.run limit .initial text.toList).bind Parser.finish

def parse? (text : String) : Option Json :=
  parseWithin? none text

end GridSchema.Json
