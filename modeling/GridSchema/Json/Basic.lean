import GridSchema.Text.Digits

/-! JSON values as they are spelled. -/

namespace GridSchema

/-- A JSON value. Numbers and strings keep their spelling: a number is its literal, a string or a
key is what stands between the quotes, escapes included. What a spelling means is asked only of
the values that are used. -/
inductive Json where
  | null
  | bool (value : Bool)
  | number (spelling : String)
  | string (spelling : String)
  | array (items : List Json)
  | object (members : List (String × Json))
  deriving Repr, Inhabited

namespace Json

def shortEscape? : Char → Option Char
  | '"' => some '"'
  | '\\' => some '\\'
  | '/' => some '/'
  | 'b' => some '\x08'
  | 'f' => some '\x0C'
  | 'n' => some '\n'
  | 'r' => some '\r'
  | 't' => some '\t'
  | _ => none

/-- Reads a spelling; `text` holds what was read before, latest first. A surrogate must be one
half of a pair. -/
def readSpelling (text : List Char) : List Char → Option (List Char)
  | [] => some text.reverse
  | '\\' :: 'u' :: a :: b :: c :: d :: rest =>
    match Text.numberIn? 16 [a, b, c, d] with
    | none => none
    | some unit =>
      if unit < 0xD800 ∨ 0xDFFF < unit then readSpelling (Char.ofNat unit :: text) rest
      else if 0xDC00 ≤ unit then none
      else match rest with
        | '\\' :: 'u' :: a :: b :: c :: d :: rest =>
          match Text.numberIn? 16 [a, b, c, d] with
          | none => none
          | some low =>
            if 0xDC00 ≤ low ∧ low ≤ 0xDFFF then
              let code := 0x10000 + (unit - 0xD800) * 0x400 + (low - 0xDC00)
              readSpelling (Char.ofNat code :: text) rest
            else none
        | _ => none
  | '\\' :: c :: rest =>
    match shortEscape? c with
    | some meant => readSpelling (meant :: text) rest
    | none => none
  | '\\' :: [] => none
  | c :: rest => readSpelling (c :: text) rest

/-- The text that a spelling stands for, unless it has half a surrogate pair. -/
def unescape? (spelling : String) : Option String :=
  (readSpelling [] spelling.toList).map String.ofList

private def hexDigit (n : Nat) : Char :=
  if n < 10 then Char.ofNat ('0'.toNat + n) else Char.ofNat ('a'.toNat + (n - 10))

def escapeChar (c : Char) : List Char :=
  match c with
  | '"' => ['\\', '"']
  | '\\' => ['\\', '\\']
  | '\x08' => ['\\', 'b']
  | '\x0C' => ['\\', 'f']
  | '\n' => ['\\', 'n']
  | '\r' => ['\\', 'r']
  | '\t' => ['\\', 't']
  | c =>
    if c.toNat < 0x20 then ['\\', 'u', '0', '0', hexDigit (c.toNat / 16), hexDigit (c.toNat % 16)]
    else [c]

def escape (text : String) : String :=
  String.ofList (text.toList.flatMap escapeChar)

def ofText (text : String) : Json :=
  .string (escape text)

def ofNat (n : Nat) : Json :=
  .number (toString n)

def ofTexts (texts : List String) : Json :=
  .array (texts.map ofText)

def ofFields (fields : List (String × Json)) : Json :=
  .object (fields.map fun (key, value) => (escape key, value))

def text? : Json → Option String
  | .string spelling => unescape? spelling
  | _ => none

def flag? : Json → Option Bool
  | .bool value => some value
  | _ => none

def digits? (spelling : String) : Option Nat :=
  let digits := spelling.toList
  if digits.isEmpty ∨ ¬ digits.all Char.isDigit then none
  else some (Text.decimal digits)

def count? : Json → Option Nat
  | .number spelling => digits? spelling
  | _ => none

def items? : Json → Option (List Json)
  | .array items => some items
  | _ => none

def members? : Json → Option (List (String × Json))
  | .object members => members.mapM fun (key, value) => do return (← unescape? key, value)
  | _ => none

end Json

end GridSchema
