/-! UTF-8: text as bytes, and bytes as text when they are well formed. -/

namespace GridSchema

/-- A sequence of bytes, such as the contents of a file. -/
abbrev Bytes := List UInt8

namespace Utf8

def encode (text : String) : Bytes :=
  text.toList.flatMap String.utf8EncodeChar

/-- Where a reader stands between two bytes: between characters, or inside one with `owed` bytes
to come, the next of them from `low` to `high`, and the bits read so far in `code`. -/
inductive Pending where
  | start
  | inside (owed : Nat) (low high : UInt8) (code : Nat)
  deriving DecidableEq, Repr

def first (b : UInt8) : Option Char × Pending :=
  if b < 0x80 then (some (Char.ofNat b.toNat), .start)
  else if b < 0xC2 then (none, .start)
  else if b < 0xE0 then (none, .inside 1 0x80 0xBF (b.toNat % 0x20))
  else if b == 0xE0 then (none, .inside 2 0xA0 0xBF 0)
  else if b == 0xED then (none, .inside 2 0x80 0x9F 0xD)
  else if b < 0xF0 then (none, .inside 2 0x80 0xBF (b.toNat % 0x10))
  else if b == 0xF0 then (none, .inside 3 0x90 0xBF 0)
  else if b < 0xF4 then (none, .inside 3 0x80 0xBF (b.toNat % 8))
  else if b == 0xF4 then (none, .inside 3 0x80 0x8F 4)
  else (none, .start)

inductive Found where
  | character (c : Char)
  | fault
  deriving DecidableEq, Repr

/-- Reads a byte between characters. A byte that starts none is a fault. -/
def openChar (b : UInt8) : List Found × Pending :=
  match first b with
  | (some c, after) => ([.character c], after)
  | (none, .start) => ([.fault], .start)
  | (none, after) => ([], after)

/-- Reads one byte. A character cut short is a fault, and the byte that cut it is read anew. -/
def step : Pending → UInt8 → List Found × Pending
  | .start, b => openChar b
  | .inside owed low high code, b =>
    if low ≤ b ∧ b ≤ high then
      let code := code * 0x40 + b.toNat % 0x40
      if owed ≤ 1 then ([.character (Char.ofNat code)], .start)
      else ([], .inside (owed - 1) 0x80 0xBF code)
    else
      let (found, after) := openChar b
      (.fault :: found, after)

/-- Reads bytes to their end as long as there is no fault. `text` is what was read before, latest
first. -/
def scan? (text : List Char) : Pending → Bytes → Option (List Char)
  | .start, [] => some text.reverse
  | .inside .., [] => none
  | pending, b :: rest =>
    match step pending b with
    | ([], after) => scan? text after rest
    | ([.character c], after) => scan? (c :: text) after rest
    | _ => none

/-- Reads bytes to their end, where a character that is still open is a fault. `found` holds what
was read before, latest first. -/
def scan (found : List Found) : Pending → Bytes → List Found
  | .start, [] => found.reverse
  | .inside .., [] => (.fault :: found).reverse
  | pending, b :: rest =>
    let (new, after) := step pending b
    scan (new.reverse ++ found) after rest

/-- The text that the bytes encode, when they are well-formed UTF-8. -/
def decode? (bytes : Bytes) : Option String :=
  (scan? [] .start bytes).map String.ofList

def decodeLossy (bytes : Bytes) : String :=
  String.ofList ((scan [] .start bytes).map fun
    | .character c => c
    | .fault => Char.ofNat 0xFFFD)

end Utf8

end GridSchema
