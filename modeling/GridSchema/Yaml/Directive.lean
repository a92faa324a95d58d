import GridSchema.Yaml.Cursor
import GridSchema.Yaml.Token

/-! Anchors, tags and directives. -/

namespace GridSchema.Yaml

/-- Reads the name of an anchor or alias, of which the indicator comes next. -/
def scanName (cursor : Cursor) : Option (String × Cursor) :=
  let (name, after) := cursor.skip.takeWhile isWord
  let ends := (after.peek 0).all fun c =>
    isGap c || ['?', ':', ',', ']', '}', '%', '@', '\x60'].contains c
  if name.isEmpty || !ends then none else some (String.ofList name, after)

def encodedLength? (b : UInt8) : Option Nat :=
  if b < 0x80 then some 1
  else if b < 0xC0 then none
  else if b < 0xE0 then some 2
  else if b < 0xF0 then some 3
  else if b < 0xF8 then some 4
  else none

/-- Reads `count` bytes, each spelled as a percent sign and two digits. -/
def readOctets : Nat → Cursor → Option (Bytes × Cursor)
  | 0, cursor => some ([], cursor)
  | count + 1, cursor => do
    if !cursor.holds 0 '%' then none
    let octet := UInt8.ofNat (← Text.numberIn? 16 [← cursor.peek 1, ← cursor.peek 2])
    let (rest, cursor) ← readOctets count (cursor.skipMany 3)
    return (octet :: rest, cursor)

/-- Reads a character spelled byte by byte, of which only the number of bytes and the upper bits of
those after the first are checked. -/
def readEncoded (cursor : Cursor) : Option (Tag × Cursor) := do
  let ([lead], _) ← readOctets 1 cursor | none
  let (bytes, cursor) ← readOctets (← encodedLength? lead) cursor
  if bytes.tail.all fun b => 0x80 ≤ b && b < 0xC0 then return (bytes, cursor) else none

/-- Reads the characters of a tag after `tag`. A verbatim one may have some more. -/
def readTagText (verbatim : Bool) (tag : Tag) : Nat → Cursor → Option (Tag × Cursor)
  | 0, _ => none
  | rounds + 1, cursor =>
    match cursor.peek 0 with
    | none => some (tag, cursor)
    | some c =>
      if c == '%' then do
        let (encoded, cursor) ← readEncoded cursor
        readTagText verbatim (tag ++ encoded) rounds cursor
      else if isTag c || (verbatim && [',', '[', ']'].contains c) then
        readTagText verbatim (tag ++ String.utf8EncodeChar c) rounds cursor.skip
      else some (tag, cursor)

/-- What a tag says: a zero byte ends it. -/
def Tag.untilZero (tag : Tag) : Tag :=
  tag.takeWhile (· != 0)

def readTagText1 (rounds : Nat) (verbatim : Bool) (cursor : Cursor) : Option (Tag × Cursor) := do
  let (tag, cursor) ← readTagText verbatim [] rounds cursor
  if tag.isEmpty then none else some (tag.untilZero, cursor)

/-- Reads an exclamation mark, a name after it and the mark that closes a handle, if there is
one. -/
def readHandle (cursor : Cursor) : Option (List Char × Cursor) :=
  if cursor.holds 0 '!' then
    let (name, cursor) := cursor.skip.takeWhile isWord
    if cursor.holds 0 '!' then some ('!' :: name ++ ['!'], cursor.skip)
    else some ('!' :: name, cursor)
  else none

/-- Whether a text is a handle with a name between two marks, or both marks alone. -/
def isNamedHandle (handle : List Char) : Bool :=
  handle.length ≥ 2 && handle.getLast? == some '!'

/-- Reads a tag, of which the first mark comes next: a verbatim one, one with a handle, or one
without, whose handle is the mark alone. A mark alone is a tag without handle. -/
def scanTag (rounds : Nat) (inFlow : Bool) (cursor : Cursor) : Option (Token × Cursor) := do
  let (handle, suffix, cursor) ←
    if cursor.holds 1 '<' then do
      let (suffix, cursor) ← readTagText1 rounds true (cursor.skipMany 2)
      if !cursor.holds 0 '>' then none
      pure ([], suffix, cursor.skip)
    else do
      let (handle, cursor) ← readHandle cursor
      if isNamedHandle handle then
        let (suffix, cursor) ← readTagText1 rounds false cursor
        pure (handle, suffix, cursor)
      else
        let name := Utf8.encode (String.ofList handle.tail)
        let (suffix, cursor) ← readTagText false name rounds cursor
        let suffix := suffix.untilZero
        if suffix.isEmpty then pure ([], Utf8.encode "!", cursor) else pure (['!'], suffix, cursor)
  if cursor.gapAt 0 || (inFlow && cursor.holds 0 ',') then
    return (.tag (String.ofList handle) suffix, cursor)
  else none

def readVersionNumber (cursor : Cursor) : Option (Nat × Cursor) :=
  let (digits, cursor) := cursor.takeWhile Char.isDigit
  if digits.isEmpty || digits.length > 9 then none
  else some (Text.decimal digits, cursor)

/-- Reads a directive, of which the percent sign comes next, and the rest of its line. -/
def scanDirective (rounds : Nat) (cursor : Cursor) : Option (Token × Cursor) := do
  let (name, cursor) := cursor.skip.takeWhile isWord
  if !cursor.gapAt 0 then none
  let cursor' := cursor.skipWhile isSpace
  match String.ofList name with
  | "YAML" =>
    let (major, cursor) ← readVersionNumber cursor'
    if !cursor.holds 0 '.' then none
    let (minor, cursor) ← readVersionNumber cursor.skip
    return (.version major minor, ← cursor.endLine?)
  | "TAG" =>
    let (handle, cursor) ← readHandle cursor'
    if !(handle == ['!'] || isNamedHandle handle) then none
    if !(cursor.peek 0).any isSpace then none
    let (tagStart, cursor) ← readTagText1 rounds true (cursor.skipWhile isSpace)
    if !cursor.gapAt 0 then none
    return (.tagDirective (String.ofList handle) tagStart, ← cursor.endLine?)
  | _ => none

end GridSchema.Yaml
