import GridSchema.Yaml.Cursor
import GridSchema.Yaml.Token

/-! Scalars in their five styles. A reader that takes `rounds` reads a character in each, so as many
as there are characters are enough. -/

namespace GridSchema.Yaml

/-- Space between two parts of a scalar: spaces within a line, or a first line break and those after
it, once a break has been read. -/
structure Gap where
  spaces : List Char
  firstBreak : List Char
  laterBreaks : List Char
  broken : Bool

def Gap.none : Gap := ⟨[], [], [], false⟩

/-- What a gap contributes to the text. A single line feed is folded into a space. -/
def Gap.folded (gap : Gap) : List Char :=
  if gap.broken then
    if gap.firstBreak == ['\n'] then
      if gap.laterBreaks.isEmpty then [' '] else gap.laterBreaks
    else gap.firstBreak ++ gap.laterBreaks
  else gap.spaces

/-- Reads spaces and line breaks. In lines after the first, a tab left of `indent` is refused. -/
def readGap (indent : Int) (gap : Gap) : Nat → Cursor → Option (Gap × Cursor)
  | 0, _ => .none
  | rounds + 1, cursor =>
    match cursor.peek 0 with
    | .none => some (gap, cursor)
    | some c =>
      if isSpace c then
        if gap.broken then
          if c == '\t' && (cursor.column : Int) < indent then .none
          else readGap indent gap rounds cursor.skip
        else readGap indent { gap with spaces := gap.spaces ++ [c] } rounds cursor.skip
      else if isBreak c then
        let (read, cursor) := cursor.takeBreak
        if gap.broken then
          readGap indent { gap with laterBreaks := gap.laterBreaks ++ read } rounds cursor
        else readGap indent ⟨[], read, [], true⟩ rounds cursor
      else some (gap, cursor)

/-! ### Quoted scalars -/

/-- What an escape stands for, by its letter: a character or the digits of one. -/
inductive Escape where
  | character (c : Char)
  | digits (count : Nat)

def escape? : Char → Option Escape
  | '0' => some (.character '\x00')
  | 'a' => some (.character '\x07')
  | 'b' => some (.character '\x08')
  | 't' | '\t' => some (.character '\t')
  | 'n' => some (.character '\n')
  | 'v' => some (.character '\x0B')
  | 'f' => some (.character '\x0C')
  | 'r' => some (.character '\r')
  | 'e' => some (.character '\x1B')
  | ' ' => some (.character ' ')
  | '"' => some (.character '"')
  | '/' => some (.character '/')
  | '\\' => some (.character '\\')
  | 'N' => some (.character '\u0085')
  | '_' => some (.character '\u00A0')
  | 'L' => some (.character '\u2028')
  | 'P' => some (.character '\u2029')
  | 'x' => some (.digits 2)
  | 'u' => some (.digits 4)
  | 'U' => some (.digits 8)
  | _ => none

def character? (code : Nat) : Option Char :=
  if (0xD800 ≤ code ∧ code ≤ 0xDFFF) ∨ 0x10FFFF < code then none else some (Char.ofNat code)

/-- Reads an escape, of which the backslash comes next. -/
def readEscape (cursor : Cursor) : Option (Char × Cursor) := do
  match ← escape? (← cursor.peek 1) with
  | .character c => return (c, cursor.skipMany 2)
  | .digits count =>
    let digits := (cursor.rest.drop 2).take count
    if digits.length < count then none
    return (← character? (← Text.numberIn? 16 digits), cursor.skipMany (2 + count))

/-- Reads up to a gap or the closing quote. `text` is latest first. The last component tells that
the part ends in an escaped line break. -/
def readQuotedPart (single : Bool) (text : List Char) :
    Nat → Cursor → Option (List Char × Cursor × Bool)
  | 0, _ => none
  | rounds + 1, cursor =>
    match cursor.peek 0 with
    | none => some (text, cursor, false)
    | some c =>
      if isGap c then some (text, cursor, false)
      else if single && c == '\'' && cursor.holds 1 '\'' then
        readQuotedPart single ('\'' :: text) rounds (cursor.skipMany 2)
      else if c == (if single then '\'' else '"') then some (text, cursor, false)
      else if !single && c == '\\' then
        if (cursor.peek 1).any isBreak then some (text, cursor.skip.skipBreak, true)
        else do
          let (escaped, cursor) ← readEscape cursor
          readQuotedPart single (escaped :: text) rounds cursor
      else readQuotedPart single (c :: text) rounds cursor.skip

def readQuoted (single : Bool) (text : List Char) : Nat → Cursor → Option (List Char × Cursor)
  | 0, _ => none
  | rounds + 1, cursor => do
    if cursor.atAnyDocumentMark then none
    if cursor.rest.isEmpty then none
    let (text, cursor, broken) ← readQuotedPart single text (rounds + 1) cursor
    if cursor.holds 0 (if single then '\'' else '"') then
      return (text.reverse, cursor.skip)
    else
      let (gap, cursor) ← readGap 0 { Gap.none with broken } (rounds + 1) cursor
      readQuoted single (gap.folded.reverse ++ text) rounds cursor

def scanQuoted (rounds : Nat) (single : Bool) (cursor : Cursor) : Option (Token × Cursor) := do
  let (text, after) ← readQuoted single [] rounds cursor.skip
  return (.scalar (if single then .singleQuoted else .doubleQuoted) (String.ofList text), after)

/-! ### Plain scalars -/

/-- Reads up to a gap or an indicator that ends a plain scalar. `text` is latest first. In a flow
collection a colon before a flow indicator is refused. -/
def readPlainPart (inFlow : Bool) (text : List Char) : Nat → Cursor → Option (List Char × Cursor)
  | 0, _ => none
  | rounds + 1, cursor =>
    match cursor.peek 0 with
    | none => some (text, cursor)
    | some c =>
      if isGap c then some (text, cursor)
      else if inFlow && c == ':' && (cursor.peek 1).any (fun d => isFlow d || d == '?') then none
      else if (c == ':' && cursor.gapAt 1) || (inFlow && isFlow c) then some (text, cursor)
      else readPlainPart inFlow (c :: text) rounds cursor.skip

/-- Reads a plain scalar whose lines must be indented by `indent` unless it stands in a flow
collection. A gap counts only if a part follows it. The last component tells that the scalar ends
in a line break. -/
def readPlain (inFlow : Bool) (indent : Int) (text : List Char) (gap : Gap) :
    Nat → Cursor → Option (List Char × Cursor × Bool)
  | 0, _ => none
  | rounds + 1, cursor => do
    if cursor.atAnyDocumentMark || cursor.holds 0 '#' then
      return (text.reverse, cursor, gap.broken)
    let (part, cursor) ← readPlainPart inFlow [] (rounds + 1) cursor
    let text := if part.isEmpty then text else part ++ (gap.folded.reverse ++ text)
    let gap := if part.isEmpty then gap else Gap.none
    if (cursor.peek 0).any isGap then
      let (gap, cursor) ← readGap indent gap (rounds + 1) cursor
      if !inFlow && (cursor.column : Int) < indent then
        return (text.reverse, cursor, gap.broken)
      readPlain inFlow indent text gap rounds cursor
    else return (text.reverse, cursor, gap.broken)

/-- Reads a plain scalar. The last component tells that it ends in a line break. -/
def scanPlain (rounds : Nat) (inFlow : Bool) (parentIndent : Int) (cursor : Cursor) :
    Option (Token × Cursor × Bool) := do
  let (text, after, broken) ← readPlain inFlow (parentIndent + 1) [] Gap.none rounds cursor
  return (.scalar .plain (String.ofList text), after, broken)

/-! ### Block scalars -/

inductive Chomping where
  | strip
  | clip
  | keep
  deriving DecidableEq

def readChomping (cursor : Cursor) : Option Chomping × Cursor :=
  if cursor.holds 0 '+' then (some .keep, cursor.skip)
  else if cursor.holds 0 '-' then (some .strip, cursor.skip)
  else (none, cursor)

/-- Reads an indicator of indentation, if one comes next. Zero is refused. -/
def readIndentation (cursor : Cursor) : Option (Option Nat × Cursor) :=
  match cursor.peek 0 with
  | some c =>
    if c == '0' then none
    else if c.isDigit then some (some (c.toNat - '0'.toNat), cursor.skip)
    else some (none, cursor)
  | none => some (none, cursor)

/-- Reads the indicators of a block scalar, in either order. -/
def readHeader (cursor : Cursor) : Option (Chomping × Option Nat × Cursor) := do
  match readChomping cursor with
  | (some chomping, cursor) =>
    let (indentation, cursor) ← readIndentation cursor
    return (chomping, indentation, cursor)
  | (none, cursor) =>
    let (indentation, cursor) ← readIndentation cursor
    let (chomping, cursor) :=
      if indentation.isSome then readChomping cursor else (none, cursor)
    return (chomping.getD .clip, indentation, cursor)

/-- Reads indentation and empty lines. While the indentation is not known, that is any number of
spaces, of which the most are returned. A tab in their place is refused. -/
def readEmptyLines (indent : Option Nat) (breaks : List Char) (most : Nat) :
    Nat → Cursor → Option (List Char × Nat × Cursor)
  | 0, _ => none
  | rounds + 1, cursor =>
    let spaces := (cursor.rest.takeWhile (· == ' ')).length
    let cursor := cursor.skipMany (match indent with
      | some indent => min spaces (indent - cursor.column)
      | none => spaces)
    let most := max most cursor.column
    if indent.all (cursor.column < ·) && cursor.holds 0 '\t' then none
    else if (cursor.peek 0).any isBreak then
      let (read, cursor) := cursor.takeBreak
      readEmptyLines indent (breaks ++ read) most rounds cursor
    else some (breaks, most, cursor)

/-- A block scalar as far as it has been read: its text, latest first, the break after its last
line and those of the empty lines after that, and whether the last line starts with a space. -/
structure BlockText where
  text : List Char
  lastBreak : List Char
  emptyBreaks : List Char
  spaced : Bool

/-- Appends a line. The break before it is folded if neither of the two lines starts with a
space. -/
def BlockText.addLine (block : BlockText) (isLiteral : Bool)
    (line lastBreak emptyBreaks : List Char) : BlockText :=
  let spaced := line.head?.any isSpace
  let joint :=
    if !isLiteral && block.lastBreak == ['\n'] && !block.spaced && !spaced then
      if block.emptyBreaks.isEmpty then [' '] else []
    else block.lastBreak
  ⟨line.reverse ++ (block.emptyBreaks.reverse ++ (joint.reverse ++ block.text)),
    lastBreak, emptyBreaks, spaced⟩

def readLines (isLiteral : Bool) (indent : Nat) (block : BlockText) :
    Nat → Cursor → Option (BlockText × Cursor)
  | 0, _ => none
  | rounds + 1, cursor =>
    if cursor.column = indent ∧ ¬ cursor.rest.isEmpty then do
      let (line, cursor) := cursor.takeWhile fun c => !isBreak c
      let (lastBreak, cursor) := cursor.takeBreak
      let (emptyBreaks, _, cursor) ← readEmptyLines (some indent) [] 0 (rounds + 1) cursor
      readLines isLiteral indent (block.addLine isLiteral line lastBreak emptyBreaks) rounds cursor
    else some (block, cursor)

def BlockText.chomped (block : BlockText) (chomping : Chomping) : List Char :=
  block.text.reverse ++
    (if chomping = .strip then [] else block.lastBreak) ++
    (if chomping = .keep then block.emptyBreaks else [])

def scanBlock (rounds : Nat) (isLiteral : Bool) (parentIndent : Int) (cursor : Cursor) :
    Option (Token × Cursor) := do
  let (chomping, indentation, cursor) ← readHeader cursor.skip
  let cursor ← cursor.endLine?
  let known := indentation.map fun n => (max parentIndent 0).toNat + n
  let (breaks, most, cursor) ← readEmptyLines known [] 0 rounds cursor
  let indent := known.getD (max most (max (parentIndent + 1) 1).toNat)
  let (block, cursor) ← readLines isLiteral indent ⟨[], [], breaks, false⟩ rounds cursor
  return (.scalar (if isLiteral then .literal else .folded)
    (String.ofList (block.chomped chomping)), cursor)

end GridSchema.Yaml
