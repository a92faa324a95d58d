import GridSchema.Yaml.Directive
import GridSchema.Yaml.Scalar

/-! The tokens of a stream. A token that turns out to be a key in its line gets the mark of one put
before it. -/

namespace GridSchema.Yaml

/-- A place where a key may have started: before which token, where in the stream, and whether
something must have started there. -/
structure KeyStart where
  token : Nat
  place : Cursor
  required : Bool

/-- A scanner. `tokens` is latest first, `indents` and `keys` are innermost first, and there is one
entry in `keys` for each flow collection that is open and one for the block context. -/
structure Scanner where
  cursor : Cursor
  tokens : List Token
  count : Nat
  flowLevel : Nat
  indent : Int
  indents : List Int
  keys : List (Option KeyStart)
  keyAllowed : Bool

namespace Scanner

def start (text : String) : Scanner :=
  ⟨.start text, [], 0, 0, -1, [], [none], true⟩

def push (s : Scanner) (token : Token) : Scanner :=
  { s with tokens := token :: s.tokens, count := s.count + 1 }

def insert (s : Scanner) (n : Nat) (token : Token) : Scanner :=
  let later := s.count - n
  { s with
    tokens := s.tokens.take later ++ token :: s.tokens.drop later, count := s.count + 1 }

def pushMark (s : Scanner) (n : Nat) (token : Token) : Scanner :=
  { s with cursor := s.cursor.skipMany n }.push token

def inFlow (s : Scanner) : Bool := s.flowLevel > 0

/-- Moves over spaces, comments and line breaks. A tab counts as a space where no key may start. -/
def skipToToken (s : Scanner) : Nat → Scanner
  | 0 => s
  | rounds + 1 =>
    let cursor := s.cursor
    let cursor := if cursor.column == 0 && (cursor.peek 0).any isByteOrderMark then cursor.skip
      else cursor
    let tabs := s.inFlow || !s.keyAllowed
    let cursor := cursor.skipWhile fun c => c == ' ' || (tabs && c == '\t')
    let cursor := cursor.skipComment
    if (cursor.peek 0).any isBreak then
      skipToToken
        { s with cursor := cursor.skipBreak, keyAllowed := s.keyAllowed || !s.inFlow } rounds
    else { s with cursor }

/-- Whether a key that may have started at `key` cannot have ended yet at `cursor`, for lack of a
colon in the same line and within 1024 bytes. -/
def outdated (cursor : Cursor) (key : KeyStart) : Bool :=
  key.place.line < cursor.line || key.place.index + 1024 < cursor.index

/-- Forgets the places where no key can have started after all. -/
def dropOutdated (s : Scanner) : Option Scanner := do
  let keys ← s.keys.mapM fun
    | none => some none
    | some key =>
      if outdated s.cursor key then if key.required then none else some none
      else some (some key)
  return { s with keys }

def closeTo (column : Int) (s : Scanner) : Scanner :=
  if s.inFlow then s
  else
    let inner := (s.indent :: s.indents).takeWhile (column < ·)
    match (s.indent :: s.indents).drop inner.length with
    | [] => s
    | indent :: indents =>
      { s with
        tokens := List.replicate inner.length .blockEnd ++ s.tokens
        count := s.count + inner.length, indent, indents }

/-- Opens a collection before the token with number `n`, if it is indented by more than the one
around it. -/
def openAt (s : Scanner) (column n : Nat) (token : Token) : Scanner :=
  if s.inFlow || (column : Int) ≤ s.indent then s
  else { s.insert n token with indent := column, indents := s.indent :: s.indents }

def forgetKey (s : Scanner) : Option Scanner :=
  match s.keys with
  | some key :: keys => if key.required then none else some { s with keys := none :: keys }
  | _ => some s

/-- Notes that a key may start here, if one may. -/
def noteKey (s : Scanner) : Option Scanner :=
  if s.keyAllowed then do
    let required := !s.inFlow && s.indent == (s.cursor.column : Int)
    let s ← s.forgetKey
    return { s with keys := some ⟨s.count, s.cursor, required⟩ :: s.keys.tail }
  else some s

/-- Whether a key may start after the next token. -/
def allowKey (allowed : Bool) (s : Scanner) : Scanner :=
  { s with keyAllowed := allowed }

def endStream (s : Scanner) : Option Scanner := do
  let s ← (s.closeTo (-1)).forgetKey
  return (s.allowKey false).push .streamEnd

/-- Reads a directive or a mark that begins or ends a document. -/
def documentToken (s : Scanner) (read : Cursor → Option (Token × Cursor)) : Option Scanner := do
  let s ← (s.closeTo (-1)).forgetKey
  let (token, cursor) ← read s.cursor
  return { s.allowKey false with cursor }.push token

def openFlow (s : Scanner) (token : Token) : Option Scanner := do
  let s ← s.noteKey
  return { s.allowKey true with
    flowLevel := s.flowLevel + 1, keys := none :: s.keys }.pushMark 1 token

def closeFlow (s : Scanner) (token : Token) : Option Scanner := do
  let s ← s.forgetKey
  let s := if s.inFlow then { s with flowLevel := s.flowLevel - 1, keys := s.keys.tail } else s
  return (s.allowKey false).pushMark 1 token

def flowEntry (s : Scanner) : Option Scanner := do
  return ((← s.forgetKey).allowKey true).pushMark 1 .flowEntry

/-- Opens a block collection here, where one must be allowed, unless a flow collection is open. -/
def openBlock (s : Scanner) (token : Token) : Option Scanner :=
  if s.inFlow then some s
  else if s.keyAllowed then some (s.openAt s.cursor.column s.count token)
  else none

def blockEntry (s : Scanner) : Option Scanner := do
  let s ← (← s.openBlock .blockSequenceStart).forgetKey
  return (s.allowKey true).pushMark 1 .blockEntry

def explicitKey (s : Scanner) : Option Scanner := do
  let s ← (← s.openBlock .blockMappingStart).forgetKey
  return (s.allowKey !s.inFlow).pushMark 1 .key

/-- Reads a colon. If a key may have started, it did. -/
def value (s : Scanner) : Option Scanner :=
  match s.keys with
  | some key :: keys =>
    let s := { s.insert key.token .key with keys := none :: keys }
    let s := s.openAt key.place.column key.token .blockMappingStart
    some ((s.allowKey false).pushMark 1 .value)
  | _ => do
    let s ← s.openBlock .blockMappingStart
    return (s.allowKey !s.inFlow).pushMark 1 .value

/-- Reads a token that may be a key or part of one. -/
def keyToken (s : Scanner) (read : Cursor → Option (Token × Cursor)) : Option Scanner := do
  let s ← s.noteKey
  let (token, cursor) ← read s.cursor
  return { s.allowKey false with cursor }.push token

def blockScalar (s : Scanner) (rounds : Nat) (isLiteral : Bool) : Option Scanner := do
  let s ← s.forgetKey
  let (token, cursor) ← scanBlock rounds isLiteral s.indent s.cursor
  return { s.allowKey true with cursor }.push token

def plainScalar (s : Scanner) (rounds : Nat) : Option Scanner := do
  let s ← s.noteKey
  let (token, cursor, broken) ← scanPlain rounds s.inFlow s.indent s.cursor
  return { s.allowKey broken with cursor }.push token

def startsPlain (s : Scanner) (c : Char) : Bool :=
  !(isGap c || isIndicator c) ||
    (c == '-' && !(s.cursor.peek 1).any isSpace) ||
    (!s.inFlow && (c == '?' || c == ':') && !s.cursor.gapAt 1)

/-- Reads the token that starts with `c`. -/
def readToken (rounds : Nat) (s : Scanner) (c : Char) : Option Scanner :=
  let cursor := s.cursor
  if cursor.column == 0 && c == '%' then s.documentToken (scanDirective rounds)
  else if cursor.atDocumentMark '-' then
    s.documentToken fun cursor => some (.documentStart, cursor.skipMany 3)
  else if cursor.atDocumentMark '.' then
    s.documentToken fun cursor => some (.documentEnd, cursor.skipMany 3)
  else if c == '[' then s.openFlow .flowSequenceStart
  else if c == '{' then s.openFlow .flowMappingStart
  else if c == ']' then s.closeFlow .flowSequenceEnd
  else if c == '}' then s.closeFlow .flowMappingEnd
  else if c == ',' then s.flowEntry
  else if c == '-' && cursor.gapAt 1 then s.blockEntry
  else if c == '?' && (s.inFlow || cursor.gapAt 1) then s.explicitKey
  else if c == ':' && (s.inFlow || cursor.gapAt 1) then s.value
  else if c == '*' then
    s.keyToken fun cursor => (scanName cursor).map fun (name, after) => (.aliasOf name, after)
  else if c == '&' then
    s.keyToken fun cursor => (scanName cursor).map fun (name, after) => (.anchor name, after)
  else if c == '!' then s.keyToken (scanTag rounds s.inFlow)
  else if c == '|' && !s.inFlow then s.blockScalar rounds true
  else if c == '>' && !s.inFlow then s.blockScalar rounds false
  else if c == '\'' then s.keyToken (scanQuoted rounds true)
  else if c == '"' then s.keyToken (scanQuoted rounds false)
  else if s.startsPlain c then s.plainScalar rounds
  else none

/-- Reads tokens to the end of the stream. The number of rounds for a token is `size`. -/
def run (size : Nat) (s : Scanner) : Nat → Option Scanner
  | 0 => none
  | rounds + 1 => do
    let s ← (s.skipToToken size).dropOutdated
    let s := s.closeTo s.cursor.column
    match s.cursor.peek 0 with
    | none => s.endStream
    | some c => run size (← readToken size s c) rounds

end Scanner

def tokens? (text : String) : Option (List Token) := do
  if !text.toList.all isAllowed then none
  let size := text.length + 2
  return (← Scanner.run size (.start text) size).tokens.reverse

end GridSchema.Yaml
