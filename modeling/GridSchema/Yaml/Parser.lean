import GridSchema.Yaml.Node
import GridSchema.Yaml.Scanner

/-! The document of a stream. Where a reader takes `depth`, each call takes one of it, so that a few
times the number of tokens is enough. -/

namespace GridSchema.Yaml

/-- A parser: the tokens that are left, the anchors known so far by name, and how tag handles are
expanded. An anchor's number is how many names were known when it came up. -/
structure Parser where
  tokens : List Token
  anchors : List (String × Nat)
  handles : List (String × Tag)

namespace Parser

def peek (p : Parser) : Token :=
  p.tokens.headD .streamEnd

def skip (p : Parser) : Parser :=
  { p with tokens := p.tokens.tail }

def sees (p : Parser) (tokens : List Token) : Bool :=
  tokens.contains p.peek

/-- Gives a name to the anchor that starts here. -/
def define (p : Parser) (name : String) : Nat × Parser :=
  let number := p.anchors.length
  (number, { p with anchors := (name, number) :: p.anchors.filter (·.1 != name) })

def expand? (p : Parser) (handle : String) (suffix : Tag) : Option Tag :=
  if handle.isEmpty then some suffix else (p.handles.lookup handle).map (· ++ suffix)

def empty (properties : Properties) : Node := .scalar properties .plain ""

def nothing : Node := empty ⟨none, none⟩

def readAnchor (p : Parser) : Option String × Parser :=
  match p.peek with
  | .anchor name => (some name, p.skip)
  | _ => (none, p)

def readTag (p : Parser) : Option (String × Tag) × Parser :=
  match p.peek with
  | .tag handle suffix => (some (handle, suffix), p.skip)
  | _ => (none, p)

/-- Reads an anchor and a tag, in either order. -/
def readProperties (p : Parser) : Option (Option String × Option Tag × Parser) := do
  let (anchor, p) := p.readAnchor
  let (tag, p) := p.readTag
  let (anchor, p) := if anchor.isSome then (anchor, p) else p.readAnchor
  match tag with
  | some (handle, suffix) => return (anchor, some (← p.expand? handle suffix), p)
  | none => return (anchor, none, p)

def defineProperties (p : Parser) (anchor : Option String) (tag : Option Tag) :
    Properties × Parser :=
  match anchor with
  | some name =>
    let (number, p) := p.define name
    (⟨some number, tag⟩, p)
  | none => (⟨none, tag⟩, p)

mutual

/-- Reads a node. A block collection may start here if `block` holds, and a sequence without
indentation of its own if `indentless` holds. -/
def readNode (block indentless : Bool) : Nat → Parser → Option (Node × Parser)
  | 0, _ => none
  | depth + 1, p =>
    match p.peek with
    | .aliasOf name => do return (.aliasOf (← p.anchors.lookup name), p.skip)
    | _ => do
      let (anchor, tag, p) ← p.readProperties
      let (properties, started) := p.defineProperties anchor tag
      match p.peek with
      | .scalar style text => return (.scalar properties style text, started.skip)
      | .flowSequenceStart => readFlowItems properties [] depth started.skip
      | .flowMappingStart => readFlowEntries properties [] depth started.skip
      | token =>
        if indentless && token == .blockEntry then readIndentless properties [] depth started
        else if block && token == .blockSequenceStart then
          readBlockItems properties [] depth started.skip
        else if block && token == .blockMappingStart then
          readBlockEntries properties [] depth started.skip
        else if anchor.isSome || tag.isSome then some (empty properties, started)
        else none

/-- Reads a node, or nothing if one of `ends` comes next. -/
def readNodeUnless (ends : List Token) (block indentless : Bool) :
    Nat → Parser → Option (Node × Parser)
  | 0, _ => none
  | depth + 1, p =>
    if p.sees ends then some (nothing, p) else readNode block indentless depth p

/-- Reads the entries of a block sequence. `items` is latest first. -/
def readBlockItems (properties : Properties) (items : List Node) :
    Nat → Parser → Option (Node × Parser)
  | 0, _ => none
  | depth + 1, p =>
    match p.peek with
    | .blockEntry => do
      let (item, p) ← readNodeUnless [.blockEntry, .blockEnd] true false depth p.skip
      readBlockItems properties (item :: items) depth p
    | .blockEnd => some (.sequence properties items.reverse, p.skip)
    | _ => none

/-- Reads the entries of a block sequence that stands at the indentation of the mapping around
it. -/
def readIndentless (properties : Properties) (items : List Node) :
    Nat → Parser → Option (Node × Parser)
  | 0, _ => none
  | depth + 1, p =>
    match p.peek with
    | .blockEntry => do
      let (item, p) ←
        readNodeUnless [.blockEntry, .key, .value, .blockEnd] true false depth p.skip
      readIndentless properties (item :: items) depth p
    | _ => some (.sequence properties items.reverse, p)

def readBlockEntries (properties : Properties) (entries : List (Node × Node)) :
    Nat → Parser → Option (Node × Parser)
  | 0, _ => none
  | depth + 1, p =>
    match p.peek with
    | .key => do
      let (key, p) ← readNodeUnless [.key, .value, .blockEnd] true true depth p.skip
      let (value, p) ← readBlockValue depth p
      readBlockEntries properties ((key, value) :: entries) depth p
    | .blockEnd => some (.mapping properties entries.reverse, p.skip)
    | _ => none

def readBlockValue : Nat → Parser → Option (Node × Parser)
  | 0, _ => none
  | depth + 1, p =>
    match p.peek with
    | .value => readNodeUnless [.key, .value, .blockEnd] true true depth p.skip
    | _ => some (nothing, p)

def readFlowItems (properties : Properties) (items : List Node) :
    Nat → Parser → Option (Node × Parser)
  | 0, _ => none
  | depth + 1, p =>
    if p.peek == .flowSequenceEnd then some (.sequence properties items.reverse, p.skip)
    else do
      let p ← if items.isEmpty then some p
        else if p.peek == .flowEntry then some p.skip else none
      match p.peek with
      | .flowSequenceEnd => some (.sequence properties items.reverse, p.skip)
      | .key =>
        let (pair, p) ← readPair depth p.skip
        readFlowItems properties (pair :: items) depth p
      | _ =>
        let (item, p) ← readNode false false depth p
        readFlowItems properties (item :: items) depth p

/-- Reads a mapping of one entry in a flow sequence, after the mark of its key. Where the key is
missing, the token in its place is passed over. -/
def readPair : Nat → Parser → Option (Node × Parser)
  | 0, _ => none
  | depth + 1, p => do
    let (key, p) ←
      if p.sees [.value, .flowEntry, .flowSequenceEnd] then some (nothing, p.skip)
      else readNode false false depth p
    let (value, p) ←
      if p.peek == .value then
        readNodeUnless [.flowEntry, .flowSequenceEnd] false false depth p.skip
      else some (nothing, p)
    return (.mapping ⟨none, none⟩ [(key, value)], p)

def readFlowEntries (properties : Properties) (entries : List (Node × Node)) :
    Nat → Parser → Option (Node × Parser)
  | 0, _ => none
  | depth + 1, p =>
    if p.peek == .flowMappingEnd then some (.mapping properties entries.reverse, p.skip)
    else do
      let p ← if entries.isEmpty then some p
        else if p.peek == .flowEntry then some p.skip else none
      match p.peek with
      | .flowMappingEnd => some (.mapping properties entries.reverse, p.skip)
      | .key =>
        let (key, p) ←
          readNodeUnless [.value, .flowEntry, .flowMappingEnd] false false depth p.skip
        let (value, p) ←
          if p.peek == .value then
            readNodeUnless [.flowEntry, .flowMappingEnd] false false depth p.skip
          else some (nothing, p)
        readFlowEntries properties ((key, value) :: entries) depth p
      | _ =>
        let (key, p) ← readNode false false depth p
        readFlowEntries properties ((key, nothing) :: entries) depth p

end

/-- Reads the directives before a document. There may be one version, of YAML 1.1 or 1.2, and one
directive for each handle. -/
def readDirectives (versioned : Bool) (handles : List (String × Tag)) :
    List Token → Option (List (String × Tag) × List Token)
  | .version major minor :: rest =>
    if versioned || major != 1 || !(minor == 1 || minor == 2) then none
    else readDirectives true handles rest
  | .tagDirective handle tagStart :: rest =>
    if (handles.lookup handle).isSome then none
    else readDirectives versioned ((handle, tagStart) :: handles) rest
  | rest => some (handles, rest)

def knownHandles : List (String × Tag) :=
  [("!", Utf8.encode "!"), ("!!", Utf8.encode "tag:yaml.org,2002:")]

def readDocument (depth : Nat) (tokens : List Token) : Option (Node × List Token) :=
  match tokens.headD .streamEnd with
  | .version .. | .tagDirective .. | .documentStart => do
    let (handles, .documentStart :: rest) ← readDirectives false [] tokens | none
    let p : Parser := ⟨rest, [], handles ++ knownHandles⟩
    match p.peek with
    | .version .. | .tagDirective .. | .documentStart | .documentEnd | .streamEnd =>
      return (nothing, p.tokens)
    | _ =>
      let (node, p) ← readNode true false depth p
      return (node, p.tokens)
  | _ => do
    let (node, p) ← readNode true false depth ⟨tokens, [], knownHandles⟩
    return (node, p.tokens)

end Parser

inductive Content where
  | void
  | document (node : Node)

/-- The size of the content. A stream without a document counts for one node. -/
def Content.size : Content → Nat
  | void => 1
  | document node => node.size

/-- The content of a stream that holds at most one document, unless it is malformed. -/
def parse? (text : String) : Option Content := do
  let tokens ← tokens? text
  if tokens.headD .streamEnd == .streamEnd then return .void
  let (node, rest) ← Parser.readDocument (4 * tokens.length + 4) tokens
  -- Marks that end the document may follow, and nothing else.
  if (rest.dropWhile (· == .documentEnd)) == [.streamEnd] then return .document node else none

end GridSchema.Yaml
