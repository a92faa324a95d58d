import GridSchema.Record
import GridSchema.Yaml.Parser

/-! Records in YAML: mappings. Scalars have the types of the core schema of YAML 1.2. -/

namespace GridSchema.Yaml

/-- Reading a document. The state tells how many more aliases may be followed. -/
abbrev Reading := StateT Nat Option

/-- How many aliases may be followed in a document for each node in it. -/
def aliasesPerNode : Nat := 100

/-- A node of a document whose nodes with anchors are `anchored`, latest first. -/
structure View where
  anchored : List (Nat × Node)
  node : Node

namespace View

/-- The node of the whole content of a stream. An empty stream is like an empty scalar. -/
def ofContent : Content → View
  | .void => ⟨[], .scalar ⟨none, none⟩ .plain ""⟩
  | .document node => ⟨node.anchored.reverse, node⟩

def moveTo (view : View) (node : Node) : View := { view with node }

/-- The node that is meant: the one with the number of an alias that started last, if one more may
be followed, or the node itself. -/
def target (view : View) : Reading Node :=
  match view.node with
  | .aliasOf anchor => fun
    | 0 => none
    | remaining + 1 => (view.anchored.lookup anchor).map (·, remaining)
  | node => pure node

end View

def isNull (text : String) : Bool :=
  ["null", "Null", "NULL", "~"].contains text

def coreTag (name : String) : Tag :=
  Utf8.encode ("tag:yaml.org,2002:" ++ name)

/-- Whether a scalar may be a boolean or a number: any plain one, and a literal one with the tag. -/
def mayBe (name : String) (properties : Properties) (style : Style) : Bool :=
  style == .plain || (style == .literal && properties.tag == some (coreTag name))

def text? (view : View) : Reading String := do
  match ← view.target with
  | .scalar _ _ text => return text
  | _ => none

def flag? (view : View) : Reading Bool := do
  match ← view.target with
  | .scalar properties style text =>
    if !mayBe "bool" properties style then none
    else if ["true", "True", "TRUE"].contains text then return true
    else if ["false", "False", "FALSE"].contains text then return false
    else none
  | _ => none

/-- The value of a natural number: decimal without a zero in front, or with the letter of its
base. -/
def number? (text : List Char) : Option Nat :=
  let unsigned := match text with
    | '+' :: rest => rest
    | all => all
  match unsigned with
  | '0' :: 'x' :: rest => Text.numberIn? 16 rest
  | '0' :: 'o' :: rest => Text.numberIn? 8 rest
  | '0' :: 'b' :: rest => Text.numberIn? 2 rest
  | '0' :: _ :: _ => none
  | digits => Text.numberIn? 10 digits

def count? (view : View) : Reading Nat := do
  match ← view.target with
  | .scalar properties style text =>
    if mayBe "int" properties style then number? text.toList else none
  | _ => none

/-- The value of an optional field, which is left out by a plain scalar that is empty or null. With
the tag of null the scalar must be null, with another tag it is a value. -/
def given? (view : View) : Reading (Option View) := do
  let node ← view.target
  let value := some (view.moveTo node)
  match node with
  | .scalar properties .plain text =>
    match properties.tag with
    | none => return if text.isEmpty || isNull text then none else value
    | some tag =>
      if tag != coreTag "null" then return value
      else if isNull text then return none
      else failure
  | _ => return value

/-- The name of a local tag: what follows its mark, or the mark if nothing does. -/
def localName? (tag : Tag) : Option String :=
  if tag.head? != some 0x21 then none
  else if tag.length == 1 then some "!"
  else Utf8.decode? tag.tail

/-- The name of a choice: the local tag of an empty scalar, or a scalar without such a tag. -/
def choice? (view : View) : Reading String := do
  match ← view.target with
  | .scalar properties style text =>
    match properties.tag.bind localName? with
    | some name =>
      if style == .plain && (text.isEmpty || isNull text) then return name else none
    | none => return text
  | _ => none

/-- Whether a node is an empty scalar, which counts as an empty list, map or record. -/
def isEmptyScalar : Node → Bool
  | .scalar _ .plain text => text.isEmpty
  | _ => false

def items? (view : View) : Reading (List View) := do
  match ← view.target with
  | .sequence _ items => return items.map view.moveTo
  | node => if isEmptyScalar node then return [] else none

/-- The entries of a mapping whose keys are scalars. -/
def entries? (view : View) : Reading (List (String × View)) := do
  match ← view.target with
  | .mapping _ entries =>
    entries.mapM fun (key, value) => do return (← text? (view.moveTo key), view.moveTo value)
  | node => if isEmptyScalar node then return [] else none

def reader : Reader Reading View where
  given? := given?
  text? := text?
  flag? := flag?
  count? := count?
  choice? := choice?
  items? := items?
  entries? := entries?
  fields? names view := do Reader.assign names (← entries? view)

def read? (read : View → Reading α) (text : String) : Option α := do
  let content ← parse? text
  (read (.ofContent content)).run' (aliasesPerNode * content.size)

end GridSchema.Yaml
