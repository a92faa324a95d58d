import GridSchema.Yaml.Token

/-! Documents. -/

namespace GridSchema.Yaml

/-- What precedes a node: the number of its anchor and its tag. -/
structure Properties where
  anchor : Option Nat
  tag : Option Tag
  deriving DecidableEq, Repr

/-- A node. An alias holds the number of an anchor. -/
inductive Node where
  | scalar (properties : Properties) (style : Style) (text : String)
  | sequence (properties : Properties) (items : List Node)
  | mapping (properties : Properties) (entries : List (Node × Node))
  | aliasOf (anchor : Nat)
  deriving Repr, Inhabited

mutual

/-- The nodes with anchors in a node, in the order in which they start. -/
def Node.anchored : Node → List (Nat × Node)
  | .scalar properties style text =>
    (properties.anchor.map (·, .scalar properties style text)).toList
  | .sequence properties items =>
    (properties.anchor.map (·, .sequence properties items)).toList ++ anchoredItems items
  | .mapping properties entries =>
    (properties.anchor.map (·, .mapping properties entries)).toList ++ anchoredEntries entries
  | .aliasOf _ => []

def anchoredItems : List Node → List (Nat × Node)
  | [] => []
  | item :: items => item.anchored ++ anchoredItems items

def anchoredEntries : List (Node × Node) → List (Nat × Node)
  | [] => []
  | (key, value) :: entries => key.anchored ++ value.anchored ++ anchoredEntries entries

end

mutual

/-- The size of a node: one for a scalar or an alias, two and what is inside for a collection. -/
def Node.size : Node → Nat
  | .scalar .. | .aliasOf _ => 1
  | .sequence _ items => 2 + itemsSize items
  | .mapping _ entries => 2 + entriesSize entries

def itemsSize : List Node → Nat
  | [] => 0
  | item :: items => item.size + itemsSize items

def entriesSize : List (Node × Node) → Nat
  | [] => 0
  | (key, value) :: entries => key.size + value.size + entriesSize entries

end

end GridSchema.Yaml
