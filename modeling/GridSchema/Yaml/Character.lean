import GridSchema.Text.Digits

/-! The classes of characters that YAML tells apart. -/

namespace GridSchema.Yaml

def isAllowed (c : Char) : Bool :=
  let n := c.toNat
  n == 0x09 || n == 0x0A || n == 0x0D || (0x20 ≤ n && n ≤ 0x7E) || n == 0x85 ||
    (0xA0 ≤ n && n ≤ 0xD7FF) || (0xE000 ≤ n && n ≤ 0xFFFD) || 0x10000 ≤ n

/-- The mark that may stand at the start of a line. -/
def isByteOrderMark (c : Char) : Bool :=
  c.toNat == 0xFEFF

def isBreak (c : Char) : Bool :=
  c == '\n' || c == '\r' || c.toNat == 0x85 || c.toNat == 0x2028 || c.toNat == 0x2029

def isSpace (c : Char) : Bool :=
  c == ' ' || c == '\t'

def isGap (c : Char) : Bool :=
  isSpace c || isBreak c

/-- Characters of anchors, directives and tag handles. -/
def isWord (c : Char) : Bool :=
  ('0' ≤ c && c ≤ '9') || ('A' ≤ c && c ≤ 'Z') || ('a' ≤ c && c ≤ 'z') || c == '_' || c == '-'

/-- Characters of a tag, apart from those that only a verbatim one may have. -/
def isTag (c : Char) : Bool :=
  isWord c || [';', '/', '?', ':', '@', '&', '=', '+', '$', '.', '%', '!', '~', '*', '\'', '(',
    ')'].contains c

/-- The brackets and the comma of flow collections. -/
def isFlow (c : Char) : Bool :=
  [',', '[', ']', '{', '}'].contains c

/-- Characters that start something other than a plain scalar. -/
def isIndicator (c : Char) : Bool :=
  isFlow c || ['-', '?', ':', '#', '&', '*', '!', '|', '>', '\'', '"', '%', '@', '\x60'].contains c

end GridSchema.Yaml
