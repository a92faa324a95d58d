import GridSchema.Disk.Basic
import GridSchema.Error
import GridSchema.Options.Basic
import GridSchema.Text.Digits

/-! Names of snapshot files: the base name alone, then with the numbers 1, 2, and so on. -/

namespace GridSchema.Snapshot

def maxIndex : Nat := Nat.pow 2 64 - 1

/-- The index in the name of a file, if it is the base name, digits and the extension. -/
def index? (base fileName : String) : Option Nat := do
  let rest ← stripStart? base.toList fileName.toList
  let digits ← stripStart? extension.toList.reverse rest.reverse
  if digits.isEmpty ∨ ¬ digits.all Char.isDigit then none
  let index := Text.decimal digits.reverse
  if index ≤ maxIndex then some index else none

def lastIndex (base : String) (names : List String) : Nat :=
  (names.filterMap (index? base)).foldl max 0

/-- The path of the next snapshot in a directory. The name without an index comes first; later ones
have the index after the largest there is. -/
def nextPath (disk : Disk) (dir base : String) : Except IoFault String :=
  let first := Path.join dir (base ++ extension)
  if disk.pathExists first then do
    let index := min (lastIndex base (← disk.names dir) + 1) maxIndex
    return Path.join dir (base ++ toString index ++ extension)
  else return first

end GridSchema.Snapshot
