import GridSchema.Text.Split

/-! Paths as texts. -/

namespace GridSchema.Path

/-- The names in a path. Slashes in a row count as one. -/
def parts (path : String) : List String :=
  ((Text.split '/' path.toList).filter (!·.isEmpty)).map String.ofList

def isAbsolute (path : String) : Bool :=
  path.toList.head? == some '/'

def endsInSlash (path : String) : Bool :=
  path.toList.getLast? == some '/'

def join (dir name : String) : String :=
  if isAbsolute name || dir.isEmpty then name
  else if endsInSlash dir then dir ++ name
  else dir ++ "/" ++ name

/-- The last name of a path, unless that is the directory itself or the one around it. -/
def fileName? (path : String) : Option String :=
  ((parts path).filter (· != ".")).getLast?.filter (· != "..")

end GridSchema.Path
