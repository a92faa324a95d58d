import GridSchema.Cache.Seed
import GridSchema.Disk.Basic

/-! Configurations and seeds in files. -/

namespace GridSchema

def Disk.load (disk : Disk) (path : String) : Except Error String :=
  match disk.readText path with
  | .ok text => .ok text
  | .error fault => .error (.io fault)

def Config.load (disk : Disk) (path : String) : Except Error Config := do
  fromYaml (← disk.load path)

def Seed.load (disk : Disk) (path : String) : Except Error Seed := do
  fromYaml (← disk.load path)

end GridSchema
