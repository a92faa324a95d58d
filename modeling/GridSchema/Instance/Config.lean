import GridSchema.Options.Yaml

/-! Where an instance accepts connections. -/

namespace GridSchema

variable {m : Type → Type} [Monad m] [MonadLiftT Option m]

/-- The host and port of an instance. Port zero stands for any free one. -/
structure InstanceConfig where
  host : String
  port : Nat
  deriving DecidableEq, Repr

def defaultHost : String := "127.0.0.1"

def InstanceConfig.read (r : Reader m ν) (value : ν) : m InstanceConfig := do
  let [host, port] ← r.fields? ["host", "port"] value | none
  return {
    host := ← Reader.defaulted defaultHost r.text? host
    port := ← Reader.defaulted 0 (r.bounded? 16) port }

def InstanceConfig.fromYaml (text : String) : Except Error InstanceConfig :=
  Yaml.decode (InstanceConfig.read Yaml.reader) text

end GridSchema
