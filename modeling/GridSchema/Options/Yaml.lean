import GridSchema.Options.Record
import GridSchema.Options.Validation
import GridSchema.Yaml.Reader

/-! Configurations written in YAML. -/

namespace GridSchema

def Yaml.decode (read : Yaml.View → Yaml.Reading α) (text : String) : Except Error α :=
  match Yaml.read? read text with
  | some value => .ok value
  | none => .error .yaml

def Config.fromYaml (text : String) : Except Error Config := do
  let config ← Yaml.decode (Config.read Yaml.reader) text
  config.validate
  return config

end GridSchema
