import GridSchema.Error
import GridSchema.Options.Basic
import GridSchema.Text.Blank

/-! Which options and configurations are accepted. -/

namespace GridSchema

def refuseIf (condition : Bool) (fault : ConfigFault) : Except Error Unit :=
  if condition then .error (.config fault) else .ok ()

/-- Accepts options whose name is one file name and which select something. -/
def SnapshotOptions.validate (options : SnapshotOptions) : Except Error Unit := do
  let base := options.baseName.toList
  refuseIf base.isEmpty .missingName
  refuseIf (base.any fun c => c == '/' || c == '\\') (.separatorInName options.name)
  refuseIf options.dir.isEmpty .missingDir
  refuseIf (!options.full && options.caches.isEmpty) .noCaches

/-- Accepts configurations without blank addresses, with a user that is not blank if there is one,
and with acceptable options. -/
def Config.validate (config : Config) : Except Error Unit := do
  refuseIf (config.cluster.addresses.any Text.blank) .emptyAddress
  refuseIf (config.cluster.user.any Text.blank) .emptyUser
  config.snapshot.validate

end GridSchema
