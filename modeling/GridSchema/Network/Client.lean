import GridSchema.Client.Basic
import GridSchema.Network.Basic

/-! Clients of the instances of a machine. -/

namespace GridSchema

def Network.peer : Peer Connection Network := ⟨Network.exchange⟩

/-- A client connected to the first of some addresses that accepts, or why none of them does. -/
def Network.dial (network : Network) (user : String) :
    List String → Except (List (String × IoFault)) (ThinClient Connection)
  | [] => .error []
  | address :: rest =>
    match network.connect address with
    | .ok (endpoint, connection) => .ok (.connected endpoint user connection)
    | .error fault => (network.dial user rest).mapError ((address, fault) :: ·)

def ClientConfig.connect (config : ClientConfig) (network : Network) :
    Except Error (ThinClient Connection) :=
  if config.addresses.isEmpty then .error (.config .noAddresses)
  else (network.dial config.user config.addresses).mapError fun attempts =>
    .client (.unreachable attempts)

end GridSchema
