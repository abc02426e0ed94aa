import SensorClient.Text.Quoted

/-!
# Addresses on the control bus

## Main definitions

* `Endpoint`: the object and the interface that requests go to
* `Endpoint.inspect`: its text for inspection
-/

namespace SensorClient

/-- The object and the interface that requests go to. -/
structure Endpoint where
  path : String
  interface : String
deriving DecidableEq, Repr

/-- Both parts in quotes. -/
def Endpoint.inspect (e : Endpoint) : String :=
  "RpcEndpoint \x7b path: " ++ Text.quoted e.path ++ ", interface: " ++ Text.quoted e.interface
    ++ " \x7d"

end SensorClient
