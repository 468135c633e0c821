import TealTools.Node.Url
import TealTools.Text.Quoted

/-!
# Endpoints

A node is reached at an address for the web, with a token if it asks for one.
-/

namespace TealTools.Node

structure Endpoint where
  url : Url
  /-- Empty if the node asks for none. -/
  token : String
  deriving DecidableEq, Repr

/-- Why an address is no endpoint. -/
inductive EndpointError where
  | address (cause : AddressError)
  | scheme (name : String)
  deriving DecidableEq, Repr

def EndpointError.message : EndpointError → String
  | address cause => cause.message
  | scheme name => "unsupported scheme " ++ Text.quoted name

namespace Endpoint

/-- The public node that is used when none is named. -/
def defaultAddress : String := "https://testnet-api.algonode.cloud"

def parse (address token : String) : Except EndpointError Endpoint :=
  match Address.parse address.toList with
  | .error cause => .error (.address cause)
  | .ok (.other scheme) => .error (.scheme scheme)
  | .ok (.web url) => .ok { url, token }

/-- Where simulate requests are sent: the address without slashes at its end,
and the path of the service behind it. -/
def simulateAddress (endpoint : Endpoint) : String :=
  let base := endpoint.url.render.toList.reverse.dropWhile (· = '/')
  String.ofList base.reverse ++ "/v2/transactions/simulate?format=json"

end Endpoint

end TealTools.Node
