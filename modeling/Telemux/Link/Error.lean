import Telemux.Endpoint

namespace Telemux

inductive TransportError where
  | invalidEndpoint (url : String) (fault : EndpointFault)
  | connect (url reason : String)
  | notConnected
  | shutdown
  deriving DecidableEq

def TransportError.message : TransportError → String
  | .invalidEndpoint url fault => "invalid endpoint " ++ url ++ ": " ++ fault.reason
  | .connect url reason => "failed to connect to " ++ url ++ ": " ++ reason
  | .notConnected => "not connected"
  | .shutdown => "transport shut down"

end Telemux
