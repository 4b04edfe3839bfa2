import Telemux.Frame.Error
import Telemux.Link.Error

namespace Telemux

/-- Why a call on the client fails, or a subscription ends. -/
inductive ClientError where
  | transport (e : TransportError)
  | frame (e : FrameError)
  | json (e : JsonError)
  | notConnected
  | connectionLost
  | serverException (kind message : String)
  | unexpectedReply (topic reason : String)
  | closed
  deriving DecidableEq

namespace ClientError

def message : ClientError → String
  | .transport e => "transport error: " ++ e.message
  | .frame e => "frame error: " ++ e.message
  | .json e => "json error: " ++ e.message
  | .notConnected => "not connected"
  | .connectionLost => "connection lost"
  | .serverException kind message => "server exception " ++ kind ++ ": " ++ message
  | .unexpectedReply topic reason => "unexpected reply for '" ++ topic ++ "': " ++ reason
  | .closed => "client closed"

def serverKind? : ClientError → Option String
  | .serverException kind _ => some kind
  | _ => none

end ClientError

instance decidableEqResult {ε α : Type} [DecidableEq ε] [DecidableEq α] :
    DecidableEq (Except ε α)
  | .ok x, .ok y => decidable_of_iff (x = y) (by simp)
  | .error e, .error f => decidable_of_iff (e = f) (by simp)
  | .ok _, .error _ => isFalse nofun
  | .error _, .ok _ => isFalse nofun

end Telemux
