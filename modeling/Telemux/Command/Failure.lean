import Telemux.Client.Error

namespace Telemux

/-- Why a command fails: its exit code and what it tells the user. -/
structure Failure where
  code : Nat
  message : String
  deriving DecidableEq

namespace Failure

def generalCode : Nat := 1
def transportCode : Nat := 3
def dataCode : Nat := 60
def usageCode : Nat := 64
def timeoutCode : Nat := 124
def internalCode : Nat := 125

def usage (message : String) : Failure :=
  ⟨usageCode, message⟩

def transportErrorCode : TransportError → Nat
  | .invalidEndpoint _ _ => usageCode
  | .connect _ _ | .notConnected => transportCode
  | .shutdown => internalCode

def ofTransport (context : String) (e : TransportError) : Failure :=
  ⟨transportErrorCode e, context ++ ": " ++ e.message⟩

def ofFrame (context : String) (e : FrameError) : Failure :=
  ⟨dataCode, context ++ ": " ++ e.message⟩

/-- The errors of the link and of frames are told without naming the client. -/
def ofClient (context : String) (e : ClientError) : Failure :=
  match e with
  | .transport e => ofTransport context e
  | .frame e => ofFrame context e
  | .json _ | .unexpectedReply _ _ => ⟨dataCode, context ++ ": " ++ e.message⟩
  | .notConnected | .connectionLost => ⟨transportCode, context ++ ": " ++ e.message⟩
  | .serverException _ _ | .closed => ⟨generalCode, context ++ ": " ++ e.message⟩

end Failure

end Telemux
