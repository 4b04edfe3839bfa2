import Telemux.Frame.Kind
import Telemux.Json.Reader
import Telemux.Json.Misfit

namespace Telemux

/-- A text that is no JSON document, or a document of the wrong shape. -/
inductive JsonError where
  | text (e : ReadError)
  | shape (m : Misfit)
  deriving DecidableEq

def JsonError.message : JsonError → String
  | .text .malformed => "malformed document"
  | .text .truncated => "document ends too early"
  | .shape m => m.message

inductive FrameFault where
  | notArray
  | arity (n : Nat)
  | versionNotNumber
  | version (found wanted : Nat)
  | kindNotNumber
  | kind (code : Nat)
  | sequenceNotNumber
  | bodyNotObject
  | unwritableBody
  | wrongKind (wanted found : MessageKind)
  | requestNotObject
  | noAction
  | verbNotText (action : String)
  | stated (reason : String)
  deriving DecidableEq

def FrameFault.reason : FrameFault → String
  | .notArray => "frame is not an array"
  | .arity n => "frame has " ++ toString n ++ " elements (expected 4)"
  | .versionNotNumber => "protocol version is not an unsigned integer"
  | .version found wanted =>
    "protocol version " ++ toString found ++ " (expected " ++ toString wanted ++ ")"
  | .kindNotNumber => "message kind is not an unsigned integer"
  | .kind code => "unknown message kind " ++ toString code
  | .sequenceNotNumber => "sequence is not an unsigned integer"
  | .bodyNotObject => "frame body is not an object"
  | .unwritableBody => "frame body must be an object"
  | .wrongKind wanted found => "expected " ++ wanted.name ++ " frame, got " ++ found.name
  | .requestNotObject => "request body is not an object"
  | .noAction => "request body has no action"
  | .verbNotText action => "action '" ++ action ++ "' has a non-string verb"
  | .stated reason => reason

/-- Why a frame cannot be used. It concerns that frame only. -/
inductive FrameError where
  | malformed (fault : FrameFault)
  | json (e : JsonError)
  | tooLarge (size max : Nat)
  deriving DecidableEq

def FrameError.message : FrameError → String
  | .malformed fault => "malformed frame: " ++ fault.reason
  | .json e => "frame json error: " ++ e.message
  | .tooLarge size max =>
    "frame too large (" ++ toString size ++ " bytes, max " ++ toString max ++ ")"

end Telemux
