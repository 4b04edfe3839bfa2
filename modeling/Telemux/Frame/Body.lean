import Telemux.Frame.Error
import Telemux.Json.Codec

namespace Telemux

def subscribeVerb : String := "subscribe"

/-- The key that carries the data of a request, beside the key that names its action. -/
def dataKey : String := "data"

/-- What a request asks for: a verb on an action, with data if the action takes any. -/
structure RequestBody where
  action : String
  verb : String
  data : Option Value
  deriving DecidableEq

namespace RequestBody

def subscribe (action : String) (data : Option Value) : RequestBody :=
  ⟨action, subscribeVerb, data⟩

/-- The action with its verb, and behind it the data. Data under the action's own key replaces the
verb. -/
def toValue (r : RequestBody) : Value :=
  let head : Fields := [(r.action, .string r.verb)]
  .object <| match r.data with
    | some d => Fields.put head dataKey d
    | none => head

def actionField? : Fields → Option (String × Value)
  | [] => none
  | (k, v) :: fs => if k = dataKey then actionField? fs else some (k, v)

def ofValue : Value → Except FrameFault RequestBody
  | .object fs =>
    match actionField? fs with
    | none => .error .noAction
    | some (action, .string verb) => .ok ⟨action, verb, Fields.find? fs dataKey⟩
    | some (action, _) => .error (.verbNotText action)
  | _ => .error .requestNotObject

end RequestBody

/-- A successful answer; a bare acknowledgement has neither a tag nor data. -/
structure ReplyBody where
  dt : Option String
  data : Option Value
  deriving DecidableEq

structure ExceptionBody where
  et : String
  msg : String
  deriving DecidableEq

structure DataBody where
  dt : String
  data : Value
  deriving DecidableEq

def ReplyBody.layout : Layout ReplyBody ReplyBody :=
  (((Layout.make ReplyBody.mk).field "dt" (.optional .text) (·.dt)).field
    "data" (.optional .any) (·.data))

def ReplyBody.codec : Codec ReplyBody :=
  .closedRecord "ReplyBody" layout

def ExceptionBody.layout : Layout ExceptionBody ExceptionBody :=
  (((Layout.make ExceptionBody.mk).field "et" (.required .text) (·.et)).field
    "msg" (.withDefault .text "") (·.msg))

def ExceptionBody.codec : Codec ExceptionBody :=
  .closedRecord "ExceptionBody" layout

def DataBody.layout : Layout DataBody DataBody :=
  (((Layout.make DataBody.mk).field "dt" (.required .text) (·.dt)).field
    "data" (.withDefault .any .null) (·.data))

def DataBody.codec : Codec DataBody :=
  .closedRecord "DataBody" layout

end Telemux
