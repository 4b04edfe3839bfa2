import Telemux.Client.Error
import Telemux.Payload.Report
import Telemux.Topic

namespace Telemux

inductive InitialReply where
  | ack
  | time (info : TimeInfo)
  | processor (info : Processor)
  | parameters (reply : ParameterReply)
  deriving DecidableEq

namespace InitialReply

/-- The data of a reply; null counts as none. -/
def givenData (body : ReplyBody) : Option Value :=
  body.data.filter (· ≠ .null)

/-- Parameters need an answer with data, and other topics take none for an acknowledgement. Data that
the topic does not expect is ignored. -/
def decode (topic : Topic) (body : ReplyBody) : Except ClientError InitialReply :=
  match givenData body with
  | none =>
    if topic.isParameters then
      .error (.unexpectedReply topic.name "reply carries no subscription")
    else .ok .ack
  | some data =>
    let read : Except Misfit InitialReply := match topic with
      | .time => (TimeInfo.codec.read data).map .time
      | .processors _ => (Processor.codec.read data).map .processor
      | .parameters _ => (ParameterReply.ofValue data).map .parameters
      | _ => .ok .ack
    read.mapError fun m => .json (.shape m)

def toValue? : InitialReply → Option Value
  | .ack => none
  | .time info => some (TimeInfo.codec.write info)
  | .processor info => some (Processor.codec.write info)
  | .parameters reply => some (ParameterReply.codec.write reply)

end InitialReply

end Telemux
