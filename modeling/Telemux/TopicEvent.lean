import Telemux.Payload.Report
import Telemux.Payload.Parameter

namespace Telemux

inductive EventKind where
  | log
  | time
  | connectionInfo
  | link
  | stream
  | alarm
  | client
  | statistics
  | streamData
  | instanceInfo
  | processor
  | commandQueue
  | commandQueueEvent
  | parameters
  deriving DecidableEq

namespace EventKind

def tag : EventKind → String
  | .log => "EVENT"
  | .time => "TIME_INFO"
  | .connectionInfo => "CONNECTION_INFO"
  | .link => "LINK_EVENT"
  | .stream => "STREAM_EVENT"
  | .alarm => "ALARM_DATA"
  | .client => "CLIENT_INFO"
  | .statistics => "PROCESSING_STATISTICS"
  | .streamData => "STREAM_DATA"
  | .instanceInfo => "INSTANCE"
  | .processor => "PROCESSOR_INFO"
  | .commandQueue => "COMMAND_QUEUE_INFO"
  | .commandQueueEvent => "COMMAND_QUEUE_EVENT"
  | .parameters => "PARAMETER"

/-- The kinds that have one tag each. -/
def plainKinds : List EventKind :=
  [.log, .time, .connectionInfo, .link, .stream, .client, .statistics, .streamData, .instanceInfo,
    .processor, .commandQueue, .commandQueueEvent, .parameters]

/-- Alarms come under every tag with this ending. -/
def isAlarmTag (tag : String) : Bool :=
  (EventKind.tag .alarm).toList.isSuffixOf tag.toList

def ofTag? (tag : String) : Option EventKind :=
  match plainKinds.find? (·.tag = tag) with
  | some kind => some kind
  | none => if isAlarmTag tag then some .alarm else none

end EventKind

inductive TopicEvent where
  | log (e : LogEvent)
  | time (e : TimeInfo)
  | connectionInfo (e : ConnectionInfo)
  | link (e : LinkEvent)
  | stream (e : StreamEvent)
  | alarm (e : Alarm)
  | client (e : ClientInfo)
  | statistics (e : Statistics)
  | streamData (e : StreamData)
  | instanceInfo (e : Instance)
  | processor (e : Processor)
  | commandQueue (e : CommandQueue)
  | commandQueueEvent (e : CommandQueueEvent)
  | parameters (e : ParameterData)
  deriving DecidableEq

namespace TopicEvent

def kind : TopicEvent → EventKind
  | .log _ => .log
  | .time _ => .time
  | .connectionInfo _ => .connectionInfo
  | .link _ => .link
  | .stream _ => .stream
  | .alarm _ => .alarm
  | .client _ => .client
  | .statistics _ => .statistics
  | .streamData _ => .streamData
  | .instanceInfo _ => .instanceInfo
  | .processor _ => .processor
  | .commandQueue _ => .commandQueue
  | .commandQueueEvent _ => .commandQueueEvent
  | .parameters _ => .parameters

def tag (e : TopicEvent) : String :=
  e.kind.tag

def read : EventKind → Value → Except Misfit TopicEvent
  | .log, v => (LogEvent.codec.read v).map .log
  | .time, v => (TimeInfo.codec.read v).map .time
  | .connectionInfo, v => (ConnectionInfo.codec.read v).map .connectionInfo
  | .link, v => (LinkEvent.codec.read v).map .link
  | .stream, v => (StreamEvent.codec.read v).map .stream
  | .alarm, v => (Alarm.codec.read v).map .alarm
  | .client, v => (ClientInfo.codec.read v).map .client
  | .statistics, v => (Statistics.codec.read v).map .statistics
  | .streamData, v => (StreamData.codec.read v).map .streamData
  | .instanceInfo, v => (Instance.codec.read v).map .instanceInfo
  | .processor, v => (Processor.codec.read v).map .processor
  | .commandQueue, v => (CommandQueue.codec.read v).map .commandQueue
  | .commandQueueEvent, v => (CommandQueueEvent.codec.read v).map .commandQueueEvent
  | .parameters, v => (ParameterData.codec.read v).map .parameters

/-- Decodes pushed data by its tag. The server also pushes data under tags that are not known here. -/
def decode (tag : String) (data : Value) : Except Misfit (Option TopicEvent) :=
  match EventKind.ofTag? tag with
  | none => .ok none
  | some kind => (read kind data).map some

def toValue : TopicEvent → Value
  | .log e => LogEvent.codec.write e
  | .time e => TimeInfo.codec.write e
  | .connectionInfo e => ConnectionInfo.codec.write e
  | .link e => LinkEvent.codec.write e
  | .stream e => StreamEvent.codec.write e
  | .alarm e => Alarm.codec.write e
  | .client e => ClientInfo.codec.write e
  | .statistics e => Statistics.codec.write e
  | .streamData e => StreamData.codec.write e
  | .instanceInfo e => Instance.codec.write e
  | .processor e => Processor.codec.write e
  | .commandQueue e => CommandQueue.codec.write e
  | .commandQueueEvent e => CommandQueueEvent.codec.write e
  | .parameters e => ParameterData.codec.write e

end TopicEvent

end Telemux
