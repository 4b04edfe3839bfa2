import Telemux.Command.Failure
import Telemux.Topic

namespace Telemux

inductive OutputFormat where
  | json
  | table
  | pretty
  deriving DecidableEq

inductive TopicName where
  | events
  | time
  | links
  | streamEvents
  | alarms
  | clients
  | statistics
  | stream
  | instances
  | processors
  | commandQueues
  | commandQueueEvents
  | parameters
  deriving DecidableEq

namespace TopicName

def text : TopicName → String
  | .events => "events"
  | .time => "time"
  | .links => "links"
  | .streamEvents => "stream-events"
  | .alarms => "alarms"
  | .clients => "clients"
  | .statistics => "statistics"
  | .stream => "stream"
  | .instances => "instances"
  | .processors => "processors"
  | .commandQueues => "command-queues"
  | .commandQueueEvents => "command-queue-events"
  | .parameters => "parameters"

def all : List TopicName :=
  [.events, .time, .links, .streamEvents, .alarms, .clients, .statistics, .stream, .instances,
    .processors, .commandQueues, .commandQueueEvents, .parameters]

def ofText? (text : String) : Option TopicName :=
  all.find? (·.text = text)

end TopicName

structure TopicChoice where
  name : TopicName
  site : Option String := none
  processor : Option String := none
  stream : Option String := none
  parameters : List String := []
  deriving DecidableEq

/-- The topic that is chosen. Options that the topic has no use for are ignored. -/
def TopicChoice.topic (t : TopicChoice) : Except Failure Topic :=
  match t.name with
  | .events => .ok .events
  | .time => .ok .time
  | .links => .ok (.links t.site)
  | .streamEvents =>
    match t.site with
    | some site => .ok (.streamEvents site)
    | none => .error (.usage "--topic stream-events requires --instance")
  | .alarms => .ok (.alarms ⟨none⟩)
  | .clients => .ok (.clients t.site)
  | .statistics => .ok (.statistics t.site)
  | .stream =>
    match t.stream with
    | some stream => .ok (.stream stream)
    | none => .error (.usage "--topic stream requires --stream")
  | .instances => .ok .instances
  | .processors => .ok (.processors ⟨none, none⟩)
  | .commandQueues => .ok (.commandQueues t.site t.processor)
  | .commandQueueEvents => .ok (.commandQueueEvents t.site t.processor)
  | .parameters =>
    if t.parameters.isEmpty then
      .error (.usage "--topic parameters requires at least one --parameter")
    else .ok (.parameters (.numeric t.parameters))

/-- The endpoint of an address on the command line. The address of a socket is taken as it is. -/
def resolveEndpoint (url : String) (site : Option String) : Except Failure Endpoint :=
  let endpoint :=
    if "ws://".toList.isPrefixOf url.toList ∨ "wss://".toList.isPrefixOf url.toList then
      Endpoint.parse url
    else Endpoint.ofBaseUrl url site
  endpoint.mapError fun fault => .ofTransport "invalid url" (.invalidEndpoint url fault)

end Telemux
