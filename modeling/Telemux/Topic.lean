import Telemux.Frame.Body
import Telemux.Payload.Parameter

namespace Telemux

structure AlarmOptions where
  detail : Option Bool
  deriving DecidableEq

namespace AlarmOptions

def layout : Layout AlarmOptions AlarmOptions :=
  (Layout.make AlarmOptions.mk).field "detail" (.optional .flag) (·.detail)

def codec : Codec AlarmOptions :=
  .closedRecord "AlarmSubscriptionRequest" layout

end AlarmOptions

structure ProcessorOptions where
  allInstances : Option Bool
  allProcessors : Option Bool
  deriving DecidableEq

namespace ProcessorOptions

def layout : Layout ProcessorOptions ProcessorOptions :=
  ((Layout.make ProcessorOptions.mk).field
    "allInstances" (.optional .flag) (·.allInstances)).field
    "allProcessors" (.optional .flag) (·.allProcessors)

def codec : Codec ProcessorOptions :=
  .closedRecord "ProcessorSubscriptionRequest" layout

end ProcessorOptions

/-- What can be subscribed to. Some topics are narrowed by the client, others by the server. -/
inductive Topic where
  | events
  | time
  | links (site : Option String)
  | streamEvents (site : String)
  | alarms (options : AlarmOptions)
  | clients (site : Option String)
  | statistics (site : Option String)
  | stream (name : String)
  | instances
  | processors (options : ProcessorOptions)
  | commandQueues (site processor : Option String)
  | commandQueueEvents (site processor : Option String)
  | parameters (request : ParameterRequest)
  deriving DecidableEq

namespace Topic

/-- The action of the subscribe request; some topics share one. -/
def action : Topic → String
  | .events => "events"
  | .time => "time"
  | .links _ => "links"
  | .streamEvents _ => "streams"
  | .alarms _ => "alarms"
  | .clients _ | .statistics _ => "management"
  | .stream _ => "stream"
  | .instances => "instance"
  | .processors _ => "processor"
  | .commandQueues _ _ | .commandQueueEvents _ _ => "cqueues"
  | .parameters _ => "parameter"

def name : Topic → String
  | .events => "events"
  | .time => "time"
  | .links _ => "links"
  | .streamEvents _ => "stream-events"
  | .alarms _ => "alarms"
  | .clients _ => "clients"
  | .statistics _ => "statistics"
  | .stream _ => "stream"
  | .instances => "instances"
  | .processors _ => "processors"
  | .commandQueues _ _ => "command-queues"
  | .commandQueueEvents _ _ => "command-queue-events"
  | .parameters _ => "parameters"

/-- Options of which none is given are not sent. -/
def givenOptions : Value → Option Value
  | .object [] => none
  | v => some v

/-- The data of the subscribe request: what the server has to know to narrow the topic. -/
def requestData : Topic → Option Value
  | .streamEvents site => some (.object [("instance", .string site)])
  | .stream name => some (.object [("stream", .string name)])
  | .alarms options => givenOptions (AlarmOptions.codec.write options)
  | .processors options => givenOptions (ProcessorOptions.codec.write options)
  | .parameters request => some (ParameterRequest.codec.write request)
  | _ => none

def requestBody (t : Topic) : RequestBody :=
  .subscribe t.action t.requestData

def isParameters : Topic → Bool
  | .parameters _ => true
  | _ => false

end Topic

end Telemux
