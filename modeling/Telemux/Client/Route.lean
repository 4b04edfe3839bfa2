import Telemux.Topic
import Telemux.TopicEvent

namespace Telemux

/-- What the server last told about a subscription: its own number for it, and the names that numeric
ids stand for. -/
structure Binding where
  subscriptionId : Option Int := none
  mapping : NumericMapping := .empty
  deriving DecidableEq

/-- Where pushes for a subscription go. It is unbound while the subscription waits for the answer to
its replay. -/
structure Route where
  topic : Topic
  binding : Option Binding
  deriving DecidableEq

/-- No scope takes everything, and a scope takes exactly its own name. -/
def inScope (scope found : Option String) : Bool :=
  scope.isNone || found = scope

/-- Gives a sample without a name the name that its numeric id stands for. -/
def ParameterValue.restoreId (mapping : NumericMapping) (v : ParameterValue) : ParameterValue :=
  match v.id with
  | some _ => v
  | none => { v with id := v.numericId.bind mapping.find? }

def ParameterData.restoreIds (mapping : NumericMapping) (d : ParameterData) : ParameterData :=
  { d with parameter := d.parameter.map (·.restoreId mapping) }

/-- Whether an event belongs to a topic, as far as that can be told without a binding. -/
def Topic.accepts : Topic → TopicEvent → Bool
  | .events, .log _ => true
  | .time, .time _ => true
  | .links site, .link e => inScope site (some e.linkInfo.instanceName)
  | .streamEvents _, .stream _ => true
  | .alarms _, .alarm _ => true
  | .clients site, .client e => inScope site e.instanceName
  | .statistics site, .statistics e => inScope site e.instanceName
  | .stream name, .streamData e => name = e.stream
  | .instances, .instanceInfo _ => true
  | .processors _, .processor _ => true
  | .commandQueues site processor, .commandQueue e =>
    inScope site e.instanceName && inScope processor e.processorName
  | .commandQueueEvents site processor, .commandQueueEvent e =>
    inScope site e.entry.instanceName && inScope processor e.entry.processorName
  | .parameters _, .parameters _ => true
  | _, _ => false

namespace Route

/-- What a route delivers of an event, if the event belongs to it. Parameters are taken by the
server's number of the subscription. -/
def deliver (r : Route) (event : TopicEvent) : Option TopicEvent :=
  if r.topic.accepts event then
    match event with
    | .parameters data => do
      let binding ← r.binding
      if data.subscriptionId = binding.subscriptionId then
        some (.parameters (data.restoreIds binding.mapping))
      else none
    | _ => some event
  else none

end Route

end Telemux
