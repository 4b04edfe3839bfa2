import Telemux.Command.Happening
import Telemux.Command.Output
import Telemux.Command.Plan
import Telemux.Command.Watch

namespace Telemux

/-- A subscribe command at work: its client, the call that is not yet answered, and what it printed. -/
structure SubscribeRun where
  hub : Hub
  generation : Nat
  call : Option Nat
  id : Nat
  watch : Watch := {}
  output : String := ""

namespace SubscribeRun

/-- What can come next while a command runs: a word on one of its links, the end of a link's other
side, a turn of the task of a link, or a turn of the command itself. -/
inductive Turn where
  | word (generation : Nat) (item : Inbound)
  | leave (generation : Nat)
  | handle (generation : Nat)
  | stop (generation : Nat)
  | answer
  | item
  | loss
  | redial (result : Except String Unit)
  | interrupt

def withClient (r : SubscribeRun) (client : Client) : SubscribeRun :=
  { r with hub := { r.hub with client } }

def close (r : SubscribeRun) : SubscribeRun :=
  r.withClient r.hub.client.close

def isWatching (r : SubscribeRun) : Bool :=
  r.call.isNone && r.watch.phase = .watching

/-- Prints the answer of the server when it is there; a refusal ends the command. -/
def fetch (format : OutputFormat) (r : SubscribeRun) : SubscribeRun :=
  match r.call with
  | none => r
  | some sequence =>
    let (client, outcome) := r.hub.client.collect sequence
    let r := r.withClient client
    match outcome with
    | some (.ok (.initial reply)) =>
      { r with call := none, output := r.output ++ printReply format reply }
    | some (.error e) =>
      { r with watch := { r.watch with phase := .ended (.error (.ofClient "subscribe failed" e)) } }
    | _ => r

/-- Prints an event. The client is closed when it was the last one to print. -/
def print (p : WatchPolicy) (format : OutputFormat) (now : String) (r : SubscribeRun) (e : TopicEvent) :
    SubscribeRun :=
  let r := { r with watch := r.watch.step p (.event e), output := r.output ++ printEvent format r.id now e }
  if r.watch.isOver then r.close else r

def takeItem (p : WatchPolicy) (format : OutputFormat) (now : String) (r : SubscribeRun) :
    SubscribeRun :=
  if r.isWatching then
    let (client, received) := r.hub.client.receive r.id
    let r := r.withClient client
    match received with
    | .item (.ok e) => r.print p format now e
    | .item (.error e) => { r with watch := r.watch.step p (.failed e) }
    | .ended => { r with watch := r.watch.step p .finished }
    | .pending => r
  else r

def noticeLoss (p : WatchPolicy) (r : SubscribeRun) : SubscribeRun :=
  if r.isWatching then
    match (r.hub.tasks.find? r.generation).bind (·.ended) with
    | some reason => { r with watch := r.watch.step p (.lost reason) }
    | none => r
  else r

def redial (p : WatchPolicy) (r : SubscribeRun) (result : Except String Unit) : SubscribeRun :=
  if r.watch.phase = .reconnecting then
    match result with
    | .error _ => { r with watch := r.watch.step p .retryFailed }
    | .ok () =>
      match r.hub.attach none with
      | (hub, .ok generation) => { r with hub, generation, watch := r.watch.step p .reconnected }
      | (hub, .error _) => { r with hub, watch := r.watch.step p .retryFailed }
  else r

/-- An interruption closes the client and ends the watch. It is listened for once the call has returned;
one that comes before ends the process at once and is left out. -/
def interrupt (p : WatchPolicy) (r : SubscribeRun) : SubscribeRun :=
  if r.call.isNone then close { r with watch := r.watch.step p .interrupt } else r

def turn (p : WatchPolicy) (format : OutputFormat) (now : String) (r : SubscribeRun) :
    Turn → SubscribeRun
  | .word generation item => { r with hub := r.hub.push generation item }
  | .leave generation =>
    let tasks := r.hub.tasks.adjust generation fun t => { t with attended := false }
    { r with hub := { r.hub with tasks } }
  | .handle generation => { r with hub := r.hub.handle generation }
  | .stop generation => { r with hub := r.hub.stop generation }
  | .answer => r.fetch format
  | .item => r.takeItem p format now
  | .loss => r.noticeLoss p
  | .redial result => r.redial p result
  | .interrupt => r.interrupt p

/-- Nothing happens any more once the command is over. -/
def step (p : WatchPolicy) (format : OutputFormat) (now : String) (r : SubscribeRun) (t : Turn) :
    SubscribeRun :=
  if r.watch.isOver then r else r.turn p format now t

/-- Turns one after the other, all at one time of day: a clock that goes on would change only the times
that are printed. -/
def conduct (p : WatchPolicy) (format : OutputFormat) (now : String) (r : SubscribeRun)
    (turns : List Turn) : SubscribeRun :=
  turns.foldl (step p format now) r

/-- Everything that the command finds when it looks: the answer, the items, and the loss of the link. -/
def settle (p : WatchPolicy) (format : OutputFormat) (now : String) (r : SubscribeRun) :
    SubscribeRun :=
  let r := r.step p format now .answer
  let size := ((r.hub.client.held? r.id).map fun h => h.queue.length).getD 0
  r.conduct p format now (List.replicate (size + 1) .item ++ [.loss])

def react (p : WatchPolicy) (format : OutputFormat) (now : String) (r : SubscribeRun) :
    Happening → SubscribeRun
  | .inbound word =>
    if r.watch.isOver then r
    else settle p format now { r with hub := r.hub.hear r.generation word }
  | .redialed result => settle p format now (r.step p format now (.redial result))
  | .interrupt => r.step p format now .interrupt

/-- How the command ends, once nothing more happens: it is stopped from outside if it still runs. -/
def result (r : SubscribeRun) : Except Failure Nat :=
  match r.watch.phase with
  | .ended (.error f) => .error f
  | _ => .ok 0

/-- Connects a new client and asks for a topic. That the link is lost between the two is left out. -/
def start (topic : Topic) : Except Failure SubscribeRun :=
  match (Hub.fresh {}).attach none with
  | (_, .error e) => .error (.ofClient "connect failed" e)
  | (hub, .ok generation) =>
    match hub.client.subscribe topic with
    | (_, .error e) => .error (.ofClient "subscribe failed" e)
    | (client, .ok sequence) =>
      .ok { hub := { hub with client }, generation, call := some sequence, id := hub.client.nextId }

def run (a : SubscribeArguments) (format : OutputFormat) (plan : SubscribePlan) (outside : Outside) :
    Report :=
  match outside.dialed with
  | .error reason => ⟨"", .error (connectFailure plan.endpoint reason)⟩
  | .ok () =>
    match start plan.topic with
    | .error f => ⟨"", .error f⟩
    | .ok r =>
      let r := outside.happenings.foldl (react ⟨a.count, a.noReconnect⟩ format outside.now) r
      ⟨r.output, r.result⟩

end SubscribeRun

end Telemux
