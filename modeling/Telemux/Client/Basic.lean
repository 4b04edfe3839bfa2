import Telemux.Client.Correlator
import Telemux.Client.InitialReply
import Telemux.Client.Route
import Telemux.Frame.Basic
import Telemux.Link.Basic

namespace Telemux

/-- What the answer to a request is for. -/
inductive Purpose where
  | request
  | subscribe (id : Nat) (topic : Topic)
  | replay (id : Nat) (topic : Topic)
  deriving DecidableEq

inductive Answer where
  | reply (body : ReplyBody)
  | initial (reply : InitialReply)
  deriving DecidableEq

abbrev Outcome := Except ClientError Answer

/-- A call whose caller has neither left nor fetched the outcome. A subscribe call holds the handle of
its subscription. -/
structure Call where
  handle : Option Nat
  outcome : Option Outcome
  deriving DecidableEq

abbrev Item := Except ClientError TopicEvent

/-- The caller's end of a subscription. It belongs to its call until the call has returned. -/
structure Handle where
  topic : Topic
  queue : List Item
  interrupted : Bool
  held : Bool
  deriving DecidableEq

/-- A subscription to restore on later links, and the link on which the server last confirmed it. -/
structure Subscribed where
  topic : Topic
  generation : Nat
  deriving DecidableEq

/-- The link in use. It is ready once the server has told who the client is. Where its other side is
about to take nothing more, it still has room for so many texts. -/
structure ActiveLink where
  generation : Nat
  ready : Bool
  room : Option Nat
  deriving DecidableEq

namespace ActiveLink

def accepting (l : ActiveLink) : Bool :=
  l.room ≠ some 0

def spend (l : ActiveLink) : ActiveLink :=
  { l with room := l.room.map (· - 1) }

def limit (l : ActiveLink) (n : Nat) : ActiveLink :=
  { l with room := some (l.room.elim n (min n)) }

end ActiveLink

/-- The client: at most one link, the requests that wait on it, and the subscriptions, which outlive
it. Generations and the ids of subscriptions are natural numbers, which agree with counters of
sixty-four bits below 2^64. -/
structure Client where
  config : FrameConfig
  link : Option ActiveLink := none
  generation : Nat := 0
  correlator : Correlator Purpose := {}
  routes : Table Route := .empty
  registry : Table Subscribed := .empty
  handles : Table Handle := .empty
  calls : Table Call := .empty
  nextId : Nat := 1
  connected : Bool := false
  info : Option ConnectionInfo := none
  infoCount : Nat := 0
  closed : Bool := false
  written : List (Nat × Outbound) := []
  deriving DecidableEq

namespace Client

def isCurrent (c : Client) (generation : Nat) : Bool :=
  c.link.any (·.generation = generation)

def subscriptionCount (c : Client) : Nat :=
  c.registry.size

def write (c : Client) (link : ActiveLink) (out : Outbound) : Client :=
  if link.accepting then
    { c with written := c.written ++ [(link.generation, out)], link := some link.spend }
  else c

/-- Writes a request and notes what its answer is for. A request that is not written takes no
sequence. -/
def sendRequest (c : Client) (body : RequestBody) (purpose : Purpose) : Except ClientError Client :=
  if c.closed then .error .closed
  else
    match c.link with
    | none => .error .notConnected
    | some link =>
      match (Frame.request c.correlator.next body).encode c.config with
      | .error e => .error (.frame e)
      | .ok text =>
        if link.accepting then
          .ok { c.write link (.text text) with
            correlator := c.correlator.register link.generation purpose }
        else .error .notConnected

def answer (c : Client) (sequence : Nat) (outcome : Outcome) : Client :=
  { c with calls := c.calls.adjust sequence fun call => { call with outcome := some outcome } }

def push (c : Client) (id : Nat) (item : Item) : Client :=
  { c with handles := c.handles.adjust id fun h => { h with queue := h.queue ++ [item] } }

def setInterrupted (c : Client) (id : Nat) (b : Bool) : Client :=
  { c with handles := c.handles.adjust id fun h => { h with interrupted := b } }

/-- Forgets a subscription. What is queued on its handle stays there. -/
def detach (c : Client) (id : Nat) : Client :=
  { c with routes := c.routes.erase id, registry := c.registry.erase id }

def release (c : Client) (id : Nat) : Client :=
  { c.detach id with handles := c.handles.erase id }

/-- Ends a subscription with an error as its last item. -/
def endSubscription (c : Client) (id : Nat) (e : ClientError) : Client :=
  (if c.routes.contains id then c.push id (.error e) else c).detach id

/-- Fails a request that will not be answered any more. A replay is simply made again later. -/
def reject (c : Client) (e : ClientError) (p : Pending Purpose) : Client :=
  match p.purpose with
  | .request | .subscribe _ _ => c.answer p.sequence (.error e)
  | .replay _ _ => c

def interruptAll (c : Client) : Client :=
  { c with
    routes := c.routes.map fun _ r => { r with binding := none }
    handles := c.handles.map fun id h => if c.routes.contains id then { h with interrupted := true } else h }

def closeLink (c : Client) (generation : Nat) : Client :=
  match c.link with
  | none => c
  | some link =>
    if link.generation = generation then
      let (lost, correlator) := c.correlator.drain generation
      let c := { c.write link .close with link := none, correlator }
      { (lost.foldl (·.reject .connectionLost) c).interruptAll with connected := false }
    else c

/-- Takes a new link into use in place of the present one, and answers its generation. -/
def attach (c : Client) (room : Option Nat) : Client × Except ClientError Nat :=
  if c.closed then (c, .error .closed)
  else
    let c := match c.link with
      | some link => c.closeLink link.generation
      | none => c
    let generation := c.generation + 1
    ({ c with generation, link := some ⟨generation, false, room⟩ }, .ok generation)

/-- Notes that the other side of a link takes only so much more. -/
def refuse (c : Client) (generation after : Nat) : Client :=
  { c with link := c.link.map fun link =>
      if link.generation = generation then link.limit after else link }

/-- Subscribes to a topic, and answers the sequence of the request. Every attempt takes an id. -/
def subscribe (c : Client) (topic : Topic) : Client × Except ClientError Nat :=
  let id := c.nextId
  let sequence := c.correlator.next
  let c := { c with nextId := id + 1 }
  match c.sendRequest topic.requestBody (.subscribe id topic) with
  | .error e => (c, .error e)
  | .ok c =>
    ({ c with
        handles := c.handles.insert id ⟨topic, [], false, false⟩
        calls := c.calls.insert sequence ⟨some id, none⟩ },
      .ok sequence)

def request (c : Client) (body : RequestBody) : Client × Except ClientError Nat :=
  let sequence := c.correlator.next
  match c.sendRequest body .request with
  | .error e => (c, .error e)
  | .ok c => ({ c with calls := c.calls.insert sequence ⟨none, none⟩ }, .ok sequence)

/-- The caller leaves. A subscription that was already made goes with it. -/
def cancel (c : Client) (sequence : Nat) : Client :=
  match c.calls.find? sequence with
  | none => c
  | some call =>
    let c := { c with calls := c.calls.erase sequence }
    match call.handle with
    | some id => c.release id
    | none => c

/-- The caller fetches the outcome, if there is one. With a success it gets the handle as well. -/
def collect (c : Client) (sequence : Nat) : Client × Option Outcome :=
  match c.calls.find? sequence with
  | some ⟨handle, some outcome⟩ =>
    let c := { c with calls := c.calls.erase sequence }
    match handle, outcome with
    | none, _ => (c, some outcome)
    | some id, .ok _ =>
      ({ c with handles := c.handles.adjust id fun h => { h with held := true } }, some outcome)
    | some id, .error _ => (c.release id, some outcome)
  | _ => (c, none)

def held? (c : Client) (id : Nat) : Option Handle :=
  (c.handles.find? id).filter (·.held)

def unsubscribe (c : Client) (id : Nat) : Client :=
  if (c.held? id).isSome then c.detach id else c

def dropHandle (c : Client) (id : Nat) : Client :=
  if (c.held? id).isSome then c.release id else c

/-- What a handle has to offer: an item, the end of the stream, or nothing yet. -/
inductive Received where
  | item (item : Item)
  | pending
  | ended
  deriving DecidableEq

/-- Takes the next item of a handle. The stream ends when nothing can be put on it any more. -/
def receive (c : Client) (id : Nat) : Client × Received :=
  match c.held? id with
  | none => (c, .ended)
  | some h =>
    match h.queue with
    | item :: rest =>
      ({ c with handles := c.handles.adjust id fun h => { h with queue := rest } }, .item item)
    | [] => (c, if c.routes.contains id then .pending else .ended)

def waitConnected (c : Client) : Option (Except ClientError Unit) :=
  if c.closed then some (.error .closed)
  else if c.connected then some (.ok ())
  else none

def close (c : Client) : Client :=
  if c.closed then c
  else
    let c := match c.link with
      | some link => { c.write link .close with link := none }
      | none => c
    let (pending, correlator) := c.correlator.drainAll
    { pending.foldl (·.reject .closed) { c with correlator } with
      routes := .empty, registry := .empty, connected := false, closed := true }

def bindingOf : InitialReply → Binding
  | .parameters reply => ⟨reply.subscriptionId, reply.mapping⟩
  | _ => {}

def fulfil (c : Client) (generation : Nat) (p : Pending Purpose)
    (reply : Except ClientError ReplyBody) : Client :=
  match p.purpose with
  | .request => c.answer p.sequence (reply.map .reply)
  | .subscribe id topic =>
    match reply.bind (InitialReply.decode topic) with
    | .error e => c.answer p.sequence (.error e)
    | .ok initial =>
      if c.calls.contains p.sequence then
        let c := { c with
          routes := c.routes.insert id ⟨topic, some (bindingOf initial)⟩
          registry := c.registry.insert id ⟨topic, generation⟩ }
        (c.setInterrupted id false).answer p.sequence (.ok (.initial initial))
      else c.detach id
  | .replay id topic =>
    if c.registry.contains id then
      match reply.bind (InitialReply.decode topic) with
      | .error e => c.endSubscription id e
      | .ok initial =>
        let c := { c with
          routes := c.routes.adjust id fun r => { r with binding := some (bindingOf initial) }
          registry := c.registry.adjust id fun s => { s with generation } }
        if c.routes.contains id then c.setInterrupted id false else c
    else c

/-- Takes the answer to a request; an answer that nothing waits for is dropped. -/
def complete (c : Client) (generation sequence : Nat) (reply : Except ClientError ReplyBody) :
    Client :=
  match c.correlator.take sequence with
  | none => c
  | some (p, correlator) => { c with correlator }.fulfil generation p reply

/-- The subscriptions that are not confirmed on a link, in the order of their ids. -/
def stale (c : Client) (generation : Nat) : List (Nat × Topic) :=
  (c.registry.entries.filter fun e => e.2.generation < generation).map fun e => (e.1, e.2.topic)

/-- Subscribes again for the given subscriptions, until the link takes no more. -/
def replay (c : Client) : List (Nat × Topic) → Client
  | [] => c
  | (id, topic) :: rest =>
    match c.sendRequest topic.requestBody (.replay id topic) with
    | .ok c => c.replay rest
    | .error .notConnected => c
    | .error e => (c.endSubscription id e).replay rest

/-- The first word of the server on a link makes the link ready and restores the subscriptions. -/
def greet (c : Client) (link : ActiveLink) (info : ConnectionInfo) : Client :=
  let c := { c with info := some info, infoCount := c.infoCount + 1 }
  if link.ready then c
  else
    let c := { c with link := some { link with ready := true }, connected := true }
    c.replay (c.stale link.generation)

/-- Puts an event on every stream that it belongs to. A route without a handle goes away. -/
def route (c : Client) (event : TopicEvent) : Client :=
  { c with
    handles := c.handles.map fun id h =>
      match (c.routes.find? id).bind (·.deliver event) with
      | some item => { h with queue := h.queue ++ [.ok item] }
      | none => h
    routes := c.routes.filter fun id r => (r.deliver event).isNone || c.handles.contains id }

def dispatch (c : Client) (link : ActiveLink) : TopicEvent → Client
  | .connectionInfo info => c.greet link info
  | event => c.route event

def replyOf (f : Frame) : Except ClientError ReplyBody :=
  f.replyBody.mapError .frame

def failureOf (f : Frame) : ClientError :=
  match f.exceptionBody with
  | .ok body => .serverException body.et body.msg
  | .error e => .frame e

def eventOf? (f : Frame) : Option TopicEvent :=
  match f.dataBody with
  | .ok body =>
    match TopicEvent.decode body.dt body.data with
    | .ok event => event
    | .error _ => none
  | .error _ => none

/-- Takes a text from a link. Links that are not in use have no say, and a text that makes no sense
is dropped. -/
def message (c : Client) (generation : Nat) (text : String) : Client :=
  match c.link with
  | none => c
  | some link =>
    if link.generation = generation then
      match Frame.decode c.config text with
      | .error _ => c
      | .ok f =>
        match f.kind with
        | .reply => c.complete generation f.sequence (replyOf f)
        | .exception => c.complete generation f.sequence (.error (failureOf f))
        | .data =>
          match eventOf? f with
          | some event => c.dispatch link event
          | none => c
        | .request => c
    else c

end Client

end Telemux
