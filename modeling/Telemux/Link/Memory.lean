import Telemux.Link.Basic
import Telemux.Link.Error

namespace Telemux

/-- What is left of the client's end of a link. The copies of a sender are all alike, so that only
the drop of the last one counts. -/
inductive ClientEnd where
  | whole
  | parts
  | senderOnly
  | receiverOnly
  | gone
  deriving DecidableEq

/-- A link inside one process: what the client wrote and the server has not read, and what the server
pushed and the client has not read. -/
structure MemoryLink where
  outgoing : List Outbound := []
  incoming : List Inbound := [.opened]
  clientEnd : ClientEnd := .whole
  accepting : Bool := true
  served : Bool := true
  deriving DecidableEq

namespace MemoryLink

inductive Action where
  | clientSend (text : String)
  | clientClose
  | clientNext
  | isClosed
  | split
  | dropSender
  | dropReceiver
  | clientDrop
  | serverSend (text : String)
  | serverReceive
  | serverTryReceive
  | serverClose (reason : String)
  | serverDrop
  deriving DecidableEq

inductive Response where
  | done
  | refused
  | flag (b : Bool)
  | event (e : Inbound)
  | text (t : String)
  | noText
  | pending
  | ended
  | noSender
  | noReceiver
  | noServer
  deriving DecidableEq

def hasSender (l : MemoryLink) : Bool :=
  match l.clientEnd with
  | .whole | .parts | .senderOnly => true
  | .receiverOnly | .gone => false

def hasReceiver (l : MemoryLink) : Bool :=
  match l.clientEnd with
  | .whole | .parts | .receiverOnly => true
  | .senderOnly | .gone => false

/-- The client writes, which fails when the server takes nothing more. -/
def clientWrite (l : MemoryLink) (out : Outbound) : MemoryLink × Bool :=
  if l.accepting then ({ l with outgoing := l.outgoing ++ [out] }, true) else (l, false)

/-- The server pushes, which fails when nobody listens. -/
def serverPush (l : MemoryLink) (event : Inbound) : MemoryLink × Bool :=
  if l.hasReceiver then ({ l with incoming := l.incoming ++ [event] }, true) else (l, false)

/-- The server's next text; none when the client closed, or when none can come any more. -/
def serverReceive (l : MemoryLink) : MemoryLink × Response :=
  match l.outgoing with
  | .text t :: rest => ({ l with outgoing := rest }, .text t)
  | .close :: rest => ({ l with outgoing := rest }, .ended)
  | [] => (l, if l.accepting && l.hasSender then .pending else .ended)

/-- As `serverReceive`, for a server that does not care why there is no text. -/
def serverTryReceive (l : MemoryLink) : MemoryLink × Response :=
  match l.serverReceive with
  | (l, .text t) => (l, .text t)
  | (l, _) => (l, .noText)

def clientNext (l : MemoryLink) : MemoryLink × Response :=
  match l.incoming with
  | event :: rest => ({ l with incoming := rest }, .event event)
  | [] => (l, if l.served then .pending else .ended)

def giveUp (l : MemoryLink) : MemoryLink :=
  { l with clientEnd := .gone, incoming := [] }

def dropSender (l : MemoryLink) : MemoryLink :=
  match l.clientEnd with
  | .parts => { l with clientEnd := .receiverOnly }
  | .senderOnly => l.giveUp
  | .whole | .receiverOnly | .gone => l

def dropReceiver (l : MemoryLink) : MemoryLink :=
  match l.clientEnd with
  | .parts => { l with clientEnd := .senderOnly, incoming := [] }
  | .receiverOnly => l.giveUp
  | .whole | .senderOnly | .gone => l

def act (l : MemoryLink) : Action → MemoryLink × Response
  | .clientSend t =>
    if l.hasSender then
      match l.clientWrite (.text t) with
      | (l, true) => (l, .done)
      | (l, false) => (l, .refused)
    else (l, .noSender)
  | .clientClose => if l.hasSender then ((l.clientWrite .close).1, .done) else (l, .noSender)
  | .clientNext => if l.hasReceiver then l.clientNext else (l, .noReceiver)
  | .isClosed => (l, if l.hasSender then .flag (!l.accepting) else .noSender)
  | .split => (if l.clientEnd = .whole then { l with clientEnd := .parts } else l.giveUp, .done)
  | .dropSender => (l.dropSender, .done)
  | .dropReceiver => (l.dropReceiver, .done)
  | .clientDrop => (l.giveUp, .done)
  | .serverSend t =>
    if l.served then
      match l.serverPush (.message t) with
      | (l, true) => (l, .done)
      | (l, false) => (l, .refused)
    else (l, .noServer)
  | .serverReceive => if l.served then l.serverReceive else (l, .noServer)
  | .serverTryReceive => if l.served then l.serverTryReceive else (l, .noServer)
  | .serverClose reason =>
    if l.served then
      (({ l with accepting := false }.serverPush (.closed ⟨none, reason⟩)).1, .done)
    else (l, .noServer)
  | .serverDrop => ({ l with served := false, accepting := false, outgoing := [] }, .done)

end MemoryLink

/-- The links inside one process, in the order in which they were opened, and whether anybody takes
new ones. -/
structure MemoryNetwork where
  links : List MemoryLink := []
  listening : Bool := true
  deriving DecidableEq

namespace MemoryNetwork

def openLink (n : MemoryNetwork) : MemoryNetwork × Nat :=
  ({ n with links := n.links ++ [{}] }, n.links.length + 1)

def connect (n : MemoryNetwork) (url : String) : MemoryNetwork × Except TransportError Nat :=
  match Endpoint.parse url with
  | .error fault => (n, .error (.invalidEndpoint url fault))
  | .ok _ =>
    if n.listening then
      let (n, number) := n.openLink
      (n, .ok number)
    else (n, .error .shutdown)

def link? (n : MemoryNetwork) (number : Nat) : Option MemoryLink :=
  match number with
  | 0 => none
  | i + 1 => n.links[i]?

def act (n : MemoryNetwork) (number : Nat) (a : MemoryLink.Action) :
    Option (MemoryNetwork × MemoryLink.Response) :=
  (n.link? number).map fun l =>
    let (l, r) := l.act a
    ({ n with links := n.links.set (number - 1) l }, r)

end MemoryNetwork

end Telemux
