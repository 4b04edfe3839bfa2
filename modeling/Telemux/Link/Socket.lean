import Telemux.Link.Basic
import Telemux.Text.Utf8

namespace Telemux

/-- What comes from the socket of a link: messages, the end of the stream, and what goes wrong. -/
inductive SocketMessage where
  | text (text : String)
  | binary (bytes : List Nat)
  | control
  | closeFrame (frame : Option (Nat × String))
  | failure (reason : String)
  | finished
  deriving DecidableEq

namespace SocketMessage

/-- The text of a message. Bytes are one if they are UTF-8, and are dropped if not. -/
def text? : SocketMessage → Option String
  | .text t => some t
  | .binary bytes => (utf8Chars? bytes).map String.ofList
  | _ => none

/-- Why a message ends the link, if it does. -/
def ending? : SocketMessage → Option CloseReason
  | .closeFrame (some (code, reason)) => some ⟨some code, reason⟩
  | .closeFrame none => some ⟨none, "closed by server"⟩
  | .failure reason => some ⟨none, reason⟩
  | .finished => some ⟨none, "stream ended"⟩
  | _ => none

end SocketMessage

/-- Where the task of a link stands: it waits for either side, writes a text, or has left its loop.
Then it first refuses what the owner sends and after that tells the end. -/
inductive SocketStage where
  | waiting
  | writing (text : String)
  | leaving (reason : CloseReason)
  | refusing (reason : CloseReason)
  | ended (reason : CloseReason)
  deriving DecidableEq

/-- A link over a socket. Texts of the owner are queued and written one by one, and what arrives from
the socket is told to the owner as events. -/
structure SocketLink where
  queued : List Outbound := []
  arrived : List SocketMessage := []
  written : List String := []
  events : List Inbound := [.opened]
  abandoned : Bool := false
  accepting : Bool := true
  stage : SocketStage := .waiting
  deriving DecidableEq

namespace SocketLink

/-- What can happen on the link: the owner sends something, drops its last sender or reads an event,
something arrives from the socket, or the task takes a step. A write may fail. -/
inductive Step where
  | send (out : Outbound)
  | abandon
  | next
  | arrive (m : SocketMessage)
  | takeQueued
  | write (failure : Option String)
  | takeArrived
  | refuse
  | announce
  deriving DecidableEq

def accepts (l : SocketLink) : Bool :=
  l.accepting && !l.abandoned

/-- Takes the next of what the owner queued. The end of the queue counts as the wish to close. -/
def takeQueued (l : SocketLink) : SocketLink :=
  match l.stage, l.queued with
  | .waiting, .text t :: rest => { l with queued := rest, stage := .writing t }
  | .waiting, .close :: rest => { l with queued := rest, stage := .leaving .here }
  | .waiting, [] => if l.abandoned then { l with stage := .leaving .here } else l
  | _, _ => l

def write (l : SocketLink) (failure : Option String) : SocketLink :=
  match l.stage, failure with
  | .writing t, none => { l with written := l.written ++ [t], stage := .waiting }
  | .writing _, some reason => { l with stage := .leaving ⟨none, reason⟩ }
  | _, _ => l

def takeArrived (l : SocketLink) : SocketLink :=
  match l.stage, l.arrived with
  | .waiting, m :: rest =>
    match m.ending? with
    | some reason => { l with arrived := rest, stage := .leaving reason }
    | none => { l with arrived := rest, events := l.events ++ m.text?.toList.map .message }
  | _, _ => l

def refuse (l : SocketLink) : SocketLink :=
  match l.stage with
  | .leaving reason => { l with accepting := false, stage := .refusing reason }
  | _ => l

def announce (l : SocketLink) : SocketLink :=
  match l.stage with
  | .refusing reason =>
    { l with queued := [], events := l.events ++ [.closed reason], stage := .ended reason }
  | _ => l

def step (l : SocketLink) : Step → SocketLink
  | .send out => if l.accepts then { l with queued := l.queued ++ [out] } else l
  | .abandon => { l with abandoned := true }
  | .next => { l with events := l.events.tail }
  | .arrive m => { l with arrived := l.arrived ++ [m] }
  | .takeQueued => l.takeQueued
  | .write failure => l.write failure
  | .takeArrived => l.takeArrived
  | .refuse => l.refuse
  | .announce => l.announce

def run (l : SocketLink) (steps : List Step) : SocketLink :=
  steps.foldl step l

end SocketLink

end Telemux
