import Telemux.Command.Failure
import Telemux.Link.Basic
import Telemux.TopicEvent

namespace Telemux

/-- What the command that watches a subscription can meet: items of the subscription, the loss of the
link, attempts to connect again, and the wish of the user to stop. -/
inductive Signal where
  | event (e : TopicEvent)
  | failed (e : ClientError)
  | finished
  | lost (reason : CloseReason)
  | reconnected
  | retryFailed
  | interrupt
  deriving DecidableEq

/-- How many events to print, and what to do when the link is lost. -/
structure WatchPolicy where
  count : Option Nat
  noReconnect : Bool
  deriving DecidableEq

inductive WatchPhase where
  | watching
  | reconnecting
  | ended (result : Except Failure Unit)
  deriving DecidableEq

/-- The events that are printed so far, and what the command is about to do. -/
structure Watch where
  printed : List TopicEvent := []
  phase : WatchPhase := .watching
  deriving DecidableEq

namespace Watch

/-- Prints an event, and stops when that was the last one to print. -/
def print (p : WatchPolicy) (w : Watch) (e : TopicEvent) : Watch :=
  let printed := w.printed ++ [e]
  ⟨printed, if p.count.any (· ≤ printed.length) then .ended (.ok ()) else .watching⟩

def afterLoss (p : WatchPolicy) (reason : CloseReason) : WatchPhase :=
  if p.noReconnect then
    .ended (.error ⟨Failure.transportCode, "connection closed: " ++ reason.text⟩)
  else .reconnecting

def step (p : WatchPolicy) (w : Watch) (s : Signal) : Watch :=
  match w.phase, s with
  | .watching, .event e => w.print p e
  | .watching, .failed e => { w with phase := .ended (.error (.ofClient "subscription ended" e)) }
  | .watching, .finished => { w with phase := .ended (.ok ()) }
  | .watching, .lost reason => { w with phase := afterLoss p reason }
  | .watching, .interrupt => { w with phase := .ended (.ok ()) }
  | .reconnecting, .reconnected => { w with phase := .watching }
  | .reconnecting, .interrupt => { w with phase := .ended (.ok ()) }
  | _, _ => w

def isOver (w : Watch) : Bool :=
  match w.phase with
  | .ended _ => true
  | _ => false

end Watch

end Telemux
