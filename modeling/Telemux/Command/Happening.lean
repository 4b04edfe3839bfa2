import Telemux.Client.Hub
import Telemux.Command.Failure

namespace Telemux

/-- What happens to a command after it has connected. -/
inductive Happening where
  | inbound (word : Inbound)
  | redialed (result : Except String Unit)
  | interrupt

/-- The world outside of a command: how the first attempt to connect ends, what happens then, and the
time of day. One time stands for a whole run, where a clock would be asked at every event; it is
printed with the events and decides nothing. -/
structure Outside where
  dialed : Except String Unit
  happenings : List Happening := []
  now : String

/-- What a command finds where no sockets are opened. Nothing is printed there, so no time is told. -/
def Outside.unreachable : Outside where
  dialed := .error "no sockets are opened"
  now := ""

structure Report where
  output : String
  result : Except Failure Nat

def connectFailure (endpoint : Endpoint) (reason : String) : Failure :=
  .ofClient "connect failed" (.transport (.connect endpoint.text reason))

def Hub.hear (h : Hub) (generation : Nat) (word : Inbound) : Hub :=
  (h.push generation word).settle

end Telemux
