import Telemux.Client.Basic

namespace Telemux.Client

/-- What can happen to a client: a call, the end of a call, the use of a handle, or word from a link.
Calls are named by the sequences of their requests and links by their generations. -/
inductive Step where
  | attach (room : Option Nat)
  | subscribe (topic : Topic)
  | request (body : RequestBody)
  | cancel (sequence : Nat)
  | collect (sequence : Nat)
  | receive (id : Nat)
  | unsubscribe (id : Nat)
  | dropHandle (id : Nat)
  | message (generation : Nat) (text : String)
  | linkClosed (generation : Nat)
  | refuse (generation after : Nat)
  | close
  deriving DecidableEq

def step (c : Client) : Step → Client
  | .attach room => (c.attach room).1
  | .subscribe topic => (c.subscribe topic).1
  | .request body => (c.request body).1
  | .cancel sequence => c.cancel sequence
  | .collect sequence => (c.collect sequence).1
  | .receive id => (c.receive id).1
  | .unsubscribe id => c.unsubscribe id
  | .dropHandle id => c.dropHandle id
  | .message generation text => c.message generation text
  | .linkClosed generation => c.closeLink generation
  | .refuse generation after => c.refuse generation after
  | .close => c.close

def run (c : Client) (steps : List Step) : Client :=
  steps.foldl step c

def fresh (config : FrameConfig) : Client :=
  { config }

end Telemux.Client
