import Telemux.Client.Basic

namespace Telemux

/-- What hands the word of one link to the client: what is queued, whether the other side can still
add to it, and how it ended. -/
structure LinkTask where
  queue : List Inbound
  attended : Bool
  ended : Option CloseReason
  deriving DecidableEq

/-- One link from its other end: the generation it got, whether its other end is still there, and what
the client told it if it has turned the link away. -/
structure Line where
  generation : Option Nat
  served : Bool
  told : List Outbound := []
  deriving DecidableEq

/-- A link that a client turns away. It is told to close, if it takes that in. -/
def Line.turnedAway (room : Option Nat) : Line :=
  ⟨none, true, if room = some 0 then [] else [.close]⟩

/-- A client and all its links. Links are numbered as they come; the tasks go by the generations of
their links. -/
structure Hub where
  client : Client
  tasks : Table LinkTask := .empty
  lines : List Line := []
  listening : Bool := true
  deriving DecidableEq

namespace Hub

def fresh (config : FrameConfig) : Hub where
  client := { config }

/-- A task takes the next of what is queued for it. -/
def handle (h : Hub) (generation : Nat) : Hub :=
  match h.tasks.find? generation with
  | some ⟨.opened :: rest, attended, none⟩ =>
    { h with tasks := h.tasks.insert generation ⟨rest, attended, none⟩ }
  | some ⟨.message text :: rest, attended, none⟩ =>
    { h with
      client := h.client.message generation text
      tasks := h.tasks.insert generation ⟨rest, attended, none⟩ }
  | some ⟨.closed reason :: rest, attended, none⟩ =>
    { h with
      client := h.client.closeLink generation
      tasks := h.tasks.insert generation ⟨rest, attended, some reason⟩ }
  | some ⟨[], false, none⟩ =>
    { h with
      client := h.client.closeLink generation
      tasks := h.tasks.insert generation ⟨[], false, some .unannounced⟩ }
  | _ => h

def stop (h : Hub) (generation : Nat) : Hub :=
  match h.tasks.find? generation with
  | some ⟨queue, attended, none⟩ =>
    if h.client.isCurrent generation then h
    else { h with tasks := h.tasks.insert generation ⟨queue, attended, some .here⟩ }
  | _ => h

def handleMany (h : Hub) (generation : Nat) : Nat → Hub
  | 0 => h
  | n + 1 => ((h.stop generation).handle generation).handleMany generation n

/-- Everything that is queued for a task, and the end of its queue. -/
def settleTask (h : Hub) (generation : Nat) : Hub :=
  match h.tasks.find? generation with
  | some task => h.handleMany generation (task.queue.length + 1)
  | none => h

def settle (h : Hub) : Hub :=
  h.tasks.keys.foldl settleTask h

def isListening (h : Hub) (generation : Nat) : Bool :=
  (h.tasks.find? generation).any (·.ended.isNone)

def push (h : Hub) (generation : Nat) (item : Inbound) : Hub :=
  if h.isListening generation then
    { h with tasks := h.tasks.adjust generation fun t => { t with queue := t.queue ++ [item] } }
  else h

/-- A new link, on which the other side has already queued something, is handed to the client. -/
def attachLink (h : Hub) (queue : List Inbound) (room : Option Nat) :
    Hub × Except ClientError Nat :=
  match h.client.attach room with
  | (client, .error e) => ({ h with client, lines := h.lines ++ [.turnedAway room] }, .error e)
  | (client, .ok generation) =>
    ({ h with
        client
        tasks := h.tasks.insert generation ⟨queue, true, none⟩
        lines := h.lines ++ [{ generation := some generation, served := true }] },
      .ok generation)

/-- Attaches a fresh link; the other side may have closed it before. -/
def attach (h : Hub) (preclosed : Option CloseReason) : Hub × Except ClientError Nat :=
  match preclosed with
  | none => h.attachLink [.opened] none
  | some reason => h.attachLink [.opened, .closed reason] (some 0)

def connect (h : Hub) (url : String) : Hub × Except ClientError Nat :=
  match Endpoint.parse url with
  | .error fault => (h, .error (.transport (.invalidEndpoint url fault)))
  | .ok _ =>
    if h.client.closed then (h, .error .closed)
    else if h.listening then h.attach none
    else (h, .error (.transport .shutdown))

def line? (h : Hub) (number : Nat) : Option Line :=
  match number with
  | 0 => none
  | i + 1 => h.lines[i]?.filter (·.served)

def send (h : Hub) (line : Line) (text : String) : Hub × Except TransportError Unit :=
  match line.generation with
  | none => (h, .error .notConnected)
  | some generation =>
    if h.isListening generation then (h.push generation (.message text), .ok ())
    else (h, .error .notConnected)

def closeLine (h : Hub) (line : Line) (reason : CloseReason) : Hub :=
  match line.generation with
  | none => h
  | some generation => { h with client := h.client.refuse generation 0 }.push generation (.closed reason)

def hangUp (h : Hub) (number : Nat) : Hub :=
  match h.line? number with
  | none => h
  | some line =>
    let h := { h with lines := h.lines.set (number - 1) { line with served := false } }
    match line.generation with
    | none => h
    | some generation =>
      { h with
        client := h.client.refuse generation 0
        tasks := h.tasks.adjust generation fun t => { t with attended := false } }

def number? (h : Hub) (generation : Nat) : Option Nat :=
  (h.lines.findIdx? (·.generation = some generation)).map (· + 1)

end Hub

end Telemux
