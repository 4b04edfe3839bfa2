import Telemux.Client.Step

namespace Telemux

/-- A request that somebody made himself, unlike a replay. -/
def Purpose.isCall : Purpose → Bool
  | .replay _ _ => false
  | _ => true

/-- The handle that waits for the answer together with the call. -/
def Purpose.handle? : Purpose → Option Nat
  | .subscribe id _ => some id
  | _ => none

namespace Client

/-- What happens to a client. Terminal frames are the replies and exceptions; they and pushes happen
only on the link in use. -/
inductive Event where
  | opened (generation : Nat)
  | lost (generation : Nat)
  | shut
  | sent (p : Pending Purpose) (body : RequestBody)
  | unsent (id : Nat) (e : ClientError)
  | terminal (generation : Nat) (f : Frame)
  | pushed (generation : Nat) (event : TopicEvent)
  | cancelled (sequence : Nat)
  | fetched (sequence : Nat) (outcome : Outcome)
  | received (id : Nat) (item : Item)
  | detached (id : Nat)
  deriving DecidableEq

/-- A link in use ends, or another one takes its place. -/
def losing (c : Client) : List Event :=
  match c.link with
  | some link => [.lost link.generation]
  | none => []

/-- A request goes out, if the client and the link take it. -/
def sending (c : Client) (body : RequestBody) (purpose : Purpose) : List Event :=
  match c.link, c.sendRequest body purpose with
  | some link, .ok _ => [.sent ⟨c.correlator.next, link.generation, purpose⟩ body]
  | _, _ => []

/-- Replays go out until the link takes no more. -/
def replaying (c : Client) : List (Nat × Topic) → List Event
  | [] => []
  | (id, topic) :: rest =>
    match c.sendRequest topic.requestBody (.replay id topic) with
    | .ok after => c.sending topic.requestBody (.replay id topic) ++ after.replaying rest
    | .error .notConnected => []
    | .error e => .unsent id e :: (c.endSubscription id e).replaying rest

/-- The client when a link has become ready and nothing is replayed yet. -/
def greeted (c : Client) (link : ActiveLink) (info : ConnectionInfo) : Client :=
  { c with
    info := some info
    infoCount := c.infoCount + 1
    link := some { link with ready := true }
    connected := true }

def greeting (c : Client) (link : ActiveLink) (info : ConnectionInfo) : List Event :=
  if link.ready then []
  else (c.greeted link info).replaying ((c.greeted link info).stale link.generation)

/-- What a frame on the link in use brings about. -/
def hearing (c : Client) (link : ActiveLink) (f : Frame) : List Event :=
  match f.kind with
  | .reply | .exception => [.terminal link.generation f]
  | .request => []
  | .data =>
    match eventOf? f with
    | none => []
    | some (.connectionInfo info) =>
      .pushed link.generation (.connectionInfo info) :: c.greeting link info
    | some event => [.pushed link.generation event]

/-- The frame that a text carries on the link in use. -/
def heard? (c : Client) (generation : Nat) (text : String) : Option (ActiveLink × Frame) :=
  match c.link with
  | none => none
  | some link =>
    if link.generation = generation then
      match Frame.decode c.config text with
      | .ok f => some (link, f)
      | .error _ => none
    else none

/-- What happens in a step, in order. -/
def events (c : Client) : Step → List Event
  | .attach _ => if c.closed then [] else c.losing ++ [.opened (c.generation + 1)]
  | .subscribe topic => c.sending topic.requestBody (.subscribe c.nextId topic)
  | .request body => c.sending body .request
  | .cancel sequence => if c.calls.contains sequence then [.cancelled sequence] else []
  | .collect sequence =>
    match (c.collect sequence).2 with
    | some outcome => [.fetched sequence outcome]
    | none => []
  | .receive id =>
    match (c.receive id).2 with
    | .item item => [.received id item]
    | _ => []
  | .unsubscribe id | .dropHandle id => if (c.held? id).isSome then [.detached id] else []
  | .message generation text =>
    match c.heard? generation text with
    | some (link, f) => c.hearing link f
    | none => []
  | .linkClosed generation => if c.isCurrent generation then [.lost generation] else []
  | .refuse _ _ => []
  | .close => if c.closed then [] else [.shut]

/-- What has happened after some steps, latest first, on top of what happened before. -/
def recount (c : Client) (past : List Event) : List Step → List Event
  | [] => past
  | s :: rest => (c.step s).recount ((c.events s).reverse ++ past) rest

/-- What has happened in a run, latest first. -/
def history (config : FrameConfig) (steps : List Step) : List Event :=
  (fresh config).recount [] steps

theorem run_concat (c : Client) (steps : List Step) (s : Step) :
    c.run (steps ++ [s]) = (c.run steps).step s := by
  simp [run]

theorem recount_concat (c : Client) (past : List Event) (steps : List Step) (s : Step) :
    c.recount past (steps ++ [s]) = ((c.run steps).events s).reverse ++ c.recount past steps := by
  induction steps generalizing c past with
  | nil => rfl
  | cons first rest ih => exact ih _ _

theorem history_concat (config : FrameConfig) (steps : List Step) (s : Step) :
    history config (steps ++ [s]) =
      (((fresh config).run steps).events s).reverse ++ history config steps :=
  recount_concat _ _ _ _

theorem history_append (config : FrameConfig) (steps more : List Step) :
    ∃ newer, history config (steps ++ more) = newer ++ history config steps := by
  unfold history
  generalize fresh config = c
  generalize ([] : List Event) = past
  induction steps generalizing c past with
  | nil =>
    induction more generalizing c past with
    | nil => exact ⟨[], rfl⟩
    | cons s rest ih =>
      obtain ⟨newer, hn⟩ := ih (c.step s) ((c.events s).reverse ++ past)
      exact ⟨newer ++ (c.events s).reverse, by simpa [recount] using hn⟩
  | cons s rest ih => exact ih _ _

/-- What a terminal frame says: a reply body, or a failure. A body that does not fit the kind of the
frame is a failure too. -/
def answerOf (f : Frame) : Except ClientError ReplyBody :=
  match f.kind with
  | .exception =>
    match f.exceptionBody with
    | .ok body => .error (.serverException body.et body.msg)
    | .error e => .error (.frame e)
  | _ =>
    match f.replyBody with
    | .ok body => .ok body
    | .error e => .error (.frame e)

/-- What a terminal frame says to a subscriber to a topic. -/
def answerTo (topic : Topic) (f : Frame) : Except ClientError InitialReply :=
  (answerOf f).bind (InitialReply.decode topic)

/-- What settles a request: a terminal frame, the end of its link, or the end of the client. -/
inductive Verdict where
  | answered (f : Frame)
  | lost
  | shut
  deriving DecidableEq

/-- What a settled request means to its caller. -/
def outcomeOf : Purpose → Verdict → Outcome
  | .request, .answered f => (answerOf f).map .reply
  | .subscribe _ topic, .answered f | .replay _ topic, .answered f => (answerTo topic f).map .initial
  | _, .lost => .error .connectionLost
  | _, .shut => .error .closed

/-- The requests that nothing has settled yet. -/
def waiting : List Event → List (Pending Purpose)
  | [] => []
  | .sent p _ :: past => p :: waiting past
  | .terminal generation f :: past =>
    (waiting past).filter fun p => ¬(p.generation = generation ∧ p.sequence = f.sequence)
  | .lost generation :: past => (waiting past).filter fun p => p.generation ≠ generation
  | .shut :: _ => []
  | _ :: past => waiting past

/-- The request that a terminal frame answers: the one of its sequence that waits on its link. -/
def answered (past : List Event) (generation : Nat) (f : Frame) : Option (Pending Purpose) :=
  (waiting past).find? fun p => p.generation = generation ∧ p.sequence = f.sequence

theorem answerOf_reply {f : Frame} (h : f.kind = .reply) : answerOf f = replyOf f := by
  unfold answerOf replyOf
  rw [h]
  cases f.replyBody <;> rfl

theorem answerOf_exception {f : Frame} (h : f.kind = .exception) :
    answerOf f = .error (failureOf f) := by
  unfold answerOf failureOf
  rw [h]
  cases f.exceptionBody <;> rfl

end Client

end Telemux
