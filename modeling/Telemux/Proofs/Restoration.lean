import Telemux.Proofs.Reordering

namespace Telemux.Client

/-- Why a terminal frame does not restore a subscription to a topic, with the error that its stream
gets. -/
inductive ReplayFault (topic : Topic) (f : Frame) : ClientError → Prop
  | exception {body : ExceptionBody} (kind : f.kind = .exception) (reads : f.exceptionBody = .ok body) :
    ReplayFault topic f (.serverException body.et body.msg)
  | badException {e : FrameError} (kind : f.kind = .exception) (fails : f.exceptionBody = .error e) :
    ReplayFault topic f (.frame e)
  | badReply {e : FrameError} (kind : f.kind = .reply) (fails : f.replyBody = .error e) :
    ReplayFault topic f (.frame e)
  | undecodable {body : ReplyBody} {e : ClientError} (kind : f.kind = .reply)
    (reads : f.replyBody = .ok body) (fails : InitialReply.decode topic body = .error e) :
    ReplayFault topic f e

/-- A terminal frame that is a reply and decodes for a topic. -/
structure Confirms (topic : Topic) (f : Frame) (body : ReplyBody) (reply : InitialReply) : Prop where
  kind : f.kind = .reply
  reads : f.replyBody = .ok body
  decodes : InitialReply.decode topic body = .ok reply

variable {topic : Topic} {f : Frame}

theorem answerTo_of_confirms {body : ReplyBody} {reply : InitialReply} (h : Confirms topic f body reply) :
    answerTo topic f = .ok reply := by
  have read : answerOf f = .ok body := by
    rw [answerOf_reply h.kind, replyOf, h.reads]
    rfl
  rw [answerTo, read]
  exact h.decodes

theorem confirms_or_fault (terminal : f.kind.isTerminal = true) :
    (∃ body reply, Confirms topic f body reply) ∨
      ∃ e, ReplayFault topic f e ∧ answerTo topic f = .error e := by
  cases hk : f.kind with
  | request | data =>
    rw [hk] at terminal
    cases terminal
  | exception =>
    rw [answerTo, answerOf_exception hk, failureOf]
    cases he : f.exceptionBody with
    | ok body => exact .inr ⟨_, .exception hk he, rfl⟩
    | error e => exact .inr ⟨_, .badException hk he, rfl⟩
  | reply =>
    rw [answerTo, answerOf_reply hk, replyOf]
    cases hr : f.replyBody with
    | error e => exact .inr ⟨_, .badReply hk hr, rfl⟩
    | ok body =>
      cases hd : InitialReply.decode topic body with
      | ok reply => exact .inl ⟨body, reply, hk, hr, hd⟩
      | error e => exact .inr ⟨e, .undecodable hk hr hd, hd⟩

/-- What the binding of a restored subscription is made of: nothing but the data of the new reply, and
that only where the topic expects some. -/
structure ToldBy (topic : Topic) (body : ReplyBody) (binding : Binding) : Prop where
  parameters : topic.isParameters = true → ∃ data told, InitialReply.givenData body = some data ∧
    ParameterReply.codec.read data = .ok told ∧
    binding = ⟨told.subscriptionId, .ofSubscribed told.subscribed⟩
  others : topic.isParameters = false → binding = {}

theorem toldBy_of_decode {body : ReplyBody} {reply : InitialReply}
    (h : InitialReply.decode topic body = .ok reply) : ToldBy topic body (bindingOf reply) := by
  unfold InitialReply.decode at h
  split at h
  next =>
    split at h
    next => cases h
    next other =>
      cases h
      exact ⟨fun own => absurd own other, fun _ => rfl⟩
  next data given =>
    have read := ok_of_mapError h
    cases topic with
    | parameters request =>
      obtain ⟨reply, made, rfl⟩ := exists_of_map read
      obtain ⟨told, tells, rfl⟩ := exists_of_map made
      exact ⟨fun _ => ⟨data, told, given, tells, rfl⟩, nofun⟩
    | time | processors options =>
      obtain ⟨info, -, rfl⟩ := exists_of_map read
      exact ⟨nofun, fun _ => rfl⟩
    | _ =>
      cases read
      exact ⟨nofun, fun _ => rfl⟩

/-- A subscription goes on as the new reply says: it keeps its topic and what is queued on its handle,
and is bound anew. -/
structure Reinstated (c after : Client) (id : Nat) (topic : Topic) (g : Nat) (body : ReplyBody) :
    Prop where
  route : ∃ old binding, c.routes.find? id = some ⟨topic, old⟩ ∧ ToldBy topic body binding ∧
    after.routes.find? id = some ⟨topic, some binding⟩
  registered : after.registry.find? id = some ⟨topic, g⟩
  handle : ∃ handle, c.handles.find? id = some handle ∧
    after.handles.find? id = some { handle with interrupted := false }

/-- A subscription is over, and an error is the last on its handle. -/
structure Forsaken (c after : Client) (id : Nat) (e : ClientError) : Prop where
  route : after.routes.find? id = none
  registered : after.registry.find? id = none
  handle : ∃ handle, c.handles.find? id = some handle ∧
    after.handles.find? id = some { handle with queue := handle.queue ++ [.error e] }

/-- A subscription is as it was but for its route, which has lost its binding, and its handle, which is
interrupted. Nothing is queued on that. -/
structure Stranded (c after : Client) (id : Nat) (topic : Topic) : Prop where
  route : after.routes.find? id = some ⟨topic, none⟩
  registered : after.registry.find? id = c.registry.find? id
  handle : ∃ handle, c.handles.find? id = some handle ∧
    after.handles.find? id = some { handle with interrupted := true }

/-- What a terminal frame does that answers the replay of a subscription. -/
structure AnswersReplay (c after : Client) (id : Nat) (topic : Topic) (g : Nat) (f : Frame) : Prop where
  lapsed : c.registry.find? id = none →
    after = { c with correlator := c.correlator.without f.sequence }
  confirmed : ∀ body reply, (c.registry.find? id).isSome = true → Confirms topic f body reply →
    Reinstated c after id topic g body
  failed : (c.registry.find? id).isSome = true → (¬∃ body reply, Confirms topic f body reply) →
    ∃ e, ReplayFault topic f e ∧ Forsaken c after id e
  others : ∀ other, other ≠ id → after.cell other = c.cell other
  calls : after.calls = c.calls
  correlator : after.correlator = c.correlator.without f.sequence
  besides : after.besides = c.besides

section

variable {config : FrameConfig} {c : Client} {past : List Event} {link : ActiveLink} {id : Nat}
  {p : Pending Purpose}

/-- A subscription that waits for the answer to its replay has all its parts, unless it is over. -/
theorem cell_of_replay (h : Traced config c past) (hp : p ∈ waiting past)
    (hq : p.purpose = .replay id topic) (there : (c.registry.find? id).isSome = true) :
    ∃ binding generation handle,
      c.cell id = ⟨some ⟨topic, binding⟩, some ⟨topic, generation⟩, some handle⟩ := by
  obtain ⟨⟨asked, generation⟩, hs⟩ := Option.isSome_iff_exists.mp there
  have same : asked = topic := traced_replay_topic h (waiting_subset_requests hp) hq hs
  subst same
  obtain ⟨⟨_, binding⟩, hr, rfl⟩ := exists_routed h hs
  obtain ⟨handle, hh⟩ := Option.isSome_iff_exists.mp (traced_handled h hs)
  exact ⟨binding, generation, handle, by rw [cell, hr, hs, hh]⟩

theorem answersReplay (h : Traced config c past) (hl : c.link = some link)
    (terminal : f.kind.isTerminal = true) (hp : c.correlator.pending.find? f.sequence = some p)
    (hq : p.purpose = .replay id topic) :
    AnswersReplay c (c.heeding link.generation f) id topic link.generation f := by
  have done := completed_heeding h hl hp
  have waits := ((traced_waiting h).mp hp).1
  have own : (c.heeding link.generation f).cell id =
      (c.cell id).restored link.generation (answerTo topic f) := by
    rw [done.own id topic (by rw [hq]; rfl), hq]
    rfl
  have others : ∀ other, other ≠ id → (c.heeding link.generation f).cell other = c.cell other := by
    refine fun other apart => done.others other fun t about => ?_
    rw [hq] at about
    cases about
    exact apart rfl
  have calls : (c.heeding link.generation f).calls = c.calls := by
    refine Table.ext_find? fun s => ?_
    rw [done.calls, hq]
    exact if_neg fun both => Bool.false_ne_true both.2
  refine ⟨fun gone => ?_, fun body reply there confirms => ?_, fun there fails => ?_, others, calls,
    done.correlator, done.besides⟩
  · refine eq_of_cells done.besides done.correlator (fun s => by rw [calls]) fun i => ?_
    by_cases hi : i = id
    · subst hi
      have lapsed : (c.cell i).restored link.generation (answerTo topic f) = c.cell i := by
        simp only [Cell.restored, cell, gone]
      exact own.trans lapsed
    · exact others i hi
  · obtain ⟨binding, generation, handle, before⟩ := cell_of_replay h waits hq there
    rw [before, answerTo_of_confirms confirms] at own
    exact ⟨⟨binding, _, congrArg Cell.route before, toldBy_of_decode confirms.decodes,
        congrArg Cell.route own⟩, congrArg Cell.registered own,
      handle, congrArg Cell.handle before, congrArg Cell.handle own⟩
  · obtain ⟨binding, generation, handle, before⟩ := cell_of_replay h waits hq there
    rcases confirms_or_fault terminal with confirms | ⟨e, fault, answer⟩
    · exact absurd confirms fails
    · rw [before, answer] at own
      exact ⟨e, fault, congrArg Cell.route own, congrArg Cell.registered own,
        handle, congrArg Cell.handle before, congrArg Cell.handle own⟩

theorem stranded_closeLink (h : Traced config c past) (hl : c.link = some link)
    (hp : c.correlator.pending.find? p.sequence = some p) (hq : p.purpose = .replay id topic)
    (there : (c.registry.find? id).isSome = true) :
    Stranded c (c.closeLink link.generation) id topic := by
  obtain ⟨binding, generation, handle, before⟩ :=
    cell_of_replay h ((traced_waiting h).mp hp).1 hq there
  have route : c.routes.find? id = some ⟨topic, binding⟩ := congrArg Cell.route before
  have found : c.handles.find? id = some handle := congrArg Cell.handle before
  rw [closeLink_eq hl]
  refine ⟨?_, rfl, handle, found, ?_⟩
  · rw [Table.find?_map, route]
    rfl
  · rw [Table.find?_map, found, Table.contains, route]
    rfl

/-- The ends of a link: it is closed, or another takes its place. -/
theorem stranded_of_end (h : Traced config c past) (hl : c.link = some link)
    (hp : c.correlator.pending.find? p.sequence = some p) (hq : p.purpose = .replay id topic)
    (there : (c.registry.find? id).isSome = true) {s : Step}
    (ends : s = .linkClosed link.generation ∨ ∃ room, s = .attach room) :
    Stranded c (c.step s) id topic := by
  have closed := stranded_closeLink h hl hp hq there
  rcases ends with rfl | ⟨room, rfl⟩
  · exact closed
  · have displaced : c.step (.attach room) = { c.closeLink link.generation with
        generation := (c.closeLink link.generation).generation + 1
        link := some ⟨(c.closeLink link.generation).generation + 1, false, room⟩ } := by
      simp [step, attach, traced_open h hl, hl]
    rw [displaced]
    exact ⟨closed.route, closed.registered, closed.handle⟩

end

/-- In every run, the answer to a replay restores that subscription alone, or ends it with the error,
and has no effect but to be gone if the subscription is over. If the link ends first, the subscription
stays as it is. -/
theorem replay_restores_or_ends (config : FrameConfig) (steps : List Step) {p : Pending Purpose}
    {id : Nat} {topic : Topic}
    (waits : ((fresh config).run steps).correlator.pending.find? p.sequence = some p)
    (replays : p.purpose = .replay id topic) :
    (∀ g text f, ((fresh config).run steps).isCurrent g = true → Bears config text f →
      f.sequence = p.sequence →
      AnswersReplay ((fresh config).run steps) (((fresh config).run steps).message g text) id topic g f) ∧
    ∀ g s, ((fresh config).run steps).isCurrent g = true →
      (s = .linkClosed g ∨ ∃ room, s = .attach room) →
      (((fresh config).run steps).registry.find? id).isSome = true →
      Stranded ((fresh config).run steps) (((fresh config).run steps).step s) id topic := by
  have h := traced_run config steps
  refine ⟨fun g text f current bears same => ?_, fun g s current ends there => ?_⟩
  · obtain ⟨link, hl, rfl⟩ := isCurrent_iff.mp current
    rw [message_of_bears h hl bears]
    exact answersReplay h hl bears.terminal (same ▸ waits) replays
  · obtain ⟨link, hl, rfl⟩ := isCurrent_iff.mp current
    exact stranded_of_end h hl waits replays there ends

/-- On its second link a client asks again for the samples of a parameter, whose number was one. -/
def returning : List Step :=
  [.attach none, .subscribe (.parameters (.numeric ["/a"])),
    .message 1 "[1,2,1,\x7b\"data\":\x7b\"subscriptionId\":7,\"subscribed\":[[[\"/a\"],1]]\x7d\x7d]",
    .attach none, .message 2 "[1,4,0,\x7b\"dt\":\"CONNECTION_INFO\",\"data\":\x7b\x7d\x7d]"]

def renewal : String :=
  "[1,2,2,\x7b\"data\":\x7b\"subscriptionId\":8,\"subscribed\":[[[\"/a\"],2]]\x7d\x7d]"

def renewalData : Value :=
  .object [("subscriptionId", .number (.int 8)),
    ("subscribed", .array [.array [.array [.string "/a"], .number (.int 2)]])]

theorem returning_restored_or_ended :
    (Reinstated ((fresh {}).run returning) (((fresh {}).run returning).message 2 renewal) 1
        (.parameters (.numeric ["/a"])) 2 ⟨none, some renewalData⟩ ∧
      ((((fresh {}).run returning).message 2 renewal).routes.find? 1).map (·.binding) =
        some (some ⟨some 8, Table.empty.insert 2 (.ofName "/a")⟩)) ∧
    Forsaken ((fresh {}).run returning) (((fresh {}).run returning).message 2 "[1,2,2,\x7b\x7d]") 1
      (.unexpectedReply "parameters" "reply carries no subscription") ∧
    Stranded ((fresh {}).run returning) (((fresh {}).run returning).step (.linkClosed 2)) 1
      (.parameters (.numeric ["/a"])) := by
  let p : Pending Purpose := ⟨2, 2, .replay 1 (.parameters (.numeric ["/a"]))⟩
  obtain ⟨waits, current, there⟩ :
      ((fresh {}).run returning).correlator.pending.find? p.sequence = some p ∧
      ((fresh {}).run returning).isCurrent 2 = true ∧
      (((fresh {}).run returning).registry.find? 1).isSome = true := by decide +kernel
  have full : Bears {} renewal ⟨1, .reply, 2, .object [("data", renewalData)]⟩ :=
    ⟨by decide +kernel, rfl⟩
  have bare : Bears {} "[1,2,2,\x7b\x7d]" ⟨1, .reply, 2, .object []⟩ := ⟨by decide +kernel, rfl⟩
  have confirms : Confirms (.parameters (.numeric ["/a"]))
      ⟨1, .reply, 2, .object [("data", renewalData)]⟩ ⟨none, some renewalData⟩
      (.parameters ⟨some 8, [⟨.ofName "/a", 2⟩], [], Table.empty.insert 2 (.ofName "/a")⟩) :=
    ⟨rfl, by decide, by decide⟩
  have fails : ¬∃ body reply, Confirms (.parameters (.numeric ["/a"])) ⟨1, .reply, 2, .object []⟩ body
      reply := by
    rintro ⟨body, reply, confirms⟩
    cases confirms.reads
    cases confirms.decodes
  obtain ⟨answers, ends⟩ := replay_restores_or_ends {} returning waits rfl
  refine ⟨⟨(answers 2 _ _ current full rfl).confirmed _ _ there confirms, by decide +kernel⟩, ?_,
    ends 2 _ current (.inl rfl) there⟩
  obtain ⟨e, fault, forsaken⟩ := (answers 2 _ _ current bare rfl).failed there fails
  cases fault with
  | undecodable kind reads decodes =>
    cases reads
    cases decodes
    exact forsaken
  | badReply kind reads => cases reads
  | exception kind | badException kind => cases kind

end Telemux.Client
