import Telemux.Proofs.Conduct

namespace Telemux

open Client (feed queueIn)

section

variable {c : Client} {id : Nat}

theorem Client.receive_of_empty (empty : queueIn c.handles id = []) (item : Item) :
    (c.receive id).2 ≠ .item item := by
  cases hh : c.held? id with
  | none => simp [receive, hh]
  | some handle =>
    obtain ⟨found, -⟩ := held?_eq_some_iff.mp hh
    have nothing : handle.queue = [] := (queueIn_of_find found).symm.trans empty
    simp only [receive, hh, nothing]
    split <;> rintro ⟨⟩

theorem Client.queueIn_receive (held : (c.held? id).isSome = true) :
    queueIn (c.step (.receive id)).handles id = (queueIn c.handles id).tail := by
  obtain ⟨handle, hh⟩ := Option.isSome_iff_exists.mp held
  obtain ⟨found, -⟩ := held?_eq_some_iff.mp hh
  rw [queueIn_of_find found]
  cases hq : handle.queue with
  | nil => simp [step, receive, hh, hq, queueIn_of_find found]
  | cons item rest => simp [step, receive, hh, hq, queueIn, Table.find?_adjust, found]

end

namespace SubscribeRun

variable {p : WatchPolicy} {format : OutputFormat} {now : String} {r : SubscribeRun} {past : List Client.Event}
  {turns : List Turn}

/-- What is queued for a command. -/
def unread (r : SubscribeRun) : List Item :=
  queueIn r.hub.client.handles r.id

theorem conduct_append (p : WatchPolicy) (format : OutputFormat) (now : String) (r : SubscribeRun)
    (turns more : List Turn) : r.conduct p format now (turns ++ more) =
      (r.conduct p format now turns).conduct p format now more :=
  List.foldl_append

theorem conduct_of_over (stopped : r.watch.isOver = true) (turns : List Turn) :
    r.conduct p format now turns = r := by
  induction turns with
  | nil => rfl
  | cons t rest ih =>
    have stays : r.step p format now t = r := if_pos stopped
    exact (congrArg (conduct p format now · rest) stays).trans ih

/-- What the command looks at is off its queue, unless the command is over. -/
theorem Running.progresses (h : Running p r past) (watching : r.isWatching = true) :
    (r.takeItem p format now).watch.isOver = true ∨ (r.takeItem p format now).isWatching = true ∧
      (r.takeItem p format now).unread = r.unread.tail := by
  obtain ⟨answered, phase⟩ := isWatching_iff.mp watching
  have rest := Client.queueIn_receive (h.held answered)
  rw [takeItem_of_watching watching]
  split
  next e received =>
    have watch : r.watch.step p (.event e) = r.watch.print p e := by simp [Watch.step, phase]
    rw [print_eq, watch]
    rcases print_cases e h.below with ⟨print, -⟩ | ⟨print, -⟩
    · rw [print]
      exact .inl rfl
    · rw [print]
      exact .inr ⟨isWatching_iff.mpr ⟨answered, rfl⟩, rest⟩
  next => exact .inl (by simp [Watch.step, phase, Watch.isOver])
  next => exact .inl (by simp [Watch.step, phase, Watch.isOver])
  next => exact .inr ⟨isWatching_iff.mpr ⟨answered, phase⟩, rest⟩

/-- A command that watches gets to the end of what is queued. -/
theorem Conducted.items (h : Conducted p format now turns r past) (watching : r.isWatching = true) {m : Nat}
    (enough : r.unread.length ≤ m) :
    (r.conduct p format now (List.replicate m .item)).watch.isOver = true ∨
      (r.conduct p format now (List.replicate m .item)).unread = [] := by
  induction m generalizing r turns past with
  | zero => exact .inr (List.length_eq_zero_iff.mp (Nat.le_zero.mp enough))
  | succ m ih =>
    obtain ⟨answered, phase⟩ := isWatching_iff.mp watching
    have going : r.watch.isOver = false := by simp [Watch.isOver, phase]
    have turned : r.step p format now .item = r.takeItem p format now := by
      simp [SubscribeRun.step, going, turn]
    have first : r.conduct p format now (List.replicate (m + 1) .item) =
        (r.takeItem p format now).conduct p format now (List.replicate m .item) := by
      rw [List.replicate_succ, SubscribeRun.conduct, List.foldl_cons, turned]
      rfl
    have next := turned ▸ h.step .item
    rw [first]
    rcases (h.running going).progresses watching with stopped | ⟨watching, rest⟩
    · left
      rw [conduct_of_over stopped]
      exact stopped
    · apply ih next watching
      rw [rest, List.length_tail]
      omega

/-- An attempt to connect again that succeeds has the command watch, unless it is over. -/
theorem Conducted.watches (h : Conducted p format now turns r past) (answered : r.call = none) :
    (r.step p format now (.redial (.ok ()))).watch.isOver = true ∨
      (r.step p format now (.redial (.ok ()))).isWatching = true := by
  cases going : r.watch.isOver with
  | true => exact .inl (by simp [SubscribeRun.step, going])
  | false =>
    have running := h.running going
    right
    cases phase : r.watch.phase with
    | ended result => simp [Watch.isOver, phase] at going
    | watching =>
      have same : r.step p format now (.redial (.ok ())) = r := by
        simp [SubscribeRun.step, going, turn, SubscribeRun.redial, phase]
      rw [same]
      exact isWatching_iff.mpr ⟨answered, phase⟩
    | reconnecting =>
      have opened : r.hub.client.closed = false := by
        refine Bool.eq_false_iff.mpr fun closed => running.unshut ?_
        exact Client.traced_shut h.unbroken.traced closed
      obtain ⟨generation, attached⟩ : ∃ g, (r.hub.attach none).2 = .ok g := by
        simp [Hub.attach, Hub.attachLink, Client.attach, opened]
      rw [SubscribeRun.step, going]
      simp only [Bool.false_eq_true, if_false, turn, redial_of_reconnecting phase, attached]
      exact isWatching_iff.mpr ⟨answered, by simp [Watch.step, phase]⟩

/-- What a command prints of the events of its subscription: all of them, or the first ones up to the
number that was asked for, which counts for one if it is none. -/
def wanted (p : WatchPolicy) (events : List TopicEvent) : List TopicEvent :=
  match p.count with
  | some n => events.take (max 1 n)
  | none => events

theorem eq_wanted_of_below {events : List TopicEvent}
    (below : ∀ n, p.count = some n → events.length ≤ max 1 n) : events = wanted p events := by
  unfold wanted
  split
  next n asked => exact (List.take_of_length_le (below n asked)).symm
  next => rfl

theorem Conducted.printed_eq_wanted (h : Conducted p format now turns r past) (calm : .interrupt ∉ turns)
    (again : p.noReconnect = false) (answered : r.call = none) {events : List TopicEvent}
    (yields : (feed r.id past).items = events.map .ok)
    (rest : r.watch.isOver = true ∨ r.unread = []) : r.watch.printed = wanted p events := by
  have ok : Function.Injective (Except.ok : TopicEvent → Item) := fun _ _ => Except.ok.inj
  have all : (feed r.id past).items = r.watch.printed.map .ok → Below p r →
      r.watch.printed = wanted p events := by
    intro items below
    have same : r.watch.printed = events := (List.map_injective_iff.mpr ok) (items.symm.trans yields)
    rw [same]
    exact eq_wanted_of_below fun n asked => same ▸ Nat.le_of_lt (below n asked)
  rcases h.stands with running | full | ⟨-, below, why⟩
  · have unread := rest.resolve_left (by simp [running.going])
    have items := Client.items_of_unread h.unbroken.traced (running.held answered)
      (Client.receive_of_empty unread)
    exact all (items.trans running.all) running.below
  · obtain ⟨n, asked, length⟩ := full.reached
    have leading := h.leading.trans (Client.taken_isPrefix h.unbroken.traced)
    rw [yields] at leading
    have first := List.prefix_iff_eq_take.mp ((List.prefix_map_iff_of_injective ok).mp leading)
    rw [length] at first
    simpa [wanted, asked] using first
  · cases why with
    | interrupted asked => exact absurd asked calm
    | ended items => exact all items below
    | failed last => simp [yields] at last
    | lost alone => simp [again] at alone
    | refused unanswered => simp [answered] at unanswered

theorem Conducted.atMost (h : Conducted p format now turns r past) {n : Nat} (asked : p.count = some n) :
    r.watch.printed.length ≤ max 1 n := by
  rcases h.stands with running | full | ⟨-, below, -⟩
  · exact Nat.le_of_lt (running.below n asked)
  · obtain ⟨k, same, length⟩ := full.reached
    cases asked.symm.trans same
    exact Nat.le_of_eq length
  · exact Nat.le_of_lt (below n asked)

theorem Conducted.full (h : Conducted p format now turns r past) {n : Nat} (asked : p.count = some n)
    (reached : r.watch.printed.length = max 1 n) : Full p r := by
  rcases h.stands with running | full | ⟨-, below, -⟩
  · have fewer := running.below n asked
    omega
  · exact full
  · have fewer := below n asked
    omega

/-- A command keeps its subscription, and its call once that is answered. -/
structure Stays (r after : SubscribeRun) : Prop where
  id : after.id = r.id
  call : r.call = none → after.call = none

theorem Stays.of_call {after : SubscribeRun} (id : after.id = r.id) (call : after.call = r.call) :
    Stays r after :=
  ⟨id, fun answered => call.trans answered⟩

theorem Stays.trans {mid after : SubscribeRun} (first : Stays r mid) (later : Stays mid after) :
    Stays r after :=
  ⟨later.id.trans first.id, fun answered => later.call (first.call answered)⟩

theorem stays_step (p : WatchPolicy) (format : OutputFormat) (now : String) (r : SubscribeRun) (t : Turn) :
    Stays r (r.step p format now t) := by
  unfold SubscribeRun.step
  split
  next => exact .of_call rfl rfl
  next =>
    cases t with
    | answer =>
      simp only [turn, fetch]
      split
      next => exact .of_call rfl rfl
      next =>
        split
        next => exact ⟨rfl, fun _ => rfl⟩
        all_goals exact .of_call rfl rfl
    | item =>
      simp only [turn, takeItem, print]
      split
      next =>
        split
        next => split <;> exact .of_call rfl rfl
        all_goals exact .of_call rfl rfl
      next => exact .of_call rfl rfl
    | loss =>
      simp only [turn, noticeLoss]
      split
      next => split <;> exact .of_call rfl rfl
      next => exact .of_call rfl rfl
    | redial result =>
      simp only [turn, redial]
      split
      next =>
        split
        next => exact .of_call rfl rfl
        next => split <;> exact .of_call rfl rfl
      next => exact .of_call rfl rfl
    | interrupt =>
      simp only [turn, interrupt]
      split <;> exact .of_call rfl rfl
    | word | leave | handle | stop => exact .of_call rfl rfl

theorem stays_conduct (p : WatchPolicy) (format : OutputFormat) (now : String) (r : SubscribeRun)
    (turns : List Turn) : Stays r (r.conduct p format now turns) := by
  induction turns generalizing r with
  | nil => exact .of_call rfl rfl
  | cons t rest ih => exact (r.stays_step p format now t).trans (ih (r.step p format now t))

/-- The client hears from the server only in the turns of the tasks of its links. -/
theorem trace_unheard (unheard : ∀ g, .handle g ∉ turns) (g : Nat) (text : String) :
    .message g text ∉ r.trace p format now turns := by
  induction turns generalizing r with
  | nil => exact List.not_mem_nil
  | cons t rest ih =>
    have here : .message g text ∉ r.steps p t := by
      intro hm
      rcases mem_steps hm with ⟨k, rfl, -⟩ | ⟨_, said⟩ | said | said | said
      · exact unheard k List.mem_cons_self
      all_goals cases said
    rw [trace, List.mem_append]
    rintro (first | later)
    · split at first
      next => cases first
      next => exact here first
    · exact ih (fun k hm => unheard k (List.mem_cons_of_mem _ hm)) later

/-- The turns of a command that is connected again and looks at its subscription so many times. -/
def catchUp (m : Nat) : List Turn :=
  .redial (.ok ()) :: List.replicate m .item

/-- A command that is connected and has looked at its subscription often enough has printed what it
should of the events there, and is through if these are enough. -/
theorem Conducted.catchesUp (h : Conducted p format now turns r past) (calm : .interrupt ∉ turns)
    (again : p.noReconnect = false) (answered : r.call = none) {events : List TopicEvent}
    (yields : (feed r.id past).items = events.map .ok) :
    ∃ k, ∀ m ≥ k, (r.conduct p format now (catchUp m)).watch.printed = wanted p events := by
  refine ⟨(r.step p format now (.redial (.ok ()))).unread.length, fun m enough => ?_⟩
  have later := h.conduct (catchUp m)
  have stays := r.stays_conduct p format now (catchUp m)
  have quiet : .interrupt ∉ turns ++ catchUp m := by simp [catchUp, calm]
  have same : (feed r.id (r.hub.client.recount past (r.trace p format now (catchUp m)))).items =
      events.map .ok := by
    rw [← yields]
    exact Client.items_recount h.unbroken.traced (trace_unheard (by simp [catchUp]))
  refine later.printed_eq_wanted quiet again (stays.call answered) (stays.id ▸ same) ?_
  show ((r.step p format now (.redial (.ok ()))).conduct p format now _).watch.isOver = true ∨
    ((r.step p format now (.redial (.ok ()))).conduct p format now _).unread = []
  rcases h.watches answered with stopped | watching
  · left
    rw [conduct_of_over stopped]
    exact stopped
  · exact (h.step _).items watching enough

/-- Some turns lead from one command to another, without an interruption as long as it is calm. -/
def Leads (p : WatchPolicy) (format : OutputFormat) (now : String) (calm : Prop) (r after : SubscribeRun) :
    Prop :=
  ∃ turns, (calm → .interrupt ∉ turns) ∧ after = r.conduct p format now turns

section

variable {calm : Prop} {mid : SubscribeRun}

theorem Leads.append (h : Leads p format now calm r mid) (more : List Turn)
    (quiet : calm → .interrupt ∉ more) : Leads p format now calm r (mid.conduct p format now more) := by
  obtain ⟨turns, silent, rfl⟩ := h
  refine ⟨turns ++ more, fun hc => ?_, (r.conduct_append p format now turns more).symm⟩
  simp [silent hc, quiet hc]

theorem leads_hear (going : r.watch.isOver = false) (g : Nat) (word : Inbound) :
    Leads p format now calm r { r with hub := r.hub.hear g word } := by
  have first : Leads p format now calm r { r with hub := r.hub.push g word } := by
    refine ⟨[.word g word], fun _ => by simp, ?_⟩
    simp [SubscribeRun.conduct, SubscribeRun.step, going, turn]
  refine Hub.settle_of_turns (P := fun hub => Leads p format now calm r { r with hub }) ?_ first
  intro k hub before
  have turned := before.append [.stop k, .handle k] fun _ => by simp
  simpa [SubscribeRun.conduct, SubscribeRun.step, going, turn] using turned

theorem Leads.settle (h : Leads p format now calm r mid) :
    Leads p format now calm r (mid.settle p format now) :=
  (h.append [.answer] fun _ => by simp).append _ fun _ => by simp

/-- Whatever happens to a command comes down to some of its turns. -/
theorem Leads.react (h : Leads p format now calm r mid) (next : Happening)
    (quiet : calm → next ≠ .interrupt) :
    Leads p format now calm r (mid.react p format now next) := by
  cases next with
  | inbound word =>
    unfold SubscribeRun.react
    cases going : mid.watch.isOver with
    | true => exact h
    | false =>
      have heard : Leads p format now calm mid { mid with hub := mid.hub.hear mid.generation word } :=
        leads_hear going mid.generation word
      obtain ⟨turns, silent, same⟩ := heard
      apply Leads.settle
      rw [same]
      exact h.append turns silent
  | redialed result => exact (h.append [.redial result] fun _ => by simp).settle
  | interrupt => exact h.append [.interrupt] fun hc => absurd rfl (quiet hc)

theorem Leads.reacts (h : Leads p format now calm r mid) (happenings : List Happening)
    (quiet : calm → .interrupt ∉ happenings) :
    Leads p format now calm r (happenings.foldl (SubscribeRun.react p format now) mid) := by
  induction happenings generalizing mid with
  | nil => exact h
  | cons next rest ih =>
    refine ih (h.react next fun hc same => quiet hc ?_) fun hc hm => quiet hc (List.mem_cons_of_mem _ hm)
    rw [same]
    exact List.mem_cons_self

end

/-- What a command that watches a subscription keeps to, with no fewer than one event to print. -/
structure Counted (p : WatchPolicy) (format : OutputFormat) (now : String) (turns : List Turn)
    (r : SubscribeRun) (past : List Client.Event) : Prop where
  leading : r.watch.printed.map .ok <+: (feed r.id past).items
  shown : Shown format now r past
  atMost : ∀ n, p.count = some n → r.watch.printed.length ≤ max 1 n
  full : ∀ n, p.count = some n → r.watch.printed.length = max 1 n →
    r.hub.client.closed = true ∧ r.result = .ok 0 ∧ ∀ more, r.conduct p format now more = r
  complete : .interrupt ∉ turns → p.noReconnect = false → r.call = none →
    ∀ events, (feed r.id past).items = events.map .ok → ∃ k, ∀ m ≥ k,
      (r.conduct p format now (catchUp m)).watch.printed = wanted p events ∧
        ∀ n, p.count = some n → max 1 n ≤ events.length →
          (r.conduct p format now (catchUp m)).hub.client.closed = true ∧
            (r.conduct p format now (catchUp m)).result = .ok 0

theorem Full.result (h : Full p r) : r.result = .ok 0 := by
  simp [SubscribeRun.result, h.well]

theorem Full.ended (h : Full p r) : r.watch.isOver = true := by
  simp [Watch.isOver, h.well]

theorem Conducted.counted (h : Conducted p format now turns r past) :
    Counted p format now turns r past := by
  refine ⟨h.leading.trans (Client.taken_isPrefix h.unbroken.traced), h.shown, fun n asked => h.atMost asked,
    fun n asked reached => ?_, fun calm again answered events yields => ?_⟩
  · have full := h.full asked reached
    exact ⟨full.closed, full.result, conduct_of_over full.ended⟩
  · obtain ⟨k, caught⟩ := h.catchesUp calm again answered yields
    refine ⟨k, fun m enough => ⟨caught m enough, fun n asked plenty => ?_⟩⟩
    have reached : (r.conduct p format now (catchUp m)).watch.printed.length = max 1 n := by
      rw [caught m enough, wanted, asked]
      simp only [List.length_take]
      omega
    have full := (h.conduct (catchUp m)).full asked reached
    exact ⟨full.closed, full.result⟩

/-- However the events of its subscription are interleaved with losses of the link and new links, a
command prints them in their order, each of them once, and no more than it was asked for; then it closes
its client and ends well. But whoever asks for none gets one. A run of the command takes such turns. -/
theorem prints_asked {topic : Topic} (hs : start topic = .ok r) :
    (∀ p format now turns, Counted p format now turns (r.conduct p format now turns)
      (Client.history {} (opening topic ++ r.trace p format now turns))) ∧
    ∀ a format plan outside, plan.topic = topic → outside.dialed = .ok () →
      ∃ turns, (.interrupt ∉ outside.happenings → .interrupt ∉ turns) ∧
        run a format plan outside =
          ⟨(r.conduct ⟨a.count, a.noReconnect⟩ format outside.now turns).output,
            (r.conduct ⟨a.count, a.noReconnect⟩ format outside.now turns).result⟩ := by
  constructor
  · intro p format now turns
    obtain ⟨same, started⟩ := conducted_start p format now hs
    have later := started.conduct turns
    rw [same] at later
    rw [Client.history, Client.recount_append]
    exact later.counted
  · intro a format plan outside ht dialed
    have begun :
        Leads ⟨a.count, a.noReconnect⟩ format outside.now (.interrupt ∉ outside.happenings) r r :=
      ⟨[], nofun, rfl⟩
    obtain ⟨turns, quiet, same⟩ := begun.reacts outside.happenings fun calm => calm
    refine ⟨turns, quiet, ?_⟩
    simp only [run, dialed, ht, hs, same]

/-- A command that has asked for the events of the server. -/
def listening : SubscribeRun where
  hub := { ((Hub.fresh {}).attach none).1 with client := (Client.fresh {}).run (opening .events) }
  generation := 1
  call := some 1
  id := 1

def logged (message : String) : TopicEvent :=
  .log ⟨none, none, some message, []⟩

def logging (message : String) : Inbound :=
  .message ("[1,4,0,\x7b\"dt\":\"EVENT\",\"data\":\x7b\"message\":\"" ++ message ++ "\"\x7d\x7d]")

/-- The link is lost while an event is still to be printed, and the second attempt to connect again
succeeds. -/
def mended : List Turn :=
  [.handle 1, .word 1 (.message "[1,2,1,\x7b\x7d]"), .handle 1, .answer, .word 1 (logging "a"), .handle 1,
    .item, .word 1 (logging "b"), .handle 1, .word 1 (.closed .unannounced), .handle 1, .loss,
    .redial (.error "refused"), .redial (.ok ()),
    .word 2 (.message "[1,4,0,\x7b\"dt\":\"CONNECTION_INFO\",\"data\":\x7b\x7d\x7d]"), .handle 2,
    .handle 2, .word 2 (.message "[1,2,2,\x7b\x7d]"), .handle 2, .word 2 (logging "c"), .handle 2,
    .word 2 (logging "d"), .handle 2]

theorem mended_prints : start .events = .ok listening ∧ ∃ k, ∀ m ≥ k,
    ((listening.conduct ⟨some 3, false⟩ .json "0" mended).conduct ⟨some 3, false⟩ .json "0"
        (catchUp m)).watch.printed = ["a", "b", "c"].map logged ∧
      ((listening.conduct ⟨some 3, false⟩ .json "0" mended).conduct ⟨some 3, false⟩ .json "0"
        (catchUp m)).hub.client.closed = true := by
  have written : (Frame.request 1 Topic.events.requestBody).encode {} =
      .ok "[1,1,1,\x7b\"events\":\"subscribe\"\x7d]" := by
    decide +kernel
  have started : start .events = .ok listening := by
    rw [start_eq, written]
    rfl
  obtain ⟨k, caught⟩ := ((prints_asked started).1 ⟨some 3, false⟩ .json "0" mended).complete
    (by simp [mended]) rfl (by decide +kernel) (["a", "b", "c", "d"].map logged) (by decide +kernel)
  refine ⟨started, k, fun m enough => ?_⟩
  obtain ⟨printed, through⟩ := caught m enough
  exact ⟨printed, (through 3 rfl (by decide)).1⟩

/-- Nothing is to be printed, and two events come. -/
def noneAsked : List String :=
  ["subscribe", "ws://host/", "--topic", "events", "--count", "0"]

def busy : Outside where
  dialed := .ok ()
  happenings := [.inbound (.message "[1,2,1,\x7b\x7d]"), .inbound (logging "a"), .inbound (logging "b")]
  now := "0"

theorem noneAsked_prints_one :
    (CommandLine.parse {} noneAsked).toOption.map (fun line => (line.run fun _ => busy).output) =
      some (printEvent .json 1 "0" (logged "a")) ∧ printEvent .json 1 "0" (logged "a") ≠ "" := by
  decide +kernel

end SubscribeRun

end Telemux
