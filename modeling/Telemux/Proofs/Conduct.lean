import Telemux.Command.Run
import Telemux.Proofs.Holding

namespace Telemux

open Client (Unbroken taken feed requests queueIn)

namespace Hub

/-- What the task of a link does to the client when it takes what is next. -/
def handling (h : Hub) (generation : Nat) : List Client.Step :=
  match h.tasks.find? generation with
  | some ⟨.message text :: _, _, none⟩ => [.message generation text]
  | some ⟨.closed _ :: _, _, none⟩ | some ⟨[], false, none⟩ => [.linkClosed generation]
  | _ => []

theorem client_handling (h : Hub) (g : Nat) : (h.handle g).client = h.client.run (h.handling g) := by
  unfold handle handling
  rcases h.tasks.find? g with _ | ⟨_ | ⟨_ | _ | _, _⟩, _ | _, _ | _⟩ <;> rfl

theorem mem_handling {h : Hub} {g : Nat} {s : Client.Step} (hs : s ∈ h.handling g) :
    (∃ text, s = .message g text) ∨ s = .linkClosed g := by
  unfold handling at hs
  split at hs
  next text _ _ _ => exact .inl ⟨text, List.mem_singleton.mp hs⟩
  next => exact .inr (List.mem_singleton.mp hs)
  next => exact .inr (List.mem_singleton.mp hs)
  next => cases hs

theorem client_push (h : Hub) (g : Nat) (item : Inbound) : (h.push g item).client = h.client := by
  unfold push
  split <;> rfl

theorem client_attach (h : Hub) : (h.attach none).1.client = h.client.step (.attach none) := by
  show (h.attachLink [.opened] none).1.client = (h.client.attach none).1
  unfold attachLink
  split
  next same => rw [same]
  next same => rw [same]

end Hub

namespace SubscribeRun

/-- What a turn does to the client of a command. -/
def steps (p : WatchPolicy) (r : SubscribeRun) : Turn → List Client.Step
  | .handle generation => r.hub.handling generation
  | .answer => r.call.toList.map .collect
  | .item =>
    if r.isWatching then
      match (r.hub.client.receive r.id).2 with
      | .item (.ok e) => .receive r.id :: if (r.watch.step p (.event e)).isOver then [.close] else []
      | _ => [.receive r.id]
    else []
  | .redial (.ok ()) => if r.watch.phase = .reconnecting then [.attach none] else []
  | .interrupt => if r.call.isNone then [.close] else []
  | _ => []

/-- Everything that some turns do to the client, in order. -/
def trace (p : WatchPolicy) (format : OutputFormat) (now : String) (r : SubscribeRun) :
    List Turn → List Client.Step
  | [] => []
  | t :: rest =>
    (if r.watch.isOver then [] else r.steps p t) ++ (r.step p format now t).trace p format now rest

variable {p : WatchPolicy} {format : OutputFormat} {now : String} {r : SubscribeRun} {past : List Client.Event}
  {turns : List Turn} {t : Turn}

theorem fetch_of_call {s : Nat} (called : r.call = some s) : r.fetch format =
    match (r.hub.client.collect s).2 with
    | some (.ok (.initial reply)) =>
      { r.withClient (r.hub.client.step (.collect s)) with
        call := none
        output := r.output ++ printReply format reply }
    | some (.error e) =>
      { r.withClient (r.hub.client.step (.collect s)) with
        watch := { r.watch with phase := .ended (.error (.ofClient "subscribe failed" e)) } }
    | _ => r.withClient (r.hub.client.step (.collect s)) := by
  unfold fetch
  rw [called]
  rfl

theorem print_eq (p : WatchPolicy) (format : OutputFormat) (now : String) (r : SubscribeRun) (c : Client)
    (e : TopicEvent) : (r.withClient c).print p format now e =
      { r.withClient (if (r.watch.step p (.event e)).isOver then c.close else c) with
        watch := r.watch.step p (.event e)
        output := r.output ++ printEvent format r.id now e } := by
  show (if (r.watch.step p (.event e)).isOver = true then _ else _) = _
  split <;> rfl

theorem takeItem_of_watching (watching : r.isWatching = true) : r.takeItem p format now =
    match (r.hub.client.receive r.id).2 with
    | .item (.ok e) => (r.withClient (r.hub.client.step (.receive r.id))).print p format now e
    | .item (.error e) =>
      { r.withClient (r.hub.client.step (.receive r.id)) with watch := r.watch.step p (.failed e) }
    | .ended =>
      { r.withClient (r.hub.client.step (.receive r.id)) with watch := r.watch.step p .finished }
    | .pending => r.withClient (r.hub.client.step (.receive r.id)) := by
  rw [takeItem, if_pos watching]
  rfl

theorem redial_of_reconnecting (waiting : r.watch.phase = .reconnecting) : r.redial p (.ok ()) =
    match (r.hub.attach none).2 with
    | .ok generation =>
      { r with hub := (r.hub.attach none).1, generation, watch := r.watch.step p .reconnected }
    | .error _ => { r with hub := (r.hub.attach none).1, watch := r.watch.step p .retryFailed } := by
  rw [redial, if_pos waiting]
  rcases r.hub.attach none with ⟨hub, _ | _⟩ <;> rfl

theorem client_turn (p : WatchPolicy) (format : OutputFormat) (now : String) (r : SubscribeRun) (t : Turn) :
    (r.turn p format now t).hub.client = r.hub.client.run (r.steps p t) := by
  cases t with
  | word g item => exact r.hub.client_push g item
  | leave g => rfl
  | handle g => exact r.hub.client_handling g
  | stop g => exact r.hub.client_stop g
  | answer =>
    cases called : r.call with
    | none => simp [turn, fetch, steps, called, Client.run]
    | some s =>
      rw [turn, fetch_of_call called, steps, called]
      split <;> rfl
  | item =>
    simp only [turn, steps]
    split
    next watching =>
      rw [takeItem_of_watching watching]
      cases (r.hub.client.receive r.id).2 with
      | item item =>
        cases item with
        | error e => rfl
        | ok e =>
          simp only [print_eq]
          split <;> rfl
      | pending | ended => rfl
    next other => rw [takeItem, if_neg other]; rfl
  | loss =>
    simp only [turn, noticeLoss, steps]
    split
    next => split <;> rfl
    next => rfl
  | redial result =>
    cases result with
    | error e =>
      simp only [turn, redial, steps]
      split <;> rfl
    | ok =>
      simp only [turn, steps]
      split
      next waiting =>
        rw [redial_of_reconnecting waiting]
        cases (r.hub.attach none).2 <;> exact r.hub.client_attach
      next other => rw [redial, if_neg other]; rfl
  | interrupt =>
    simp only [turn, interrupt, steps]
    split <;> rfl

/-- The number of events to print is not reached. -/
def Below (p : WatchPolicy) (r : SubscribeRun) : Prop :=
  ∀ n, p.count = some n → r.watch.printed.length < max 1 n

/-- A command that goes on: what it took from its subscription is what it has printed. -/
structure Running (p : WatchPolicy) (r : SubscribeRun) (past : List Client.Event) : Prop where
  going : r.watch.isOver = false
  unshut : .shut ∉ past
  all : taken r.id past = r.watch.printed.map .ok
  below : Below p r
  held : r.call = none → (r.hub.client.held? r.id).isSome = true
  called : ∀ s, r.call = some s →
    ∃ q ∈ requests past, q.sequence = s ∧ q.purpose.handle? = some r.id

/-- A command that has printed as many events as it should. -/
structure Full (p : WatchPolicy) (r : SubscribeRun) : Prop where
  reached : ∃ n, p.count = some n ∧ r.watch.printed.length = max 1 n
  well : r.watch.phase = .ended (.ok ())
  closed : r.hub.client.closed = true

/-- Why a command is over before it has printed as many events as it should. -/
inductive Ceased (p : WatchPolicy) (turns : List Turn) (r : SubscribeRun) (past : List Client.Event) : Prop
  | interrupted (asked : .interrupt ∈ turns)
  | ended (all : (feed r.id past).items = r.watch.printed.map .ok)
  | failed {e : ClientError} (last : .error e ∈ (feed r.id past).items)
  | lost (alone : p.noReconnect = true)
  | refused (unanswered : r.call.isSome = true)

/-- What a command has shown: nothing before its call is answered, and then the answer and each event
in its turn. -/
structure Shown (format : OutputFormat) (now : String) (r : SubscribeRun) (past : List Client.Event) :
    Prop where
  silent : r.call.isSome = true → r.watch.printed = [] ∧ r.output = ""
  spoken : r.call = none → ∃ s reply, .fetched s (.ok (.initial reply)) ∈ past ∧
    r.output = printReply format reply ++ String.join (r.watch.printed.map (printEvent format r.id now))

/-- Where some turns lead a command. -/
structure Conducted (p : WatchPolicy) (format : OutputFormat) (now : String) (turns : List Turn)
    (r : SubscribeRun) (past : List Client.Event) : Prop where
  unbroken : Unbroken {} r.hub.client past
  leading : r.watch.printed.map .ok <+: taken r.id past
  shown : Shown format now r past
  stands : Running p r past ∨ Full p r ∨ r.watch.isOver = true ∧ Below p r ∧ Ceased p turns r past

theorem isWatching_iff : r.isWatching = true ↔ r.call = none ∧ r.watch.phase = .watching := by
  simp [isWatching]

/-- All that a command ever does to its client. -/
theorem mem_steps {s : Client.Step} (hs : s ∈ r.steps p t) :
    (∃ g, t = .handle g ∧ ((∃ text, s = .message g text) ∨ s = .linkClosed g)) ∨
      (∃ sequence, s = .collect sequence) ∨ s = .receive r.id ∨ s = .attach none ∨ s = .close := by
  cases t with
  | handle g => exact .inl ⟨g, rfl, Hub.mem_handling hs⟩
  | answer =>
    obtain ⟨sequence, -, rfl⟩ := List.mem_map.mp hs
    exact .inr (.inl ⟨sequence, rfl⟩)
  | item =>
    simp only [steps] at hs
    grind
  | redial result =>
    cases result with
    | error e => cases hs
    | ok =>
      simp only [steps] at hs
      grind
  | interrupt =>
    simp only [steps] at hs
    grind
  | word | leave | stop | loss => cases hs

theorem steps_keep (p : WatchPolicy) (r : SubscribeRun) (t : Turn) :
    ∀ s ∈ r.steps p t, s.drops = false := by
  intro s hs
  rcases mem_steps hs with ⟨_, -, ⟨_, rfl⟩ | rfl⟩ | ⟨_, rfl⟩ | rfl | rfl | rfl <;> rfl

/-- A turn that shows nothing. -/
structure Silent (r after : SubscribeRun) : Prop where
  call : after.call = r.call
  id : after.id = r.id
  printed : after.watch.printed = r.watch.printed
  output : after.output = r.output

theorem Silent.below {after : SubscribeRun} (same : Silent r after) (h : Below p r) : Below p after := by
  rw [Below, same.printed]
  exact h

theorem Silent.shown {after : SubscribeRun} (same : Silent r after) (h : Shown format now r past) (c : Client)
    (steps : List Client.Step) : Shown format now after (c.recount past steps) := by
  obtain ⟨newer, split, -⟩ := c.recount_eq_append past steps
  rw [split]
  refine ⟨fun waits => ?_, fun answered => ?_⟩
  · rw [same.printed, same.output]
    exact h.silent (same.call ▸ waits)
  · obtain ⟨s, reply, fetched, shown⟩ := h.spoken (same.call.symm.trans answered)
    rw [same.printed, same.output, same.id]
    exact ⟨s, reply, List.mem_append_right _ fetched, shown⟩

/-- A turn after which a command goes on. -/
theorem Running.go (h : Running p r past) (u : Unbroken {} r.hub.client past) {after : SubscribeRun}
    {steps : List Client.Step} (client : after.hub.client = r.hub.client.run steps)
    (keep : ∀ s ∈ steps, s.drops = false) (stays : .close ∉ steps)
    (going : after.watch.isOver = false) (call : after.call = r.call) (id : after.id = r.id)
    (below : Below p after)
    (all : taken r.id (r.hub.client.recount past steps) = after.watch.printed.map .ok) :
    Running p after (r.hub.client.recount past steps) := by
  refine ⟨going, fun shut => ?_, by rw [id, all], below, fun answered => ?_, fun s called => ?_⟩
  · rcases Client.mem_recount shut with old | ⟨s, hs, rfl⟩
    · exact h.unshut old
    · exact stays hs
  · rw [client, id]
    exact u.held keep (h.held (call.symm.trans answered))
  · obtain ⟨q, hq, own⟩ := h.called s (call.symm.trans called)
    obtain ⟨newer, split, -⟩ := r.hub.client.recount_eq_append past steps
    rw [split, id]
    exact ⟨q, Client.mem_requests_append newer hq, own⟩

theorem Shown.print (h : Shown format now r past) (answered : r.call = none) (c : Client)
    (steps : List Client.Step) {after : SubscribeRun} {e : TopicEvent} (call : after.call = r.call)
    (id : after.id = r.id) (printed : after.watch.printed = r.watch.printed ++ [e])
    (output : after.output = r.output ++ printEvent format r.id now e) :
    Shown format now after (c.recount past steps) := by
  obtain ⟨newer, split, -⟩ := c.recount_eq_append past steps
  obtain ⟨s, reply, fetched, shown⟩ := h.spoken answered
  refine ⟨fun waits => ?_, fun _ => ⟨s, reply, ?_, ?_⟩⟩
  · simp [call, answered] at waits
  · rw [split]
    exact List.mem_append_right _ fetched
  · rw [output, shown, printed, id]
    simp [String.join_append, String.append_assoc]

/-- The number of events is looked at only when one has been printed, so that nobody gets fewer than
one. -/
theorem print_cases (e : TopicEvent) (below : Below p r) :
    (r.watch.print p e = ⟨r.watch.printed ++ [e], .ended (.ok ())⟩ ∧
      ∃ n, p.count = some n ∧ r.watch.printed.length + 1 = max 1 n) ∨
    r.watch.print p e = ⟨r.watch.printed ++ [e], .watching⟩ ∧
      ∀ n, p.count = some n → r.watch.printed.length + 1 < max 1 n := by
  unfold Watch.print
  cases asked : p.count with
  | none => exact .inr ⟨rfl, by simp⟩
  | some n =>
    have fewer := below n asked
    simp only [Option.any_some, decide_eq_true_eq, List.length_append, List.length_singleton,
      Option.some.injEq, forall_eq', exists_eq_left']
    by_cases last : n ≤ r.watch.printed.length + 1
    · exact .inl ⟨by rw [if_pos last], by omega⟩
    · exact .inr ⟨by rw [if_neg last], by omega⟩

section

variable {after : SubscribeRun} {deeds : List Client.Step}
variable (h : Running p r past) (u : Unbroken {} r.hub.client past) (shown : Shown format now r past)

include h u shown

/-- A silent turn after which a command goes on. -/
theorem Running.quietly (client : after.hub.client = r.hub.client.run deeds)
    (keep : ∀ s ∈ deeds, s.drops = false) (stays : .close ∉ deeds) (same : Silent r after)
    (going : after.watch.isOver = false)
    (quiet : taken r.id (r.hub.client.recount past deeds) = taken r.id past) :
    Conducted p format now turns after (r.hub.client.recount past deeds) := by
  have all : taken r.id (r.hub.client.recount past deeds) = after.watch.printed.map .ok := by
    rw [same.printed, ← h.all, quiet]
  have leading : after.watch.printed.map .ok <+: taken after.id (r.hub.client.recount past deeds) := by
    rw [same.id]
    exact all ▸ List.prefix_refl _
  exact ⟨client ▸ u.run keep, leading, same.shown shown _ _,
    .inl (h.go u client keep stays going same.call same.id (same.below h.below) all)⟩

theorem Running.still :
    Conducted p format now turns r (r.hub.client.recount past []) :=
  h.quietly u shown rfl (List.forall_mem_nil _) List.not_mem_nil ⟨rfl, rfl, rfl, rfl⟩ h.going rfl

/-- A silent turn after which a command is over. -/
theorem Running.cease (client : after.hub.client = r.hub.client.run deeds)
    (keep : ∀ s ∈ deeds, s.drops = false) (same : Silent r after) (stopped : after.watch.isOver = true)
    (why : Ceased p turns after (r.hub.client.recount past deeds)) :
    Conducted p format now turns after (r.hub.client.recount past deeds) := by
  have leading : after.watch.printed.map .ok <+: taken after.id (r.hub.client.recount past deeds) := by
    obtain ⟨newer, split, -⟩ := r.hub.client.recount_eq_append past deeds
    rw [same.printed, same.id, ← h.all, split]
    exact Client.taken_isPrefix_append _ _ _
  exact ⟨client ▸ u.run keep, leading, same.shown shown _ _,
    .inr (.inr ⟨stopped, same.below h.below, why⟩)⟩

/-- The answer of the server hands the subscription over, and is shown. -/
theorem Running.answer {q : Pending Purpose} (hq : q ∈ requests past)
    (own : q.purpose.handle? = some r.id) (called : r.call = some q.sequence) {reply : InitialReply}
    (answered : (r.hub.client.collect q.sequence).2 = some (.ok (.initial reply))) :
    Conducted p format now turns
      { r.withClient (r.hub.client.step (.collect q.sequence)) with
        call := none
        output := r.output ++ printReply format reply }
      (r.hub.client.recount past [.collect q.sequence]) := by
  have fetched : .fetched q.sequence (.ok (.initial reply)) ∈
      r.hub.client.recount past [.collect q.sequence] := by
    simp [Client.recount, Client.events, answered]
  have all : taken r.id (r.hub.client.recount past [.collect q.sequence]) = r.watch.printed.map .ok := by
    rw [← h.all]
    exact Client.taken_recount (by simp)
  have unshut : .shut ∉ r.hub.client.recount past [.collect q.sequence] := by
    intro shut
    rcases Client.mem_recount shut with old | ⟨s, hs, rfl⟩
    · exact h.unshut old
    · cases List.mem_singleton.mp hs
  obtain ⟨nothing, silent⟩ := shown.silent (by simp [called])
  have keep : ∀ s ∈ [Client.Step.collect q.sequence], s.drops = false := by simp [Client.Step.drops]
  refine ⟨u.run keep, ?_, ⟨fun waits => ?_, fun _ => ?_⟩, .inl ?_⟩
  · exact all ▸ List.prefix_refl _
  · cases waits
  · refine ⟨q.sequence, reply, fetched, ?_⟩
    simp [withClient, nothing, silent]
  · refine ⟨h.going, unshut, all, h.below, fun _ => ?_, fun s waits => ?_⟩
    · exact Client.held_of_answer u.traced hq own answered
    · cases waits

theorem Running.fetch :
    Conducted p format now turns (r.turn p format now .answer)
      (r.hub.client.recount past (r.steps p .answer)) := by
  have keep := r.steps_keep p .answer
  cases called : r.call with
  | none =>
    have same : r.turn p format now .answer = r := by simp [turn, SubscribeRun.fetch, called]
    have idle : r.steps p .answer = [] := by simp [steps, called]
    rw [same, idle]
    exact h.still u shown
  | some s =>
    obtain ⟨q, hq, rfl, own⟩ := h.called s called
    have collects : r.steps p .answer = [.collect q.sequence] := by simp [steps, called]
    rw [collects] at keep ⊢
    rw [turn, fetch_of_call called]
    split
    next reply answered => exact h.answer u shown hq own called answered
    next e answered =>
      exact h.cease u shown rfl keep ⟨rfl, rfl, rfl, rfl⟩ rfl (.refused (by simp [withClient, called]))
    next =>
      exact h.quietly u shown rfl keep (by simp) ⟨rfl, rfl, rfl, rfl⟩ h.going
        (Client.taken_recount (by simp))

/-- An event is printed; the client is closed if it was the last one. -/
theorem Running.print (watching : r.isWatching = true) {e : TopicEvent}
    (received : (r.hub.client.receive r.id).2 = .item (.ok e)) :
    Conducted p format now turns (r.turn p format now .item)
      (r.hub.client.recount past (r.steps p .item)) := by
  obtain ⟨answered, phase⟩ := isWatching_iff.mp watching
  have watch : r.watch.step p (.event e) = r.watch.print p e := by simp [Watch.step, phase]
  have taken : taken r.id (r.hub.client.recount past [.receive r.id]) =
      (r.watch.printed ++ [e]).map .ok := by
    rw [Client.taken_receive, received, h.all, List.map_append]
    rfl
  rw [turn, takeItem_of_watching watching]
  simp only [steps, if_pos watching, received, print_eq, watch]
  rcases print_cases e h.below with ⟨print, n, asked, last⟩ | ⟨print, below⟩
  · simp only [print, Watch.isOver, if_true]
    have all : Client.taken r.id (r.hub.client.recount past ([.receive r.id] ++ [.close])) =
        (r.watch.printed ++ [e]).map .ok := by
      rw [Client.recount_append, Client.taken_recount (by simp), taken]
    have keep : ∀ s ∈ [Client.Step.receive r.id, .close], s.drops = false := by
      simp [Client.Step.drops]
    refine ⟨u.run keep, ?_,
      shown.print answered _ _ rfl rfl rfl rfl, .inr (.inl ⟨⟨n, asked, ?_⟩, rfl, ?_⟩)⟩
    · exact all ▸ List.prefix_refl _
    · simp [last]
    · exact Client.closed_close _
  · simp only [print, Watch.isOver, Bool.false_eq_true, if_false]
    have keep : ∀ s ∈ [Client.Step.receive r.id], s.drops = false := by simp [Client.Step.drops]
    refine ⟨u.run keep, ?_, shown.print answered _ _ rfl rfl rfl rfl, .inl ?_⟩
    · exact taken ▸ List.prefix_refl _
    · refine h.go u rfl keep (by simp) rfl rfl rfl (fun n asked => ?_) taken
      simpa using below n asked

theorem Running.takeItem :
    Conducted p format now turns (r.turn p format now .item)
      (r.hub.client.recount past (r.steps p .item)) := by
  by_cases watching : r.isWatching = true
  · obtain ⟨answered, phase⟩ := isWatching_iff.mp watching
    have keep : ∀ s ∈ [Client.Step.receive r.id], s.drops = false := by simp [Client.Step.drops]
    have taken := r.hub.client.taken_receive past r.id
    have unread := Client.items_of_unread u.traced (h.held answered)
    by_cases event : ∃ e, (r.hub.client.receive r.id).2 = .item (.ok e)
    · obtain ⟨e, received⟩ := event
      exact h.print u shown watching received
    · rw [turn, takeItem_of_watching watching]
      simp only [steps, if_pos watching]
      rcases received : (r.hub.client.receive r.id).2 with (e | e) | _ | _
      · have stopped : r.watch.step p (.failed e) =
            ⟨r.watch.printed, .ended (.error (.ofClient "subscription ended" e))⟩ := by
          simp [Watch.step, phase]
        simp only [stopped]
        rw [received] at taken
        refine h.cease u shown rfl keep ⟨rfl, rfl, rfl, rfl⟩ rfl (.failed (e := e) ?_)
        exact (Client.taken_isPrefix (u.run keep).traced).subset (taken ▸ by simp)
      · exact absurd ⟨e, received⟩ event
      · rw [received] at taken
        exact h.quietly u shown rfl keep (by simp) ⟨rfl, rfl, rfl, rfl⟩ h.going (by simpa using taken)
      · have stopped : r.watch.step p .finished = ⟨r.watch.printed, .ended (.ok ())⟩ := by
          simp [Watch.step, phase]
        simp only [stopped]
        refine h.cease u shown rfl keep ⟨rfl, rfl, rfl, rfl⟩ rfl (.ended ?_)
        exact (Client.items_recount u.traced (by simp)).trans ((unread (by simp [received])).trans h.all)
  · have same : r.turn p format now .item = r := by simp [turn, SubscribeRun.takeItem, watching]
    have idle : r.steps p .item = [] := by simp [steps, watching]
    rw [same, idle]
    exact h.still u shown

theorem Running.noticeLoss :
    Conducted p format now turns (r.turn p format now .loss)
      (r.hub.client.recount past (r.steps p .loss)) := by
  have idle : r.steps p .loss = [] := rfl
  rw [idle, turn, SubscribeRun.noticeLoss]
  split
  next watching =>
    obtain ⟨answered, phase⟩ := isWatching_iff.mp watching
    split
    next reason lost =>
      cases alone : p.noReconnect with
      | true =>
        have stopped : r.watch.step p (.lost reason) = ⟨r.watch.printed, .ended (.error
            ⟨Failure.transportCode, "connection closed: " ++ reason.text⟩)⟩ := by
          simp [Watch.step, phase, Watch.afterLoss, alone]
        rw [stopped]
        exact h.cease u shown rfl (List.forall_mem_nil _) ⟨rfl, rfl, rfl, rfl⟩ rfl (.lost alone)
      | false =>
        have waits : r.watch.step p (.lost reason) = ⟨r.watch.printed, .reconnecting⟩ := by
          simp [Watch.step, phase, Watch.afterLoss, alone]
        rw [waits]
        exact h.quietly u shown rfl (List.forall_mem_nil _) List.not_mem_nil ⟨rfl, rfl, rfl, rfl⟩ rfl rfl
    next => exact h.still u shown
  next => exact h.still u shown

/-- An attempt to connect again is made only while the link is gone. -/
theorem Running.redial (result : Except String Unit) :
    Conducted p format now turns (r.turn p format now (.redial result))
      (r.hub.client.recount past (r.steps p (.redial result))) := by
  by_cases waiting : r.watch.phase = .reconnecting
  · have failed : r.watch.step p .retryFailed = r.watch := by simp [Watch.step, waiting]
    have again : r.watch.step p .reconnected = ⟨r.watch.printed, .watching⟩ := by
      simp [Watch.step, waiting]
    cases result with
    | error e =>
      have idle : r.steps p (.redial (.error e)) = [] := rfl
      rw [idle, turn, SubscribeRun.redial, if_pos waiting, failed]
      exact h.still u shown
    | ok =>
      have attaches : r.steps p (.redial (.ok ())) = [.attach none] := by simp [steps, waiting]
      rw [attaches, turn, redial_of_reconnecting waiting]
      split
      next =>
        rw [again]
        exact h.quietly u shown r.hub.client_attach (by simp [Client.Step.drops]) (by simp)
          ⟨rfl, rfl, rfl, rfl⟩ rfl (Client.taken_recount (by simp))
      next =>
        rw [failed]
        exact h.quietly u shown r.hub.client_attach (by simp [Client.Step.drops]) (by simp)
          ⟨rfl, rfl, rfl, rfl⟩ h.going (Client.taken_recount (by simp))
  · have same : r.turn p format now (.redial result) = r := by simp [turn, SubscribeRun.redial, waiting]
    have idle : r.steps p (.redial result) = [] := by cases result <;> simp [steps, waiting]
    rw [same, idle]
    exact h.still u shown

theorem Running.interrupt (asked : .interrupt ∈ turns) :
    Conducted p format now turns (r.turn p format now .interrupt)
      (r.hub.client.recount past (r.steps p .interrupt)) := by
  cases called : r.call with
  | some s =>
    have same : r.turn p format now .interrupt = r := by simp [turn, SubscribeRun.interrupt, called]
    have idle : r.steps p .interrupt = [] := by simp [steps, called]
    rw [same, idle]
    exact h.still u shown
  | none =>
    have closes : r.steps p .interrupt = [.close] := by simp [steps, called]
    have stopped : (r.watch.step p .interrupt).isOver = true ∧
        (r.watch.step p .interrupt).printed = r.watch.printed := by
      cases phase : r.watch.phase with
      | ended result =>
        have going := h.going
        simp [Watch.isOver, phase] at going
      | _ => simp [Watch.step, phase, Watch.isOver]
    have turned : r.turn p format now .interrupt = close { r with watch := r.watch.step p .interrupt } := by
      simp [turn, SubscribeRun.interrupt, called]
    rw [closes, turned]
    exact h.cease u shown rfl (by simp [Client.Step.drops]) ⟨rfl, rfl, stopped.2, rfl⟩ stopped.1
      (.interrupted asked)

/-- A turn of a command at work. -/
theorem Running.turn (t : Turn) :
    Conducted p format now (turns ++ [t]) (r.turn p format now t)
      (r.hub.client.recount past (r.steps p t)) := by
  have client := client_turn p format now r t
  have keep := r.steps_keep p t
  cases t with
  | word g item | leave g | stop g =>
    exact h.quietly u shown client keep List.not_mem_nil ⟨rfl, rfl, rfl, rfl⟩ h.going rfl
  | handle g =>
    have other : ∀ s ∈ r.hub.handling g, s ≠ .close ∧ s ≠ .receive r.id := by
      intro s hs
      rcases Hub.mem_handling hs with ⟨text, rfl⟩ | rfl <;> simp
    exact h.quietly u shown client keep (fun hm => (other _ hm).1 rfl) ⟨rfl, rfl, rfl, rfl⟩ h.going
      (Client.taken_recount fun hm => (other _ hm).2 rfl)
  | answer => exact h.fetch u shown
  | item => exact h.takeItem u shown
  | loss => exact h.noticeLoss u shown
  | redial result => exact h.redial u shown result
  | interrupt => exact h.interrupt u shown (by simp)

end

theorem Ceased.later (h : Ceased p turns r past) (t : Turn) : Ceased p (turns ++ [t]) r past := by
  cases h with
  | interrupted asked => exact .interrupted (List.mem_append_left _ asked)
  | ended all => exact .ended all
  | failed last => exact .failed last
  | lost alone => exact .lost alone
  | refused unanswered => exact .refused unanswered

theorem Conducted.running (h : Conducted p format now turns r past) (going : r.watch.isOver = false) :
    Running p r past := by
  rcases h.stands with running | full | ⟨stopped, -⟩
  · exact running
  · simp [Watch.isOver, full.well] at going
  · simp [stopped] at going

theorem Conducted.step (h : Conducted p format now turns r past) (t : Turn) :
    Conducted p format now (turns ++ [t]) (r.step p format now t)
      (r.hub.client.recount past (if r.watch.isOver then [] else r.steps p t)) := by
  unfold SubscribeRun.step
  split
  next stopped =>
    refine ⟨h.unbroken, h.leading, h.shown, ?_⟩
    rcases h.stands with running | full | ⟨-, below, why⟩
    · exact absurd stopped (by simp [running.going])
    · exact .inr (.inl full)
    · exact .inr (.inr ⟨stopped, below, why.later t⟩)
  next going => exact (h.running (by simpa using going)).turn h.unbroken h.shown t

theorem client_step (p : WatchPolicy) (format : OutputFormat) (now : String) (r : SubscribeRun) (t : Turn) :
    (r.step p format now t).hub.client =
      r.hub.client.run (if r.watch.isOver then [] else r.steps p t) := by
  unfold SubscribeRun.step
  split
  next => rfl
  next => exact client_turn p format now r t

/-- However the turns of a command follow each other, it stands where they lead it. -/
theorem Conducted.conduct (h : Conducted p format now turns r past) (more : List Turn) :
    Conducted p format now (turns ++ more) (r.conduct p format now more)
      (r.hub.client.recount past (r.trace p format now more)) := by
  induction more generalizing turns r past with
  | nil =>
    rw [List.append_nil]
    exact h
  | cons t rest ih =>
    have later := ih (h.step t)
    rw [client_step] at later
    rw [trace, Client.recount_append, List.append_cons]
    exact later

/-- What a command does before anything else. -/
def opening (topic : Topic) : List Client.Step :=
  [.attach none, .subscribe topic]

/-- A command is at work once its request is written; a topic whose request is too long has none. -/
theorem start_eq (topic : Topic) : start topic =
    match (Frame.request 1 topic.requestBody).encode {} with
    | .error e => .error (.ofClient "subscribe failed" (.frame e))
    | .ok _ => .ok {
        hub := { ((Hub.fresh {}).attach none).1 with client := (Client.fresh {}).run (opening topic) }
        generation := 1
        call := some 1
        id := 1 } := by
  have opened : (Client.fresh {}).run (opening topic) =
      (((Hub.fresh {}).attach none).1.client.subscribe topic).1 := rfl
  rw [opened]
  unfold start
  cases he : (Frame.request 1 topic.requestBody).encode {} <;>
    simp [Hub.attach, Hub.attachLink, Client.attach, Hub.fresh, Client.subscribe, Client.sendRequest, he,
      ActiveLink.accepting]

theorem history_opening {topic : Topic} {text : String}
    (written : (Frame.request 1 topic.requestBody).encode {} = .ok text) :
    Client.history {} (opening topic) =
      [.sent ⟨1, 1, .subscribe 1 topic⟩ topic.requestBody, .opened 1] := by
  have sends : ((Client.fresh {}).step (.attach none)).Sends ⟨1, false, none⟩ topic.requestBody text :=
    ⟨rfl, rfl, rfl, written⟩
  have sent : ((Client.fresh {}).step (.attach none)).events (.subscribe topic) =
      [.sent ⟨1, 1, .subscribe 1 topic⟩ topic.requestBody] :=
    Client.sending_of_sends sends _
  have history : Client.history {} (opening topic) =
      (((Client.fresh {}).step (.attach none)).events (.subscribe topic)).reverse ++ [.opened 1] := rfl
  rw [history, sent]
  rfl

theorem conducted_start (p : WatchPolicy) (format : OutputFormat) (now : String) {topic : Topic}
    (hs : start topic = .ok r) :
    r.hub.client = (Client.fresh {}).run (opening topic) ∧
      Conducted p format now [] r (Client.history {} (opening topic)) := by
  have traced := Client.traced_run {} (opening topic)
  rw [start_eq] at hs
  split at hs
  next => cases hs
  next text written =>
    cases hs
    rw [history_opening written] at traced ⊢
    refine ⟨rfl, ⟨traced, by simp⟩, List.prefix_refl _, ⟨fun _ => ⟨rfl, rfl⟩, by simp⟩, .inl ?_⟩
    refine ⟨rfl, by simp, rfl, fun n _ => ?_, by simp, ?_⟩
    · show 0 < max 1 n
      omega
    · rintro s ⟨⟩
      exact ⟨⟨1, 1, .subscribe 1 topic⟩, by simp [requests], rfl, rfl⟩

end SubscribeRun

end Telemux
