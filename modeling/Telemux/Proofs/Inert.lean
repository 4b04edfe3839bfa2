import Telemux.Proofs.Closing

namespace Telemux.Client

/-- A frame that means nothing to a client: a request, the answer to nothing that waits, or a push that
cannot be made out or that no live route delivers. -/
inductive Idle (c : Client) (f : Frame) : Prop
  | request (hk : f.kind = .request)
  | stray (hk : f.kind.isTerminal = true) (free : c.correlator.pending.contains f.sequence = false)
  | misfit {e} (hk : f.kind = .data) (hb : f.dataBody = .error e)
  | unknown {body} (hk : f.kind = .data) (hb : f.dataBody = .ok body)
      (ht : EventKind.ofTag? body.dt = none)
  | unfit {body kind m} (hk : f.kind = .data) (hb : f.dataBody = .ok body)
      (ht : EventKind.ofTag? body.dt = some kind) (hr : TopicEvent.read kind body.data = .error m)
  | unclaimed {body event} (hk : f.kind = .data) (hb : f.dataBody = .ok body)
      (hd : TopicEvent.decode body.dt body.data = .ok (some event))
      (other : event.kind ≠ .connectionInfo)
      (nobody : ∀ id r, c.routes.find? id = some r → c.handles.contains id = true →
        r.deliver event = none)

/-- Word from the link in use that means nothing to a client: no frame at all, or an idle one. -/
inductive Inert (c : Client) : Step → Prop
  | unreadable {g text e} (hg : c.isCurrent g = true) (hd : Frame.decode c.config text = .error e) :
    Inert c (.message g text)
  | idle {g text f} (hg : c.isCurrent g = true) (hd : Frame.decode c.config text = .ok f)
      (hf : c.Idle f) : Inert c (.message g text)

/-- A run without some of its inert messages. Each of them is inert for the client that takes it. -/
inductive Thins : Client → List Step → List Step → Prop
  | nil {c} : Thins c [] []
  | keep {c s steps left} (rest : Thins (c.step s) steps left) : Thins c (s :: steps) (s :: left)
  | leave {c s steps left} (hs : c.Inert s) (rest : Thins (c.step s) steps left) :
    Thins c (s :: steps) left

/-- The steps of a run, each with the client that takes it. -/
def takers (c : Client) : List Step → List (Client × Step)
  | [] => []
  | s :: rest => (c, s) :: (c.step s).takers rest

/-- What happens apart from the words of the server. -/
def deeds (past : List Event) : List Event :=
  past.filter (!·.isWord)

variable {config : FrameConfig} {c : Client} {past : List Event}

theorem deeds_append (newer past : List Event) : deeds (newer ++ past) = deeds newer ++ deeds past :=
  List.filter_append _ _

theorem deeds_reverse (newer : List Event) : deeds newer.reverse = (deeds newer).reverse :=
  List.filter_reverse

theorem eventOf?_eq_some_iff {f : Frame} {event : TopicEvent} : eventOf? f = some event ↔
    ∃ body, f.dataBody = .ok body ∧ TopicEvent.decode body.dt body.data = .ok (some event) := by
  unfold eventOf?
  cases f.dataBody with
  | error e => simp
  | ok body =>
    cases hd : TopicEvent.decode body.dt body.data with
    | error m => simp [hd]
    | ok found => simp [hd]

/-- Every route has its handle, so an event that nobody takes leaves the routes as they are. -/
theorem route_of_unclaimed (h : Traced config c past) {event : TopicEvent}
    (nobody : ∀ id r, c.routes.find? id = some r → c.handles.contains id = true →
      r.deliver event = none) : c.route event = c := by
  have free : ∀ id r, c.routes.find? id = some r →
      c.handles.contains id = true ∧ r.deliver event = none := by
    intro id r hr
    obtain ⟨s, hs, -⟩ := exists_registered h hr
    have there := traced_handled h hs
    exact ⟨there, nobody id r hr there⟩
  have handles : (c.route event).handles = c.handles := by
    refine Table.ext_find? fun id => ?_
    have unheard : (c.routes.find? id).bind (·.deliver event) = none := by
      cases hr : c.routes.find? id with
      | none => rfl
      | some r => exact (free id r hr).2
    simp only [route, Table.find?_map, unheard]
    exact congrFun Option.map_id _
  have routes : (c.route event).routes = c.routes := by
    refine Table.ext_find? fun id => ?_
    simp only [route, Table.find?_filter]
    cases hr : c.routes.find? id with
    | none => rfl
    | some r => simp [Option.filter, (free id r hr).2]
  have only : c.route event =
      { c with handles := (c.route event).handles, routes := (c.route event).routes } := rfl
  rw [only, handles, routes]

/-- A frame that means nothing does nothing. -/
theorem hears_idle (h : Traced config c past) {g : Nat} {text : String} {link : ActiveLink} {f : Frame}
    (heard : c.heard? g text = some (link, f)) (hf : c.Idle f) :
    c.message g text = c ∧ deeds (c.hearing link f) = [] := by
  obtain ⟨-, -, -, hm⟩ := message_of_heard heard
  have mute : f.kind = .data → eventOf? f = none →
      c.message g text = c ∧ deeds (c.hearing link f) = [] := by
    intro hk he
    rw [hm, hearing, hk, he]
    exact ⟨rfl, rfl⟩
  cases hf with
  | request hk =>
    rw [hm, hearing, hk]
    exact ⟨rfl, rfl⟩
  | stray hk free =>
    have stays : c.complete link.generation f.sequence (answerOf f) = c := by
      have none : c.correlator.pending.find? f.sequence = none := by simpa [Table.contains] using free
      simp [complete, Correlator.take, none]
    rw [hm, hearing]
    cases hf : f.kind with
    | reply | exception => exact ⟨stays, rfl⟩
    | request | data =>
      rw [hf] at hk
      cases hk
  | misfit hk hb => exact mute hk (by simp [eventOf?, hb])
  | unknown hk hb ht => exact mute hk (by simp [eventOf?, hb, TopicEvent.decode, ht])
  | unfit hk hb ht hr => exact mute hk (by simp [eventOf?, hb, TopicEvent.decode, ht, hr, Except.map])
  | @unclaimed body event hk hb hd other nobody =>
    have he : eventOf? f = some event := eventOf?_eq_some_iff.mpr ⟨body, hb, hd⟩
    have stays := route_of_unclaimed h nobody
    rw [hm, hearing, hk, he]
    cases event with
    | connectionInfo info => exact absurd rfl other
    | _ => exact ⟨stays, rfl⟩

theorem step_of_inert (h : Traced config c past) {s : Step} (hs : c.Inert s) :
    c.step s = c ∧ deeds (c.events s) = [] := by
  cases hs with
  | @unreadable g text e hg hd =>
    obtain ⟨link, hl, rfl⟩ := isCurrent_iff.mp hg
    have unheard : c.heard? link.generation text = none := by simp [heard?, hl, hd]
    exact ⟨message_of_unheard unheard, by simp [events, unheard, deeds]⟩
  | @idle g text f hg hd hf =>
    obtain ⟨link, hl, rfl⟩ := isCurrent_iff.mp hg
    have heard := heard_of_link hl hd
    obtain ⟨stays, silent⟩ := hears_idle h heard hf
    exact ⟨stays, by simpa only [events, heard] using silent⟩

theorem run_of_thins {steps left : List Step} (h : Traced config c past) (thin : Thins c steps left) :
    c.run left = c.run steps ∧ (c.takers left).Sublist (c.takers steps) ∧
      ∀ before, deeds before = deeds past →
        deeds (c.recount before left) = deeds (c.recount past steps) := by
  induction thin generalizing past with
  | nil => exact ⟨rfl, .slnil, fun _ same => same⟩
  | @keep c s steps left _ ih =>
    obtain ⟨ends, takes, tells⟩ := ih (lasting_step (lasting_traced config) h s)
    refine ⟨ends, takes.cons_cons _, fun before same => tells _ ?_⟩
    rw [deeds_append, deeds_append, same]
  | @leave c s steps left hs _ ih =>
    obtain ⟨stays, silent⟩ := step_of_inert h hs
    obtain ⟨ends, takes, tells⟩ := ih (lasting_step (lasting_traced config) h s)
    rw [stays] at ends takes tells
    have quiet : deeds ((c.events s).reverse ++ past) = deeds past := by
      rw [deeds_append, deeds_reverse, silent]
      rfl
    refine ⟨?_, ?_, fun before same => ?_⟩
    · rw [ends]
      simp [run, stays]
    · rw [takers, stays]
      exact takes.cons _
    · rw [recount, stays]
      exact tells before (same.trans quiet.symm)

/-- The body of a terminal frame does not fit its kind. -/
def Misfits (f : Frame) (e : FrameError) : Prop :=
  f.kind = .reply ∧ f.replyBody = .error e ∨ f.kind = .exception ∧ f.exceptionBody = .error e

theorem answerOf_of_misfits {f : Frame} {e : FrameError} (h : Misfits f e) :
    answerOf f = .error (.frame e) := by
  rcases h with ⟨hk, he⟩ | ⟨hk, he⟩
  · rw [answerOf_reply hk, replyOf, he]
    rfl
  · rw [answerOf_exception hk, failureOf, he]

/-- How an error ends what a request was for: the call fails, if its caller has not left, and a
subscription that was to be restored is over. -/
def EndsIn (c after : Client) (sequence : Nat) (e : ClientError) : Purpose → Prop
  | .request | .subscribe _ _ =>
    c.calls.contains sequence = true → (after.collect sequence).2 = some (.error e)
  | .replay id _ =>
    c.registry.contains id = true → after.routes.find? id = none ∧ after.registry.find? id = none ∧
      queueIn after.handles id = queueIn c.handles id ++ [.error e]

/-- What a terminal frame does to the request that waits for it. It never leaves the request waiting. -/
structure Answers (c after : Client) (f : Frame) (p : Pending Purpose) : Prop where
  taken : after.correlator = c.correlator.without f.sequence
  gone : after.correlator.pending.contains f.sequence = false
  failed : ∀ e, answerOf f = .error e → EndsIn c after f.sequence e p.purpose
  misfit : ∀ e, Misfits f e → EndsIn c after f.sequence (.frame e) p.purpose

section

variable {g : Nat} {f : Frame} {p : Pending Purpose} {after : Client}

theorem collect_of_failed (h : Traced config c past)
    (hn : Happens past c (.terminal g f) after)
    (hp : c.correlator.pending.find? f.sequence = some p) (call : p.purpose.isCall = true)
    {e : ClientError} (he : outcomeOf p.purpose (.answered f) = .error e)
    (there : c.calls.contains f.sequence = true) : (after.collect f.sequence).2 = some (.error e) := by
  obtain ⟨found, hc⟩ := Option.isSome_iff_exists.mp there
  have settled := find?_calls_of_terminal (s := f.sequence) hn h
  simp only [hp, call, and_self, if_true, hc, Option.map_some, he] at settled
  exact collect_of_outcome settled

theorem over_of_failed (h : Traced config c past)
    (hn : Happens past c (.terminal g f) after)
    (hp : c.correlator.pending.find? f.sequence = some p) {id : Nat} {topic : Topic}
    (hq : p.purpose = .replay id topic) {e : ClientError} (he : answerTo topic f = .error e)
    (there : c.registry.contains id = true) : after.routes.find? id = none ∧
      after.registry.find? id = none ∧ queueIn after.handles id = queueIn c.handles id ++ [.error e] := by
  obtain ⟨s, hs⟩ := Option.isSome_iff_exists.mp there
  obtain ⟨r, hr, -⟩ := exists_routed h hs
  obtain ⟨handle, hh⟩ := Option.isSome_iff_exists.mp (traced_handled h hs)
  have routed : c.routes.contains id = true := by rw [Table.contains, hr]; rfl
  cases hn with
  | stray hl free => cases hp.symm.trans free
  | replied hl found call =>
    cases hp.symm.trans found
    simp [hq, Purpose.isCall] at call
  | granted hl found ho | late hl found ho =>
    cases hp.symm.trans found
    cases hq.symm.trans ho
  | lapsed hl found ho gone =>
    cases hp.symm.trans found
    cases hq.symm.trans ho
    cases there.symm.trans gone
  | restored hl found ho _ ha =>
    cases hp.symm.trans found
    cases hq.symm.trans ho
    cases he.symm.trans ha
  | failed hl found ho _ ha =>
    cases hp.symm.trans found
    cases hq.symm.trans ho
    cases he.symm.trans ha
    refine ⟨?_, ?_, ?_⟩
    · rw [Table.find?_erase, if_pos rfl]
    · rw [Table.find?_erase, if_pos rfl]
    · rw [queueIn_ended_of_find hh, if_pos ⟨rfl, routed⟩]

theorem endsIn_of_failed (h : Traced config c past)
    (hn : Happens past c (.terminal g f) after)
    (hp : c.correlator.pending.find? f.sequence = some p) {e : ClientError}
    (he : answerOf f = .error e) : EndsIn c after f.sequence e p.purpose := by
  have told : ∀ topic, answerTo topic f = .error e := fun topic => by rw [answerTo, he]; rfl
  cases hq : p.purpose with
  | request =>
    refine collect_of_failed h hn hp (by rw [hq]; rfl) ?_
    rw [hq, outcomeOf, he]
    rfl
  | subscribe id topic =>
    refine collect_of_failed h hn hp (by rw [hq]; rfl) ?_
    rw [hq, outcomeOf, told]
    rfl
  | replay id topic => exact over_of_failed h hn hp hq (told topic)

theorem answers_of_pending (h : Traced config c past)
    (hn : Happens past c (.terminal g f) after)
    (hp : c.correlator.pending.find? f.sequence = some p) : Answers c after f p := by
  have taken := correlator_of_terminal hn
  refine ⟨taken, ?_, fun e he => endsIn_of_failed h hn hp he,
    fun e he => endsIn_of_failed h hn hp (answerOf_of_misfits he)⟩
  rw [taken, Table.contains, Correlator.find?_without, if_pos rfl]
  rfl

end

/-- In every run, words that mean nothing change nothing, so that a run without some of them ends in the
same client, and each of its other steps meets the same client and does the same; and the answer to a
request that waits always takes the request away, however bad it is. -/
theorem inert_messages_ignored (config : FrameConfig) (steps : List Step) :
    (∀ s, ((fresh config).run steps).Inert s →
      ((fresh config).run steps).step s = (fresh config).run steps) ∧
    (∀ left, Thins (fresh config) steps left →
      (fresh config).run left = (fresh config).run steps ∧
      ((fresh config).takers left).Sublist ((fresh config).takers steps) ∧
      deeds (history config left) = deeds (history config steps)) ∧
    ∀ g text f p, ((fresh config).run steps).isCurrent g = true → Frame.decode config text = .ok f →
      f.kind.isTerminal = true →
      ((fresh config).run steps).correlator.pending.find? f.sequence = some p →
      Answers ((fresh config).run steps) (((fresh config).run steps).message g text) f p := by
  have h := traced_run config steps
  refine ⟨fun s hs => (step_of_inert h hs).1, fun left thin => ?_, ?_⟩
  · have begun : Traced config (fresh config) [] := .start
    obtain ⟨ends, takes, tells⟩ := run_of_thins begun thin
    exact ⟨ends, takes, tells [] rfl⟩
  · intro g text f p hg hd hk hp
    obtain ⟨link, hl, rfl⟩ := isCurrent_iff.mp hg
    rw [← traced_config h] at hd
    rw [message_of_terminal hl hd hk]
    exact answers_of_pending h (happens_complete hl) hp

/-- While a request waits, its link brings a text that is no frame, an answer to nothing, and a push
that nobody is subscribed to. -/
def distracted : List Step :=
  [.attach none, .subscribe .events, .message 1 "[1,2", .message 1 "[1,3,7,\x7b\x7d]",
    .message 1 "[1,4,0,\x7b\"dt\":\"TIME_INFO\",\"data\":\x7b\x7d\x7d]"]

/-- The request is answered all the same, here by a reply whose body is none. -/
theorem distracted_ignored :
    (fresh {}).run [.attach none, .subscribe .events] = (fresh {}).run distracted ∧
      Answers ((fresh {}).run distracted)
        (((fresh {}).run distracted).message 1 "[1,2,1,\x7b\"dt\":5\x7d]")
        ⟨1, .reply, 1, .object [("dt", .number (.int 5))]⟩ ⟨1, 1, .subscribe 1 .events⟩ := by
  have ignored := inert_messages_ignored {} distracted
  have nobody : ∀ id r, ((fresh {}).run (distracted.take 4)).routes.find? id = some r →
      ((fresh {}).run (distracted.take 4)).handles.contains id = true →
      r.deliver (.time ⟨none, []⟩) = none := by
    have empty : ((fresh {}).run (distracted.take 4)).routes = .empty := by decide +kernel
    simp [empty]
  have early : ((fresh {}).run (distracted.take 2)).Inert (.message 1 "[1,2") :=
    .unreadable (e := .json (.text .truncated)) (by decide +kernel) (by decide +kernel)
  have answer : ((fresh {}).run (distracted.take 3)).Inert (.message 1 "[1,3,7,\x7b\x7d]") :=
    .idle (f := ⟨1, .exception, 7, .object []⟩) (by decide +kernel) (by decide +kernel)
      (.stray rfl (by decide +kernel))
  have fits : Frame.dataBody ⟨1, .data, 0, .object [("dt", .string "TIME_INFO"), ("data", .object [])]⟩ =
      .ok ⟨"TIME_INFO", .object []⟩ := by decide +kernel
  have push : ((fresh {}).run (distracted.take 4)).Inert
      (.message 1 "[1,4,0,\x7b\"dt\":\"TIME_INFO\",\"data\":\x7b\x7d\x7d]") :=
    .idle (by decide +kernel) (by decide +kernel)
      (.unclaimed rfl fits (by decide +kernel) (by decide +kernel) nobody)
  have thin : Thins (fresh {}) distracted [.attach none, .subscribe .events] :=
    .keep (.keep (.leave early (.leave answer (.leave push .nil))))
  exact ⟨(ignored.2.1 _ thin).1, ignored.2.2 1 _ _ _ (by decide +kernel) (by decide +kernel) rfl
    (by decide +kernel)⟩

end Telemux.Client
