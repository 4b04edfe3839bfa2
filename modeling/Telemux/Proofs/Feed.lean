import Telemux.Proofs.Live

namespace Telemux

/-- What a subscription hears: that it is made, that its replay succeeds or fails, that it is given up,
that a link goes, and what the server pushes. -/
inductive Word where
  | made (topic : Topic) (reply : InitialReply)
  | restored (reply : InitialReply)
  | failed (e : ClientError)
  | ended
  | lost
  | pushed (event : TopicEvent)
  deriving DecidableEq

/-- What the answer to a replay tells. -/
def Word.ofReplay : Except ClientError InitialReply → Word
  | .ok reply => .restored reply
  | .error e => .failed e

theorem Word.ofReplay_ne_made (answer : Except ClientError InitialReply) (topic : Topic)
    (reply : InitialReply) : ofReplay answer ≠ .made topic reply := by
  cases answer <;> nofun

/-- A stream on its own: where its pushes go, the events it has got, and the error that it ended with. -/
structure Feed where
  route : Option Route := none
  events : List TopicEvent := []
  failure : Option ClientError := none
  deriving DecidableEq

namespace Feed

def hear (f : Feed) : Word → Feed
  | .made topic reply => { f with route := some ⟨topic, some (Client.bindingOf reply)⟩ }
  | .restored reply =>
    { f with route := f.route.map fun r => { r with binding := some (Client.bindingOf reply) } }
  | .failed e => if f.route.isSome then { f with route := none, failure := some e } else f
  | .ended => { f with route := none }
  | .lost => { f with route := f.route.map fun r => { r with binding := none } }
  | .pushed event => { f with events := f.events ++ (f.route.bind (·.deliver event)).toList }

/-- The stream of a subscription that has heard some words, latest first. -/
def ofWords : List Word → Feed
  | [] => {}
  | w :: ws => (ofWords ws).hear w

/-- The events, and behind them the error if there is one. -/
def items (f : Feed) : List Item :=
  f.events.map .ok ++ f.failure.toList.map .error

/-- What a word puts on the stream. -/
def gain (f : Feed) : Word → List Item
  | .pushed event => ((f.route.bind (·.deliver event)).toList).map .ok
  | .failed e => if f.route.isSome then [.error e] else []
  | _ => []

theorem items_hear {f : Feed} (running : f.route.isSome = true → f.failure = none) (w : Word) :
    (f.hear w).items = f.items ++ f.gain w := by
  cases w with
  | failed e =>
    cases hr : f.route with
    | none => simp [hear, gain, hr]
    | some r =>
      have on := running (by rw [hr]; rfl)
      simp [hear, gain, items, hr, on]
  | pushed event =>
    cases hr : f.route with
    | none => simp [hear, gain, items, hr]
    | some r =>
      have on := running (by rw [hr]; rfl)
      simp [hear, gain, items, hr, on]
  | _ => exact (List.append_nil _).symm

theorem gain_closed {f : Feed} (h : f.route = none) (w : Word) : f.gain w = [] := by
  cases w <;> simp [gain, h]

/-- A stream without a route gets nothing more, unless it is made. -/
theorem hear_closed {f : Feed} (h : f.route = none) {w : Word}
    (other : ∀ topic reply, w ≠ .made topic reply) : f.hear w = f := by
  obtain ⟨route, events, failure⟩ := f
  cases h
  cases w with
  | made topic reply => exact absurd rfl (other topic reply)
  | _ => simp [hear]

theorem route_hear_failed (f : Feed) (e : ClientError) : (f.hear (.failed e)).route = none := by
  cases hr : f.route <;> simp [hear, hr]

end Feed

namespace Client

/-- What the answer to a request tells a subscription. A call whose caller has left makes none. -/
def answerWord? (id : Nat) (past : List Event) (f : Frame) (p : Pending Purpose) : Option Word :=
  match p.purpose with
  | .request => none
  | .subscribe k topic =>
    if k = id ∧ .cancelled p.sequence ∉ past then (answerTo topic f).toOption.map (.made topic) else none
  | .replay k topic => if k = id then some (.ofReplay (answerTo topic f)) else none

/-- What a subscription hears of an event. Other subscriptions have no part in it. -/
def word? (id : Nat) (past : List Event) : Event → Option Word
  | .lost _ => some .lost
  | .shut => some .ended
  | .unsent k e => if k = id then some (.failed e) else none
  | .terminal generation f => (answered past generation f).bind (answerWord? id past f)
  | .pushed _ event => some (.pushed event)
  | .cancelled s =>
    if ∃ p ∈ requests past, p.sequence = s ∧ p.purpose.handle? = some id then some .ended else none
  | .detached k => if k = id then some .ended else none
  | _ => none

/-- All that a subscription has heard, latest first. -/
def words (id : Nat) : List Event → List Word
  | [] => []
  | e :: past => (word? id past e).toList ++ words id past

def feed (id : Nat) (past : List Event) : Feed :=
  .ofWords (words id past)

/-- The items that have been taken from a stream, first one first. -/
def taken (id : Nat) : List Event → List Item
  | [] => []
  | .received k item :: past => if k = id then taken id past ++ [item] else taken id past
  | _ :: past => taken id past

variable {config : FrameConfig} {c : Client} {past : List Event} {id : Nat}

theorem feed_cons_of_none {e : Event} (h : word? id past e = none) : feed id (e :: past) = feed id past := by
  rw [feed, words, h]
  rfl

theorem feed_cons_of_some {e : Event} {w : Word} (h : word? id past e = some w) :
    feed id (e :: past) = (feed id past).hear w := by
  rw [feed, words, h]
  rfl

theorem deliver_connectionInfo (r : Route) (info : ConnectionInfo) :
    r.deliver (.connectionInfo info) = none := by
  unfold Route.deliver
  cases r.topic <;> rfl

section

variable {link : ActiveLink} {f : Frame} {p : Pending Purpose}

theorem word?_stray (h : Traced config c past) (hl : c.link = some link)
    (hp : c.correlator.pending.find? f.sequence = none) :
    word? id past (.terminal link.generation f) = none := by
  rw [← traced_answered h hl] at hp
  simp [word?, hp]

theorem word?_answer (h : Traced config c past) (hl : c.link = some link)
    (hp : c.correlator.pending.find? f.sequence = some p) :
    word? id past (.terminal link.generation f) = answerWord? id past f p := by
  rw [← traced_answered h hl] at hp
  simp [word?, hp]

theorem word?_replied (h : Traced config c past) (hl : c.link = some link)
    (hp : c.correlator.pending.find? f.sequence = some p) (call : p.purpose.isCall = true)
    (fails : ∀ k topic, p.purpose = .subscribe k topic → ∃ e, answerTo topic f = .error e) :
    word? id past (.terminal link.generation f) = none := by
  rw [word?_answer h hl hp, answerWord?]
  cases hq : p.purpose with
  | request => rfl
  | subscribe k topic =>
    obtain ⟨e, he⟩ := fails k topic hq
    simp [he, Except.toOption]
  | replay k topic => simp [hq, Purpose.isCall] at call

theorem word?_granted (h : Traced config c past) (id : Nat) (hl : c.link = some link)
    (hp : c.correlator.pending.find? f.sequence = some p) {k : Nat} {topic : Topic} {reply : InitialReply}
    (hq : p.purpose = .subscribe k topic) (ha : answerTo topic f = .ok reply)
    (there : c.calls.contains p.sequence = true) :
    word? id past (.terminal link.generation f) = if k = id then some (.made topic reply) else none := by
  have waits := ((traced_waiting h).mp hp).1
  have stayed := (traced_call_there h waits (by rw [hq]; rfl)).mp there
  rw [word?_answer h hl hp]
  simp [answerWord?, hq, stayed, ha, Except.toOption]

theorem word?_late (h : Traced config c past) (hl : c.link = some link)
    (hp : c.correlator.pending.find? f.sequence = some p) {k : Nat} {topic : Topic}
    (hq : p.purpose = .subscribe k topic) (gone : c.calls.contains p.sequence = false) :
    word? id past (.terminal link.generation f) = none := by
  have waits := ((traced_waiting h).mp hp).1
  have there := traced_call_there h waits (by rw [hq]; rfl)
  have left : .cancelled p.sequence ∈ past := by
    rw [gone] at there
    simpa using there
  rw [word?_answer h hl hp]
  simp [answerWord?, hq, left]

theorem word?_replay (h : Traced config c past) (id : Nat) (hl : c.link = some link)
    (hp : c.correlator.pending.find? f.sequence = some p) {k : Nat} {topic : Topic}
    (hq : p.purpose = .replay k topic) :
    word? id past (.terminal link.generation f) =
      if k = id then some (.ofReplay (answerTo topic f)) else none := by
  rw [word?_answer h hl hp]
  simp [answerWord?, hq]

theorem word?_cancelled (h : Traced config c past) {s : Nat} {call : Call}
    (hs : c.calls.find? s = some call) :
    word? id past (.cancelled s) = if call.handle = some id then some .ended else none := by
  have own : (∃ p ∈ requests past, p.sequence = s ∧ p.purpose.handle? = some id) ↔
      call.handle = some id := ends_cancelled_iff h hs
  simp only [word?, own]

/-- A terminal frame tells a subscription something only if it answers a request of its own. -/
theorem answered_of_word {g : Nat} {w : Word} (h : word? id past (.terminal g f) = some w) :
    ∃ p topic, answered past g f = some p ∧
      ((p.purpose = .subscribe id topic ∧ ∃ reply, w = .made topic reply) ∨
        p.purpose = .replay id topic ∧ w = .ofReplay (answerTo topic f)) := by
  obtain ⟨p, hp, h⟩ := Option.bind_eq_some_iff.mp h
  unfold answerWord? at h
  split at h
  next => cases h
  next k topic hq =>
    split at h
    next own =>
      obtain ⟨reply, -, rfl⟩ := Option.map_eq_some_iff.mp h
      exact ⟨p, topic, hp, Or.inl ⟨own.1 ▸ hq, reply, rfl⟩⟩
    next => cases h
  next k topic hq =>
    split at h
    next hk =>
      cases h
      exact ⟨p, topic, hp, Or.inr ⟨hk ▸ hq, rfl⟩⟩
    next => cases h

/-- Only the answer to its subscribe call makes a subscription. -/
theorem answered_of_made {e : Event} {topic : Topic} {reply : InitialReply}
    (h : word? id past e = some (.made topic reply)) :
    ∃ g f p, e = .terminal g f ∧ answered past g f = some p ∧ p.purpose = .subscribe id topic := by
  cases e with
  | terminal g f =>
    obtain ⟨p, t, hp, ⟨hq, r, he⟩ | ⟨-, he⟩⟩ := answered_of_word h
    · cases he
      exact ⟨g, f, p, rfl, hp, hq⟩
    · exact absurd he.symm (Word.ofReplay_ne_made _ _ _)
  | unsent | detached | cancelled => simp [word?] at h
  | _ => cases h

end

/-- What happens makes a subscription heard of only after its request has been answered. -/
theorem exists_answered_of_feed (h : Traced config c past) (hf : feed id past ≠ {}) :
    ∃ p ∈ requests past, (∃ t, p.purpose = .subscribe id t) ∧ p ∉ waiting past := by
  induction past generalizing c with
  | nil => exact absurd rfl hf
  | cons e past ih =>
    obtain ⟨before, _, ht, _⟩ := traced_cons h
    have later : feed id past ≠ {} →
        ∃ p ∈ requests (e :: past), (∃ t, p.purpose = .subscribe id t) ∧ p ∉ waiting (e :: past) := by
      intro old
      obtain ⟨p, hp, hq, hw⟩ := ih ht old
      have stays : p ∉ waiting ([e] ++ past) := not_waiting_later h hp hw
      exact ⟨p, mem_requests_cons e hp, hq, stays⟩
    cases hw : word? id past e with
    | none =>
      rw [feed_cons_of_none hw] at hf
      exact later hf
    | some w =>
      rw [feed_cons_of_some hw] at hf
      by_cases made : ∃ topic reply, w = .made topic reply
      · obtain ⟨topic, reply, rfl⟩ := made
        obtain ⟨g, f, p, rfl, ha, hq⟩ := answered_of_made hw
        have asked : p ∈ requests past := waiting_subset_requests (List.mem_of_find?_eq_some ha)
        exact ⟨p, mem_requests_cons _ asked, ⟨topic, hq⟩, not_waiting_of_answered ha⟩
      · refine later fun empty => hf ?_
        rw [empty]
        exact Feed.hear_closed rfl fun topic reply he => made ⟨topic, reply, he⟩

theorem feed_of_waiting (h : Traced config c past) {p : Pending Purpose} {t : Topic}
    (hp : p ∈ waiting past) (hq : p.purpose = .subscribe id t) : feed id past = {} := by
  refine Classical.byContradiction fun hf => ?_
  obtain ⟨q, hm, ⟨u, ho⟩, hw⟩ := exists_answered_of_feed h hf
  have same := eq_of_subscribe h hm (waiting_subset_requests hp) ho hq
  exact hw (same ▸ hp)

/-- An error is the last thing that a stream gets. -/
theorem feed_open (h : Traced config c past) (hr : (feed id past).route.isSome = true) :
    (feed id past).failure = none := by
  induction past generalizing c with
  | nil => rfl
  | cons e past ih =>
    obtain ⟨before, _, ht, _⟩ := traced_cons h
    cases hw : word? id past e with
    | none =>
      rw [feed_cons_of_none hw] at hr ⊢
      exact ih ht hr
    | some w =>
      rw [feed_cons_of_some hw] at hr ⊢
      cases w with
      | made topic reply =>
        obtain ⟨g, f, p, rfl, ha, hq⟩ := answered_of_made hw
        rw [feed_of_waiting ht (List.mem_of_find?_eq_some ha) hq]
        rfl
      | restored | lost =>
        refine ih ht ?_
        simpa [Feed.hear] using hr
      | failed e =>
        cases ho : (feed id past).route with
        | none => simp [Feed.hear, ho] at hr
        | some r => simp [Feed.hear, ho] at hr
      | ended => cases hr
      | pushed event => exact ih ht hr

/-- The routes of a client are those of its streams. -/
theorem traced_feed_route (h : Traced config c past) (id : Nat) :
    (feed id past).route = c.routes.find? id := by
  induction h with
  | start => rfl
  | skip _ ih => exact ih
  | refuse _ _ _ ih => exact ih
  | @next c past e after ht hn ih =>
    have quiet : word? id past e = none → (feed id (e :: past)).route = c.routes.find? id := by
      intro hw
      rw [feed_cons_of_none hw]
      exact ih
    have erased : ∀ {k w}, word? id past e = (if k = id then some w else none) →
        ((feed id past).hear w).route = none →
        (feed id (e :: past)).route = (c.routes.erase k).find? id := by
      intro k w hw hr
      rw [Table.find?_erase]
      split at hw
      next hk =>
        rw [if_pos hk.symm, feed_cons_of_some hw]
        exact hr
      next hk =>
        rw [if_neg (Ne.symm hk)]
        exact quiet hw
    -- Where there is nothing to erase, the stream hears of nothing.
    have absent : ∀ {k}, word? id past e = none → c.routes.find? k = none →
        (feed id (e :: past)).route = (c.routes.erase k).find? id := by
      intro k hw hk
      rw [Table.find?_erase, quiet hw]
      split
      next he => rw [he, hk]
      next => rfl
    cases hn with
    | lost hl =>
      rw [feed_cons_of_some rfl, Table.find?_map]
      show Option.map _ _ = _
      rw [ih]
    | shut hc =>
      rw [feed_cons_of_some rfl]
      rfl
    | unsent hl hid hg he => exact erased rfl (Feed.route_hear_failed _ _)
    | stray hl hp => exact quiet (word?_stray ht hl hp)
    | replied hl hp call fails => exact quiet (word?_replied ht hl hp call fails)
    | @granted link f p k topic reply hl hp hq ha there =>
      have word := word?_granted ht id hl hp hq ha there
      rw [Table.find?_insert]
      by_cases hk : id = k
      · rw [if_pos hk.symm] at word
        rw [if_pos hk, feed_cons_of_some word]
        rfl
      · rw [if_neg (Ne.symm hk)] at word
        rw [if_neg hk]
        exact quiet word
    | late hl hp hq ha gone =>
      have unmade := traced_unmade ht ((traced_waiting ht).mp hp).1 hq
      exact absent (word?_late ht hl hp hq gone) (unrouted_of_unregistered ht unmade)
    | @lapsed link f p k topic hl hp hq gone =>
      have word := word?_replay ht id hl hp hq
      by_cases hk : k = id
      · have unregistered : c.registry.find? id = none := by simpa [Table.contains, hk] using gone
        have closed := ih.trans (unrouted_of_unregistered ht unregistered)
        rw [if_pos hk] at word
        rw [feed_cons_of_some word, Feed.hear_closed closed (Word.ofReplay_ne_made _)]
        exact ih
      · rw [if_neg hk] at word
        exact quiet word
    | failed hl hp hq there ha =>
      have word := word?_replay ht id hl hp hq
      rw [ha] at word
      exact erased word (Feed.route_hear_failed _ _)
    | @restored link f p k topic reply hl hp hq there ha =>
      have word := word?_replay ht id hl hp hq
      rw [ha] at word
      rw [Table.find?_adjust]
      by_cases hk : id = k
      · rw [if_pos hk.symm] at word
        rw [if_pos hk, feed_cons_of_some word]
        show Option.map _ _ = _
        rw [ih]
      · rw [if_neg (Ne.symm hk)] at word
        rw [if_neg hk]
        exact quiet word
    | greeted | informed =>
      rw [feed_cons_of_some rfl]
      exact ih
    | @pushed link event hl he =>
      -- Every route has its handle, so none of them goes away.
      rw [feed_cons_of_some rfl]
      show (feed id past).route = _
      simp only [route, Table.find?_filter, ih]
      cases hr : c.routes.find? id with
      | none => rfl
      | some r =>
        obtain ⟨s, hs, -⟩ := exists_registered ht hr
        simp [Option.filter, traced_handled ht hs]
    | cancelled hs hn =>
      apply quiet
      rw [word?_cancelled ht hs, hn]
      rfl
    | @abandoned s call k hs hn =>
      apply erased (w := .ended)
      · rw [word?_cancelled ht hs, hn]
        simp
      · rfl
    | denied hs => exact absent rfl (unrouted_of_unregistered ht (traced_denied ht hs))
    | unsubscribed hh | dropped hh => exact erased rfl rfl
    | _ => exact quiet rfl

end Client

end Telemux
