import Telemux.Proofs.Delivery
import Telemux.Proofs.Feed
import Telemux.Proofs.Interruption

namespace Telemux.Client

variable {config : FrameConfig} {c : Client} {past : List Event} {id : Nat}

/-- What an event puts on the stream of a subscription. -/
def gained (id : Nat) (past : List Event) (e : Event) : List Item :=
  ((word? id past e).map (feed id past).gain).getD []

theorem gained_of_none {e : Event} (h : word? id past e = none) : gained id past e = [] := by
  rw [gained, h]
  rfl

theorem gained_of_some {e : Event} {w : Word} (h : word? id past e = some w) :
    gained id past e = (feed id past).gain w := by
  rw [gained, h]
  rfl

theorem gained_of_silent {e : Event} {w : Word} {own : Prop} [Decidable own]
    (h : word? id past e = if own then some w else none) (silent : (feed id past).gain w = []) :
    gained id past e = [] := by
  split at h
  next =>
    rw [gained_of_some h]
    exact silent
  next => exact gained_of_none h

theorem items_cons (h : Traced config c past) (e : Event) :
    (feed id (e :: past)).items = (feed id past).items ++ gained id past e := by
  cases hw : word? id past e with
  | none =>
    rw [feed_cons_of_none hw, gained_of_none hw]
    exact (List.append_nil _).symm
  | some w =>
    rw [feed_cons_of_some hw, gained_of_some hw]
    exact Feed.items_hear (feed_open h) w

theorem gained_of_failed (h : Traced config c past) {e : Event} {k : Nat} {err : ClientError}
    (hw : word? id past e = if k = id then some (.failed err) else none) :
    gained id past e = if k = id ∧ c.routes.contains id = true then [.error err] else [] := by
  have route := traced_feed_route h id
  by_cases hk : k = id
  · rw [if_pos hk] at hw
    rw [gained_of_some hw]
    simp [Feed.gain, route, Table.contains, hk]
  · rw [if_neg hk] at hw
    rw [gained_of_none hw]
    simp [hk]

theorem gained_of_closed (h : (feed id past).route = none) (e : Event) : gained id past e = [] := by
  cases hw : word? id past e with
  | none => exact gained_of_none hw
  | some w =>
    rw [gained_of_some hw]
    exact Feed.gain_closed h w

theorem gained_of_info (g : Nat) (info : ConnectionInfo) :
    gained id past (.pushed g (.connectionInfo info)) = [] := by
  rw [gained_of_some rfl]
  cases hr : (feed id past).route with
  | none => simp [Feed.gain, hr]
  | some r => simp [Feed.gain, hr, deliver_connectionInfo]

/-- As long as a handle is there, what happens puts behind its queue what the stream gets, and takes
from its front what its holder takes. -/
theorem queue_gains (h : Traced config c past) {e : Event} {after : Client} (hn : Happens past c e after)
    {old : Handle} (hh : c.handles.find? id = some old) (there : after.handles.contains id = true) :
    taken id (e :: past) ++ queueIn after.handles id =
      taken id past ++ queueIn c.handles id ++ gained id past e := by
  have kept : taken id (e :: past) = taken id past → queueIn after.handles id = queueIn c.handles id →
      gained id past e = [] → taken id (e :: past) ++ queueIn after.handles id =
        taken id past ++ queueIn c.handles id ++ gained id past e := by
    intro ht hq hg
    rw [ht, hq, hg, List.append_nil]
  have ended : ∀ {k err}, taken id (e :: past) = taken id past →
      after.handles = (if c.routes.contains k then
        c.handles.adjust k fun h => { h with queue := h.queue ++ [.error err] } else c.handles) →
      word? id past e = (if k = id then some (.failed err) else none) →
      taken id (e :: past) ++ queueIn after.handles id =
        taken id past ++ queueIn c.handles id ++ gained id past e := by
    intro k err ht hq hw
    rw [ht, hq, queueIn_ended_of_find hh, gained_of_failed h hw, List.append_assoc]
  cases hn with
  | lost hl => exact kept rfl (queueIn_map _ (fun k h => by split <;> rfl) id) rfl
  | subscribed hs =>
    obtain ⟨p, hp, hq⟩ := traced_handle_request h hh
    have below := traced_id_lt h hp hq
    have apart : id ≠ c.nextId := by omega
    apply kept rfl _ rfl
    rw [queueIn, Table.find?_insert, if_neg apart]
    rfl
  | unsent hl hid hg he => exact ended rfl rfl rfl
  | stray hl hp => exact kept rfl rfl (gained_of_none (word?_stray h hl hp))
  | replied hl hp call fails => exact kept rfl rfl (gained_of_none (word?_replied h hl hp call fails))
  | granted hl hp hq ha called =>
    apply kept rfl _ (gained_of_silent (word?_granted h id hl hp hq ha called) rfl)
    apply queueIn_adjust
    intro h
    rfl
  | late hl hp hq ha gone => exact kept rfl rfl (gained_of_none (word?_late h hl hp hq gone))
  | @lapsed link f p k topic hl hp hq gone =>
    have word := word?_replay h id hl hp hq
    apply kept rfl rfl
    by_cases hk : k = id
    · have unregistered : c.registry.find? id = none := by simpa [Table.contains, hk] using gone
      have closed := (traced_feed_route h id).trans (unrouted_of_unregistered h unregistered)
      exact gained_of_closed closed _
    · rw [if_neg hk] at word
      exact gained_of_none word
  | failed hl hp hq there ha =>
    have word := word?_replay h id hl hp hq
    rw [ha] at word
    exact ended rfl rfl word
  | restored hl hp hq there ha =>
    have word := word?_replay h id hl hp hq
    rw [ha] at word
    apply kept rfl _ (gained_of_silent word rfl)
    simp only
    split
    next =>
      apply queueIn_adjust
      intro h
      rfl
    next => rfl
  | greeted | informed => exact kept rfl rfl (gained_of_info _ _)
  | @pushed link event hl he =>
    rw [gained_of_some rfl]
    simp only [Feed.gain, traced_feed_route h, route, queueIn, Table.find?_map, hh]
    cases hd : (c.routes.find? id).bind (·.deliver event) with
    | none => simp [taken]
    | some item => simp [taken]
  | cancelled hs hn => exact kept rfl rfl (gained_of_silent (word?_cancelled h hs) rfl)
  | abandoned hs hn =>
    exact kept rfl (queueIn_erase_of_contains there) (gained_of_silent (word?_cancelled h hs) rfl)
  | denied hs => exact kept rfl (queueIn_erase_of_contains there) rfl
  | handed hs =>
    apply kept rfl _ rfl
    apply queueIn_adjust
    intro h
    rfl
  | @received k handle item rest hheld hq =>
    have quiet : gained id past (.received k item) = [] := rfl
    by_cases hk : k = id
    · subst hk
      obtain ⟨found, -⟩ := Option.filter_eq_some_iff.mp hheld
      have before : queueIn c.handles k = item :: rest := (queueIn_of_find found).trans hq
      have after : queueIn (c.handles.adjust k fun h => { h with queue := rest }) k = rest := by
        simp [queueIn, Table.find?_adjust, found]
      rw [quiet, before, after, taken, if_pos rfl]
      simp
    · apply kept _ _ quiet
      · rw [taken, if_neg hk]
      · rw [queueIn, Table.find?_adjust, if_neg (Ne.symm hk)]
        rfl
  | unsubscribed hd => exact kept rfl rfl (gained_of_silent rfl rfl)
  | dropped hd => exact kept rfl (queueIn_erase_of_contains there) (gained_of_silent rfl rfl)
  | _ => exact kept rfl rfl rfl

theorem received_of_taken {item : Item} (h : item ∈ taken id past) : .received id item ∈ past := by
  induction past with
  | nil => cases h
  | cons e past ih =>
    cases e with
    | received k found =>
      rw [taken] at h
      split at h
      next hk =>
        rcases List.mem_append.mp h with old | new
        · exact List.mem_cons_of_mem _ (ih old)
        · rw [List.mem_singleton.mp new, hk]
          exact List.mem_cons_self
      next => exact List.mem_cons_of_mem _ (ih h)
    | _ => exact List.mem_cons_of_mem _ (ih h)

theorem taken_of_new (h : Traced config c past) (new : c.nextId ≤ id) : taken id past = [] := by
  apply List.eq_nil_iff_forall_not_mem.mpr
  intro item hi
  obtain ⟨later, earlier, rfl⟩ := List.append_of_mem (received_of_taken hi)
  obtain ⟨after, ht⟩ := traced_append h
  obtain ⟨before, _, hb, hn⟩ := traced_cons ht
  cases hn with
  | received hheld hq =>
    obtain ⟨found, -⟩ := Option.filter_eq_some_iff.mp hheld
    obtain ⟨p, hp, hpurpose⟩ := traced_handle_request hb found
    have asked := mem_requests_append later (mem_requests_cons (.received id item) hp)
    have below := traced_id_lt h asked hpurpose
    omega

/-- What was taken and what is queued make up the stream. -/
theorem traced_items (h : Traced config c past) {handle : Handle}
    (hh : c.handles.find? id = some handle) : taken id past ++ handle.queue = (feed id past).items := by
  induction h generalizing handle with
  | start => cases hh
  | skip _ ih => exact ih hh
  | refuse _ _ _ ih => exact ih hh
  | @next c past e after ht hn ih =>
    rcases handle_happens hn hh with ⟨old, ho, -⟩ | ⟨-, p, body, rfl, hq⟩
    · have there : after.handles.contains id = true := by rw [Table.contains, hh]; rfl
      have gains := queue_gains ht hn ho there
      rw [queueIn_of_find hh, queueIn_of_find ho, ih ho] at gains
      rw [gains, items_cons ht]
    · have waits : p ∈ waiting (.sent p body :: past) := List.mem_cons_self
      have empty := feed_of_waiting (ht.next hn) waits hq
      cases hn with
      | subscribed hs =>
        cases hq
        have nothing : taken c.nextId past = [] := taken_of_new ht (Nat.le_refl _)
        have unused : handle.queue = [] := by
          rw [Table.find?_insert, if_pos rfl] at hh
          rw [← Option.some.inj hh]
        rw [empty, unused]
        simp [taken, nothing, Feed.items]
      | requested | replayed => cases hq

/-- A stream only ever grows at its end. -/
theorem items_isPrefix {newer : List Event} (h : Traced config c (newer ++ past)) :
    (feed id past).items <+: (feed id (newer ++ past)).items := by
  induction newer generalizing c with
  | nil => exact List.prefix_refl _
  | cons e newer ih =>
    obtain ⟨before, _, hb, _⟩ := traced_cons h
    show _ <+: (feed id (e :: (newer ++ past))).items
    have hb' : Traced config before (newer ++ past) := hb
    rw [items_cons hb']
    exact (ih hb').trans (List.prefix_append _ _)

theorem taken_isPrefix (h : Traced config c past) : taken id past <+: (feed id past).items := by
  induction past generalizing c with
  | nil => exact List.nil_prefix
  | cons e past ih =>
    obtain ⟨before, after, hb, hn⟩ := traced_cons h
    have grows : (feed id past).items <+: (feed id (e :: past)).items :=
      items_isPrefix (show Traced config c ([e] ++ past) from h)
    cases e with
    | received k item =>
      rw [taken]
      split
      next hk =>
        subst hk
        cases hn with
        | @received _ handle item rest hheld hq =>
          obtain ⟨found, -⟩ := Option.filter_eq_some_iff.mp hheld
          have all := traced_items hb found
          rw [hq] at all
          refine List.IsPrefix.trans ⟨rest, ?_⟩ grows
          rw [List.append_assoc]
          exact all
      next => exact (ih hb).trans grows
    | _ => exact (ih hb).trans grows

/-- A replay fails: it cannot be written, or its answer is an error. -/
def ReplayFails (past : List Event) (id : Nat) (err : ClientError) : Event → Prop
  | .unsent k e => k = id ∧ e = err
  | .terminal generation f =>
    ∃ p topic, answered past generation f = some p ∧ p.purpose = .replay id topic ∧
      answerTo topic f = .error err
  | _ => False

theorem word?_failed_iff {e : Event} {err : ClientError} :
    word? id past e = some (.failed err) ↔ ReplayFails past id err e := by
  cases e with
  | terminal g f =>
    constructor
    · intro hw
      obtain ⟨p, topic, hp, ⟨-, reply, he⟩ | ⟨hq, he⟩⟩ := answered_of_word hw
      · cases he
      · cases ha : answerTo topic f with
        | ok reply => simp [ha, Word.ofReplay] at he
        | error found =>
          rw [ha] at he
          cases he
          exact ⟨p, topic, hp, hq, ha⟩
    · rintro ⟨p, topic, hp, hq, ha⟩
      simp [word?, hp, answerWord?, hq, ha, Word.ofReplay]
  | _ => simp [word?, ReplayFails]

theorem word?_of_ends {e : Event} (h : Ends past id e) :
    word? id past e = some .ended ∨ ∃ err, word? id past e = some (.failed err) := by
  cases e with
  | shut => exact Or.inl rfl
  | detached k => exact Or.inl (if_pos h)
  | cancelled s => exact Or.inl (if_pos h)
  | unsent k err => exact Or.inr ⟨err, if_pos h⟩
  | terminal g f =>
    obtain ⟨p, topic, err, hp, hq, ha⟩ := h
    exact Or.inr ⟨err, word?_failed_iff.mpr ⟨p, topic, hp, hq, ha⟩⟩
  | _ => cases h

theorem route_of_ends {e : Event} (h : Ends past id e) : (feed id (e :: past)).route = none := by
  rcases word?_of_ends h with hw | ⟨err, hw⟩
  · rw [feed_cons_of_some hw]
    rfl
  · rw [feed_cons_of_some hw]
    exact Feed.route_hear_failed _ _

/-- A stream that has ended stays as it is. -/
theorem feed_of_ended {newer : List Event} (h : Traced config c (newer ++ past))
    {p : Pending Purpose} {t : Topic} (hp : p ∈ requests past) (hq : p.purpose = .subscribe id t)
    (hw : p ∉ waiting past) (closed : (feed id past).route = none) :
    feed id (newer ++ past) = feed id past := by
  induction newer generalizing c with
  | nil => rfl
  | cons e newer ih =>
    obtain ⟨before, _, hb, _⟩ := traced_cons h
    have same := ih hb
    cases hword : word? id (newer ++ past) e with
    | none =>
      rw [List.cons_append, feed_cons_of_none hword]
      exact same
    | some w =>
      rw [List.cons_append, feed_cons_of_some hword, same]
      apply Feed.hear_closed closed
      rintro topic reply rfl
      obtain ⟨g, f, q, -, ha, ho⟩ := answered_of_made hword
      have waits : q ∈ waiting (newer ++ past) := List.mem_of_find?_eq_some ha
      have one := eq_of_subscribe hb (mem_requests_append newer hp) (waiting_subset_requests waits) hq ho
      exact not_waiting_later hb hp hw (one ▸ waits)

theorem pushed_of_word {e : Event} {event : TopicEvent} (h : word? id past e = some (.pushed event)) :
    ∃ g, e = .pushed g event := by
  cases e with
  | pushed g found =>
    cases h
    exact ⟨g, rfl⟩
  | terminal g f =>
    obtain ⟨p, topic, -, ⟨-, reply, he⟩ | ⟨-, he⟩⟩ := answered_of_word h
    · cases he
    · cases ha : answerTo topic f <;> simp [ha, Word.ofReplay] at he
  | unsent | cancelled | detached => simp [word?] at h
  | _ => cases h

theorem gained_of_quiet {e : Event} (other : ∀ g event, e ≠ .pushed g event)
    (fine : ∀ err, ¬ReplayFails past id err e) : gained id past e = [] := by
  cases hw : word? id past e with
  | none => exact gained_of_none hw
  | some w =>
    rw [gained_of_some hw]
    cases w with
    | failed err => exact absurd (word?_failed_iff.mp hw) (fine err)
    | pushed event =>
      obtain ⟨g, rfl⟩ := pushed_of_word hw
      exact absurd rfl (other g event)
    | _ => rfl

theorem error_mem_gained {e : Event} {err : ClientError} :
    .error err ∈ gained id past e ↔
      (feed id past).route.isSome = true ∧ ReplayFails past id err e := by
  rw [← word?_failed_iff]
  cases hw : word? id past e with
  | none => simp [gained_of_none hw]
  | some w =>
    rw [gained_of_some hw]
    cases w with
    | failed found =>
      cases hr : (feed id past).route with
      | none => simp [Feed.gain, hr]
      | some r => simp [Feed.gain, hr, eq_comm]
    | _ => simp [Feed.gain]

theorem live_iff_feed (h : Traced config c past) (topic : Topic) :
    (feed id past).route.map (·.topic) = some topic ↔ Live id topic past := by
  rw [traced_feed_route h]
  exact routed_iff_live h id topic

theorem error_mem_items (h : Traced config c past) {err : ClientError} :
    .error err ∈ (feed id past).items ↔ ∃ later e earlier topic, past = later ++ e :: earlier ∧
      Live id topic earlier ∧ ReplayFails earlier id err e := by
  constructor
  · intro hm
    induction past generalizing c with
    | nil => cases hm
    | cons e past ih =>
      obtain ⟨before, _, hb, _⟩ := traced_cons h
      rw [items_cons hb] at hm
      rcases List.mem_append.mp hm with old | new
      · obtain ⟨later, e', earlier, topic, rfl, found⟩ := ih hb old
        exact ⟨e :: later, e', earlier, topic, rfl, found⟩
      · obtain ⟨routed, fails⟩ := error_mem_gained.mp new
        obtain ⟨r, hr⟩ := Option.isSome_iff_exists.mp routed
        have live := (live_iff_feed hb r.topic).mp (by rw [hr]; rfl)
        exact ⟨[], e, past, r.topic, rfl, live, fails⟩
  · rintro ⟨later, e, earlier, topic, rfl, live, fails⟩
    obtain ⟨after, ht⟩ := traced_append h
    obtain ⟨before, _, hb, _⟩ := traced_cons ht
    obtain ⟨r, hr, -⟩ := Option.map_eq_some_iff.mp ((live_iff_feed hb topic).mpr live)
    have new : .error err ∈ gained id earlier e := error_mem_gained.mpr ⟨by rw [hr]; rfl, fails⟩
    apply (items_isPrefix h).subset
    rw [items_cons hb]
    exact List.mem_append_right _ new

theorem feed_after_end {later earlier : List Event} {e : Event} {topic : Topic}
    (h : Traced config c (later ++ e :: earlier)) (live : Live id topic earlier)
    (ends : Ends earlier id e) : feed id (later ++ e :: earlier) = feed id (e :: earlier) := by
  obtain ⟨after, ht⟩ := traced_append h
  obtain ⟨before, _, hb, _⟩ := traced_cons ht
  obtain ⟨p, hp, hq, hw⟩ := exists_made_of_live hb live
  have answered : p ∉ waiting ([e] ++ earlier) := not_waiting_later ht hp hw
  exact feed_of_ended h (mem_requests_cons e hp) hq answered (route_of_ends ends)

/-- A link comes or goes. -/
def Step.Reconnects : Step → Prop
  | .attach _ | .linkClosed _ => True
  | _ => False

/-- What a link that comes or goes leaves of a subscription. -/
structure Spares (c after : Client) (id : Nat) : Prop where
  route : (after.routes.find? id).map (·.topic) = (c.routes.find? id).map (·.topic)
  handle : (after.handles.find? id).map (fun h => (h.topic, h.queue, h.held)) =
    (c.handles.find? id).map fun h => (h.topic, h.queue, h.held)

theorem spares_closeLink (c : Client) (g id : Nat) : Spares c (c.closeLink g) id := by
  cases hg : c.isCurrent g with
  | false =>
    rw [closeLink_of_not_current hg]
    exact ⟨rfl, rfl⟩
  | true =>
    obtain ⟨link, hl, rfl⟩ := isCurrent_iff.mp hg
    rw [closeLink_eq hl]
    constructor
    · rw [Table.find?_map, Option.map_map]
      rfl
    · rw [Table.find?_map, Option.map_map]
      apply congrArg (Option.map · _)
      funext h
      simp only [Function.comp]
      split <;> rfl

theorem spares_of_reconnects (c : Client) {s : Step} (h : s.Reconnects) (id : Nat) :
    Spares c (c.step s) id := by
  cases s with
  | linkClosed g => exact spares_closeLink c g id
  | attach room =>
    show Spares c (c.attach room).1 id
    unfold attach
    split
    next => exact ⟨rfl, rfl⟩
    next =>
      split
      next link _ =>
        have spared := spares_closeLink c link.generation id
        exact ⟨spared.route, spared.handle⟩
      next => exact ⟨rfl, rfl⟩
  | _ => cases h

/-- The binding of a live subscription: that of the reply it got last, and none while it is
interrupted. -/
theorem binding_of_feed (h : Traced config c past) {r : Route} (hr : (feed id past).route = some r) :
    ∃ g reply, lastReply id past = some (g, reply) ∧
      (Interrupted id past ∧ r.binding = none ∨
        ¬Interrupted id past ∧ r.binding = some (bindingOf reply)) := by
  rw [traced_feed_route h] at hr
  obtain ⟨s, hs, -⟩ := exists_registered h hr
  obtain ⟨reply, hb⟩ := traced_bound h hs
  have same := hb.route.symm.trans hr
  cases same
  refine ⟨s.generation, reply, hb.last, ?_⟩
  rw [traced_interrupted_iff h hs]
  cases c.isCurrent s.generation with
  | true => exact Or.inr ⟨by simp, rfl⟩
  | false => exact Or.inl ⟨rfl, rfl⟩

theorem received_of_feed (h : Traced config c past) {handle : Handle} (hh : c.held? id = some handle) :
    (c.receive id).2 =
      match (feed id past).items[(taken id past).length]? with
      | some item => .item item
      | none => if (feed id past).route.isSome then .pending else .ended := by
  obtain ⟨found, -⟩ := Option.filter_eq_some_iff.mp hh
  rw [← traced_items h found, traced_feed_route h, List.getElem?_append_right (Nat.le_refl _), receive, hh]
  cases hq : handle.queue with
  | nil =>
    simp only [hq]
    cases hr : c.routes.find? id <;> simp [Table.contains, hr]
  | cons item rest => simp [hq]

/-- The stream of a subscription: what its handle offers, and what everything that happens puts on it. -/
structure Streams (c : Client) (past : List Event) (id : Nat) : Prop where
  handle : ∀ handle, c.handles.find? id = some handle →
    taken id past ++ handle.queue = (feed id past).items
  taken : taken id past <+: (feed id past).items
  received : ∀ handle, c.held? id = some handle → (c.receive id).2 =
    match (feed id past).items[(Client.taken id past).length]? with
    | some item => .item item
    | none => if (feed id past).route.isSome then .pending else .ended
  shape : ∃ events : List TopicEvent, ∃ failure : Option ClientError,
    (feed id past).items = events.map .ok ++ failure.toList.map .error
  live : ∀ later earlier topic, past = later ++ earlier →
    ((feed id earlier).route.map (·.topic) = some topic ↔ Live id topic earlier)
  binding : ∀ later earlier r, past = later ++ earlier → (feed id earlier).route = some r →
    ∃ g reply, lastReply id earlier = some (g, reply) ∧
      (Interrupted id earlier ∧ r.binding = none ∨
        ¬Interrupted id earlier ∧ r.binding = some (bindingOf reply))
  pushed : ∀ later g event earlier, past = later ++ .pushed g event :: earlier →
    (feed id (.pushed g event :: earlier)).items =
      (feed id earlier).items ++ ((feed id earlier).route.bind (·.deliver event)).toList.map .ok
  silent : ∀ later e earlier, past = later ++ e :: earlier → (∀ g event, e ≠ .pushed g event) →
    (∀ err, ¬ReplayFails earlier id err e) → (feed id (e :: earlier)).items = (feed id earlier).items
  failed : ∀ err, .error err ∈ (feed id past).items ↔ ∃ later e earlier topic,
    past = later ++ e :: earlier ∧ Live id topic earlier ∧ ReplayFails earlier id err e
  ended : ∀ later e earlier topic, past = later ++ e :: earlier → Live id topic earlier →
    Ends earlier id e → (feed id past).items = (feed id (e :: earlier)).items ∧
      (feed id past).route = none
  spared : ∀ s : Step, s.Reconnects → Spares c (c.step s) id

theorem streams (h : Traced config c past) (id : Nat) : Streams c past id := by
  refine ⟨fun handle hh => traced_items h hh, taken_isPrefix h, fun handle hh => received_of_feed h hh,
    ⟨_, _, rfl⟩, ?_, ?_, ?_, ?_, fun err => error_mem_items h, ?_,
    fun s hs => spares_of_reconnects c hs id⟩
  · rintro later earlier topic rfl
    obtain ⟨before, ht⟩ := traced_append h
    exact live_iff_feed ht topic
  · rintro later earlier r rfl hr
    obtain ⟨before, ht⟩ := traced_append h
    exact binding_of_feed ht hr
  · rintro later g event earlier rfl
    obtain ⟨after, ht⟩ := traced_append h
    obtain ⟨before, _, hb, _⟩ := traced_cons ht
    rw [items_cons hb, gained_of_some rfl]
    rfl
  · rintro later e earlier rfl quiet spared
    obtain ⟨after, ht⟩ := traced_append h
    obtain ⟨before, _, hb, _⟩ := traced_cons ht
    rw [items_cons hb, gained_of_quiet quiet spared, List.append_nil]
  · rintro later e earlier topic rfl live ends
    rw [feed_after_end h live ends]
    exact ⟨rfl, route_of_ends ends⟩

/-- In every run, the stream of a subscription gets what belongs to it of every push while it is live,
and the error of a failed replay behind that; and it is the same wherever the subscription has heard
the same words. -/
theorem stream_of_words (config : FrameConfig) (steps : List Step) (id : Nat) :
    Streams ((fresh config).run steps) (history config steps) id ∧
    ∀ config' steps' id', words id (history config steps) = words id' (history config' steps') →
      ∀ handle handle', ((fresh config).run steps).handles.find? id = some handle →
        ((fresh config').run steps').handles.find? id' = some handle' →
        taken id (history config steps) ++ handle.queue =
          taken id' (history config' steps') ++ handle'.queue := by
  refine ⟨streams (traced_run config steps) id, ?_⟩
  intro config' steps' id' same handle handle' hh hh'
  rw [traced_items (traced_run config steps) hh, traced_items (traced_run config' steps') hh', feed, feed,
    same]

/-- A subscription gets an event, and then its replay on the next link fails. Other calls may come
first. -/
def fallingSilent (others : List Step) (made failed : String) : List Step :=
  [.attach none] ++ others ++
    [.subscribe .time, .message 1 made,
      .message 1 "[1,4,0,\x7b\"dt\":\"TIME_INFO\",\"data\":\x7b\x7d\x7d]", .attach none,
      .message 2 "[1,4,0,\x7b\"dt\":\"CONNECTION_INFO\",\"data\":\x7b\x7d\x7d]", .message 2 failed]

def silentFirst : List Step :=
  fallingSilent [] "[1,2,1,\x7b\x7d]" "[1,3,2,\x7b\"et\":\"Gone\"\x7d]"

def silentSecond : List Step :=
  fallingSilent [.subscribe .events] "[1,2,2,\x7b\x7d]" "[1,3,3,\x7b\"et\":\"Gone\"\x7d]"

theorem stream_beside_another : ∃ handle handle',
    ((fresh {}).run silentFirst).handles.find? 1 = some handle ∧
    ((fresh {}).run silentSecond).handles.find? 2 = some handle' ∧
    handle.queue = [.ok (.time ⟨none, []⟩), .error (.serverException "Gone" "")] ∧
    taken 1 (history {} silentFirst) ++ handle.queue =
      taken 2 (history {} silentSecond) ++ handle'.queue := by
  have first : ((fresh {}).run silentFirst).handles.find? 1 =
      some ⟨.time, [.ok (.time ⟨none, []⟩), .error (.serverException "Gone" "")], true, false⟩ := by
    decide +kernel
  have second : ((fresh {}).run silentSecond).handles.find? 2 =
      some ⟨.time, [.ok (.time ⟨none, []⟩), .error (.serverException "Gone" "")], true, false⟩ := by
    decide +kernel
  have same : words 1 (history {} silentFirst) = words 2 (history {} silentSecond) := by
    decide +kernel
  exact ⟨_, _, first, second, rfl,
    (stream_of_words {} silentFirst 1).2 {} silentSecond 2 same _ _ first second⟩

end Telemux.Client
