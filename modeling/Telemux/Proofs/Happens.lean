import Telemux.Proofs.Operation

namespace Telemux.Client

/-- The one thing that happens, and the client after it. -/
inductive Happens (past : List Event) (c : Client) : Event → Client → Prop
  | lost {link} (hl : c.link = some link) :
    Happens past c (.lost link.generation) { c with
      written := (c.write link .close).written
      link := none
      correlator := (c.correlator.drain link.generation).2
      routes := c.routes.map fun _ r => { r with binding := none }
      handles := c.handles.map fun id h =>
        if c.routes.contains id then { h with interrupted := true } else h
      calls := failCalls c.calls .connectionLost (c.correlator.upTo link.generation)
      connected := false }
  | opened {room} (hc : c.closed = false) (hl : c.link = none) :
    Happens past c (.opened (c.generation + 1)) { c with
      generation := c.generation + 1
      link := some ⟨c.generation + 1, false, room⟩ }
  | shut (hc : c.closed = false) :
    Happens past c .shut { c with
      written := c.farewell
      link := none
      correlator := { c.correlator with pending := .empty }
      calls := failCalls c.calls .closed (c.correlator.pending.entries.map Prod.snd)
      routes := .empty
      registry := .empty
      connected := false
      closed := true }
  | subscribed {link text topic} (hs : c.Sends link topic.requestBody text) :
    Happens past c
      (.sent ⟨c.correlator.next, link.generation, .subscribe c.nextId topic⟩ topic.requestBody)
      { c.sentOn link text (.subscribe c.nextId topic) with
        nextId := c.nextId + 1
        handles := c.handles.insert c.nextId ⟨topic, [], false, false⟩
        calls := c.calls.insert c.correlator.next ⟨some c.nextId, none⟩ }
  | requested {link text body} (hs : c.Sends link body text) :
    Happens past c (.sent ⟨c.correlator.next, link.generation, .request⟩ body)
      { c.sentOn link text .request with
        calls := c.calls.insert c.correlator.next ⟨none, none⟩ }
  | replayed {link text id topic g} (hs : c.Sends link topic.requestBody text)
      (hr : link.ready = true) (hid : c.registry.find? id = some ⟨topic, g⟩)
      (hg : g < link.generation)
      (first : ∀ p body t, .sent p body ∈ past → p.purpose = .replay id t →
        p.generation ≠ link.generation) :
    Happens past c
      (.sent ⟨c.correlator.next, link.generation, .replay id topic⟩ topic.requestBody)
      (c.sentOn link text (.replay id topic))
  | unsent {link id topic g fault} (hl : c.link = some link)
      (hid : c.registry.find? id = some ⟨topic, g⟩) (hg : g < link.generation)
      (he : (Frame.request c.correlator.next topic.requestBody).encode c.config = .error fault) :
    Happens past c (.unsent id (.frame fault)) { c with
      handles := if c.routes.contains id then
          c.handles.adjust id fun h => { h with queue := h.queue ++ [.error (.frame fault)] }
        else c.handles
      routes := c.routes.erase id
      registry := c.registry.erase id }
  | stray {link f} (hl : c.link = some link)
      (hp : c.correlator.pending.find? f.sequence = none) :
    Happens past c (.terminal link.generation f) c
  | replied {link f p} (hl : c.link = some link)
      (hp : c.correlator.pending.find? f.sequence = some p) (call : p.purpose.isCall = true)
      (fails : ∀ id topic, p.purpose = .subscribe id topic → ∃ e, answerTo topic f = .error e) :
    Happens past c (.terminal link.generation f) { c with
      correlator := c.correlator.without f.sequence
      calls := c.calls.adjust p.sequence fun call =>
        { call with outcome := some (outcomeOf p.purpose (.answered f)) } }
  | granted {link f p id topic reply} (hl : c.link = some link)
      (hp : c.correlator.pending.find? f.sequence = some p) (hq : p.purpose = .subscribe id topic)
      (ha : answerTo topic f = .ok reply) (there : c.calls.contains p.sequence = true) :
    Happens past c (.terminal link.generation f) { c with
      correlator := c.correlator.without f.sequence
      routes := c.routes.insert id ⟨topic, some (bindingOf reply)⟩
      registry := c.registry.insert id ⟨topic, link.generation⟩
      handles := c.handles.adjust id fun h => { h with interrupted := false }
      calls := c.calls.adjust p.sequence fun call =>
        { call with outcome := some (.ok (.initial reply)) } }
  | late {link f p id topic reply} (hl : c.link = some link)
      (hp : c.correlator.pending.find? f.sequence = some p) (hq : p.purpose = .subscribe id topic)
      (ha : answerTo topic f = .ok reply) (gone : c.calls.contains p.sequence = false) :
    Happens past c (.terminal link.generation f) { c with
      correlator := c.correlator.without f.sequence
      routes := c.routes.erase id
      registry := c.registry.erase id }
  | lapsed {link f p id topic} (hl : c.link = some link)
      (hp : c.correlator.pending.find? f.sequence = some p) (hq : p.purpose = .replay id topic)
      (gone : c.registry.contains id = false) :
    Happens past c (.terminal link.generation f) { c with
      correlator := c.correlator.without f.sequence }
  | failed {link f p id topic e} (hl : c.link = some link)
      (hp : c.correlator.pending.find? f.sequence = some p) (hq : p.purpose = .replay id topic)
      (there : c.registry.contains id = true) (ha : answerTo topic f = .error e) :
    Happens past c (.terminal link.generation f) { c with
      correlator := c.correlator.without f.sequence
      handles := if c.routes.contains id then
          c.handles.adjust id fun h => { h with queue := h.queue ++ [.error e] }
        else c.handles
      routes := c.routes.erase id
      registry := c.registry.erase id }
  | restored {link f p id topic reply} (hl : c.link = some link)
      (hp : c.correlator.pending.find? f.sequence = some p) (hq : p.purpose = .replay id topic)
      (there : c.registry.contains id = true) (ha : answerTo topic f = .ok reply) :
    Happens past c (.terminal link.generation f) { c with
      correlator := c.correlator.without f.sequence
      routes := c.routes.adjust id fun r => { r with binding := some (bindingOf reply) }
      registry := c.registry.adjust id fun s => { s with generation := link.generation }
      handles := if c.routes.contains id then
          c.handles.adjust id fun h => { h with interrupted := false }
        else c.handles }
  | greeted {link info} (hl : c.link = some link) (hr : link.ready = false) :
    Happens past c (.pushed link.generation (.connectionInfo info)) (c.greeted link info)
  | informed {link info} (hl : c.link = some link) (hr : link.ready = true) :
    Happens past c (.pushed link.generation (.connectionInfo info)) { c with
      info := some info
      infoCount := c.infoCount + 1 }
  | pushed {link event} (hl : c.link = some link) (he : ∀ info, event ≠ .connectionInfo info) :
    Happens past c (.pushed link.generation event) (c.route event)
  | cancelled {s call} (hs : c.calls.find? s = some call) (hn : call.handle = none) :
    Happens past c (.cancelled s) { c with calls := c.calls.erase s }
  | abandoned {s call id} (hs : c.calls.find? s = some call) (hn : call.handle = some id) :
    Happens past c (.cancelled s) ({ c with calls := c.calls.erase s }.release id)
  | returned {s outcome} (hs : c.calls.find? s = some ⟨none, some outcome⟩) :
    Happens past c (.fetched s outcome) { c with calls := c.calls.erase s }
  | handed {s id answer} (hs : c.calls.find? s = some ⟨some id, some (.ok answer)⟩) :
    Happens past c (.fetched s (.ok answer)) { c with
      calls := c.calls.erase s
      handles := c.handles.adjust id fun h => { h with held := true } }
  | denied {s id e} (hs : c.calls.find? s = some ⟨some id, some (.error e)⟩) :
    Happens past c (.fetched s (.error e)) ({ c with calls := c.calls.erase s }.release id)
  | received {id h item rest} (hh : c.held? id = some h) (hq : h.queue = item :: rest) :
    Happens past c (.received id item) { c with
      handles := c.handles.adjust id fun h => { h with queue := rest } }
  | unsubscribed {id} (hh : (c.held? id).isSome = true) :
    Happens past c (.detached id) (c.detach id)
  | dropped {id} (hh : (c.held? id).isSome = true) :
    Happens past c (.detached id) (c.release id)

/-- A client that a run leads to, if need be through the middle of a step, and what has happened to
it, latest first. -/
inductive Traced (config : FrameConfig) : Client → List Event → Prop
  | start : Traced config (fresh config) []
  | skip {c past} : Traced config c past → Traced config { c with nextId := c.nextId + 1 } past
  | refuse {c past} (g n : Nat) : Traced config c past → Traced config (c.refuse g n) past
  | next {c past e after} : Traced config c past → Happens past c e after →
      Traced config after (e :: past)

variable {config : FrameConfig} {c : Client} {past : List Event}

theorem traced_config (h : Traced config c past) : c.config = config := by
  induction h with
  | start => rfl
  | skip _ ih => exact ih
  | refuse _ _ _ ih => exact ih
  | next _ hn ih => cases hn <;> exact ih

theorem traced_cons {e : Event} (h : Traced config c (e :: past)) :
    ∃ before after, Traced config before past ∧ Happens past before e after := by
  generalize hp : e :: past = all at h
  induction h with
  | start => cases hp
  | skip _ ih => exact ih hp
  | refuse _ _ _ ih => exact ih hp
  | @next before past e after ht hn _ =>
    cases hp
    exact ⟨before, after, ht, hn⟩

theorem traced_append {later : List Event} (h : Traced config c (later ++ past)) :
    ∃ before, Traced config before past := by
  induction later generalizing c with
  | nil => exact ⟨c, h⟩
  | cons e later ih =>
    obtain ⟨before, _, ht, _⟩ := traced_cons h
    exact ih ht

theorem link_refuse {g n : Nat} {link : ActiveLink} (h : (c.refuse g n).link = some link) :
    ∃ old, c.link = some old ∧ link.generation = old.generation ∧ link.ready = old.ready := by
  obtain ⟨old, ho, rfl⟩ := Option.map_eq_some_iff.mp h
  refine ⟨old, ho, ?_⟩
  by_cases he : old.generation = g <;> simp [he, ActiveLink.limit]

theorem traced_link (h : Traced config c past) :
    (c.closed = true → c.link = none) ∧
      ∀ link, c.link = some link → link.generation = c.generation := by
  induction h with
  | start => simp [Client.fresh]
  | skip _ ih => exact ih
  | @refuse c past g n _ ih =>
    refine ⟨fun hc => by simp [Client.refuse, ih.1 hc], fun link hl => ?_⟩
    obtain ⟨old, ho, hg, _⟩ := link_refuse hl
    exact hg.trans (ih.2 old ho)
  | next _ hn ih =>
    cases hn with
    | lost hl | shut hc => simp
    | opened hc hl => simp [hc]
    | subscribed hs | requested hs | replayed hs =>
      simp [sentOn, hs.notClosed, ActiveLink.spend, ih.2 _ hs.current]
    | @greeted old info hl hr =>
      refine ⟨fun hc => ?_, fun link he => ?_⟩
      · have := ih.1 hc
        simp [hl] at this
      · cases he
        exact ih.2 old hl
    | _ => exact ih

theorem traced_open (h : Traced config c past) {link : ActiveLink} (hl : c.link = some link) :
    c.closed = false := by
  cases hc : c.closed with
  | false => rfl
  | true =>
    have := (traced_link h).1 hc
    simp [hl] at this

/-- The link that an event is about. -/
def Event.generation? : Event → Option Nat
  | .opened g | .lost g | .terminal g _ | .pushed g _ => some g
  | .sent p _ => some p.generation
  | _ => none

/-- The words of the server among what happens. -/
def Event.isWord : Event → Bool
  | .terminal _ _ | .pushed _ _ => true
  | _ => false

theorem happens_generation {e : Event} {after : Client} (h : Traced config c past)
    (hn : Happens past c e after) :
    c.generation ≤ after.generation ∧ ∀ g, e.generation? = some g → g ≤ after.generation := by
  have hlink := (traced_link h).2
  cases hn with
  | opened hc hl =>
    refine ⟨Nat.le_succ _, fun g hg => ?_⟩
    cases hg
    exact Nat.le_refl _
  | subscribed hs | requested hs | replayed hs =>
    refine ⟨Nat.le_refl _, fun g hg => ?_⟩
    cases hg
    exact Nat.le_of_eq (hlink _ hs.current)
  | lost hl | stray hl | replied hl | granted hl | late hl | lapsed hl | failed hl | restored hl
  | greeted hl | informed hl | pushed hl =>
    refine ⟨Nat.le_refl _, fun g hg => ?_⟩
    cases hg
    exact Nat.le_of_eq (hlink _ hl)
  | _ => exact ⟨Nat.le_refl _, fun g hg => by cases hg⟩

/-- Links are used one after the other. -/
theorem traced_generation_le (h : Traced config c past) {e : Event} {g : Nat} (he : e ∈ past)
    (hg : e.generation? = some g) : g ≤ c.generation := by
  induction h with
  | start => cases he
  | skip _ ih => exact ih he
  | refuse _ _ _ ih => exact ih he
  | next ht hn ih =>
    obtain ⟨grows, new⟩ := happens_generation ht hn
    rcases List.mem_cons.mp he with rfl | old
    · exact new g hg
    · exact Nat.le_trans (ih old) grows

/-- A link is ready from the first word of the server on. -/
theorem traced_ready (h : Traced config c past) {link : ActiveLink} (hl : c.link = some link) :
    link.ready = true ↔ ∃ info, .pushed link.generation (.connectionInfo info) ∈ past := by
  induction h generalizing link with
  | start => cases hl
  | skip _ ih => exact ih hl
  | @refuse c past g n _ ih =>
    obtain ⟨old, ho, hg, hr⟩ := link_refuse hl
    rw [hr, hg]
    exact ih ho
  | @next c past e after ht hn ih =>
    cases hn with
    | lost | shut => cases hl
    | opened hc hno =>
      cases hl
      simp only [Bool.false_eq_true, List.mem_cons, reduceCtorEq, false_or, false_iff]
      rintro ⟨info, hi⟩
      have := traced_generation_le ht hi rfl
      omega
    | subscribed hs | requested hs | replayed hs =>
      cases hl
      have old := ih hs.current
      simpa [ActiveLink.spend] using old
    | greeted ho hr =>
      cases hl
      exact ⟨fun _ => ⟨_, List.mem_cons_self⟩, fun _ => rfl⟩
    | informed ho hr =>
      cases ho.symm.trans hl
      exact ⟨fun _ => ⟨_, List.mem_cons_self⟩, fun _ => hr⟩
    | pushed ho hev =>
      rw [ih hl]
      refine exists_congr fun info => ?_
      rw [List.mem_cons]
      exact ⟨Or.inr, fun hm => hm.resolve_left fun he => hev info (Event.pushed.inj he).2.symm⟩
    | _ => simpa using ih hl

theorem traced_sent (h : Traced config c past) {p : Pending Purpose} {body : RequestBody}
    (hp : .sent p body ∈ past) (hq : p.purpose.isCall = false) {link : ActiveLink}
    (hl : c.link = some link) (hg : p.generation = link.generation) : link.ready = true := by
  obtain ⟨later, earlier, rfl⟩ := List.append_of_mem hp
  obtain ⟨after, ht⟩ := traced_append h
  obtain ⟨before, _, hb, hn⟩ := traced_cons ht
  rw [traced_ready h hl]
  cases hn with
  | replayed hs hr =>
    obtain ⟨info, hi⟩ := (traced_ready hb hs.current).mp hr
    rw [← hg]
    exact ⟨info, List.mem_append_right _ (List.mem_cons_of_mem _ hi)⟩
  | subscribed | requested => cases hq

end Telemux.Client
