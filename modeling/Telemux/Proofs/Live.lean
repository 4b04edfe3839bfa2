import Telemux.Proofs.Handles

namespace Telemux.Client

/-- The answer that makes a subscription: a success, for a call whose caller has not left. -/
def Grants (past : List Event) (id : Nat) (topic : Topic) : Event → Prop
  | .terminal generation f =>
    ∃ p reply, answered past generation f = some p ∧ p.purpose = .subscribe id topic ∧
      answerTo topic f = .ok reply ∧ .cancelled p.sequence ∉ past
  | _ => False

/-- What ends a subscription: its handle is given up, its call is cancelled, a replay of it fails, or
the client closes. -/
def Ends (past : List Event) (id : Nat) : Event → Prop
  | .detached k | .unsent k _ => k = id
  | .cancelled s => ∃ p ∈ requests past, p.sequence = s ∧ p.purpose.handle? = some id
  | .terminal generation f =>
    ∃ p topic e, answered past generation f = some p ∧ p.purpose = .replay id topic ∧
      answerTo topic f = .error e
  | .shut => True
  | _ => False

/-- A subscription is live from the answer that makes it until something ends it. -/
def Live (id : Nat) (topic : Topic) : List Event → Prop
  | [] => False
  | e :: past => Grants past id topic e ∨ Live id topic past ∧ ¬Ends past id e

variable {config : FrameConfig} {c : Client} {past : List Event}

theorem live_cons_of_quiet {id : Nat} {topic : Topic} {e : Event} (hg : ¬Grants past id topic e)
    (he : ¬Ends past id e) : Live id topic (e :: past) ↔ Live id topic past := by
  simp [Live, hg, he]

theorem not_live_of_ends {id : Nat} {topic : Topic} {e : Event} (hg : ¬Grants past id topic e)
    (he : Ends past id e) : ¬Live id topic (e :: past) := by
  simp [Live, hg, he]

theorem exists_call_of_live {id : Nat} {topic : Topic} (h : Live id topic past) :
    ∃ p ∈ requests past, p.purpose = .subscribe id topic ∧ .cancelled p.sequence ∉ past := by
  induction past with
  | nil => cases h
  | cons e past ih =>
    rcases h with hg | ⟨hl, he⟩
    · cases e with
      | terminal g f =>
        obtain ⟨p, reply, hp, hq, -, hc⟩ := hg
        have hw : p ∈ waiting past := List.mem_of_find?_eq_some hp
        exact ⟨p, mem_requests_cons _ (waiting_subset_requests hw), hq, by simpa using hc⟩
      | _ => cases hg
    · obtain ⟨p, hp, hq, hc⟩ := ih hl
      refine ⟨p, mem_requests_cons _ hp, hq, fun hm => ?_⟩
      rcases List.mem_cons.mp hm with rfl | hm
      · exact he ⟨p, hp, rfl, by rw [hq]; rfl⟩
      · exact hc hm

theorem traced_cancelled (h : Traced config c past) {s : Nat} (hs : .cancelled s ∈ past) :
    ∃ p ∈ requests past, p.sequence = s ∧ p.purpose.isCall = true := by
  obtain ⟨later, earlier, rfl⟩ := List.append_of_mem hs
  obtain ⟨after, ht⟩ := traced_append h
  obtain ⟨before, _, ht, hn⟩ := traced_cons ht
  have call : ∃ call, before.calls.find? s = some call := by
    cases hn with
    | cancelled hc | abandoned hc => exact ⟨_, hc⟩
  obtain ⟨call, hc⟩ := call
  obtain ⟨p, hp, hr⟩ := traced_call_request ht hc
  exact ⟨p, mem_requests_append later (mem_requests_cons _ hp), hr⟩

theorem cancelled_before {p : Pending Purpose} {body : RequestBody} {later earlier : List Event}
    (h : Traced config c (later ++ .sent p body :: earlier)) : .cancelled p.sequence ∉ earlier := by
  intro hc
  obtain ⟨after, ht⟩ := traced_append h
  have sorted := traced_sequences ht
  obtain ⟨before, _, hb, _⟩ := traced_cons ht
  obtain ⟨q, hq, he, -⟩ := traced_cancelled hb hc
  have := (List.pairwise_cons.mp sorted).1 q hq
  omega

theorem traced_call_there (h : Traced config c past) {p : Pending Purpose} (hp : p ∈ waiting past)
    (hq : p.purpose.isCall = true) :
    c.calls.contains p.sequence = true ↔ .cancelled p.sequence ∉ past := by
  obtain ⟨later, body, earlier, hs⟩ := exists_sent_of_mem_requests (waiting_subset_requests hp)
  have call := traced_call h hs hq
  have unfetched : ∀ o, .fetched p.sequence o ∉ later :=
    fun o ho => not_waiting_of_fetched h hs hq ho hp
  have first : .cancelled p.sequence ∉ earlier := cancelled_before (hs ▸ h)
  have there : c.calls.contains p.sequence = true ↔ departed p.sequence later = false := by
    rw [Table.contains, call, callOf]
    cases departed p.sequence later <;> simp
  rw [there, departed, List.any_eq_false, hs]
  constructor
  · intro stay hc
    rcases List.mem_append.mp hc with hc | hc
    · exact stay _ hc (by simp)
    · exact first ((List.mem_cons.mp hc).resolve_left (by simp))
  · intro hc e he
    cases e with
    | cancelled s =>
      have : s ≠ p.sequence := by
        rintro rfl
        exact hc (List.mem_append_left _ he)
      simpa using this
    | fetched s o =>
      have : s ≠ p.sequence := by
        rintro rfl
        exact unfetched o he
      simpa using this
    | _ => simp

theorem grants_terminal_iff (h : Traced config c past) {link : ActiveLink} (hl : c.link = some link)
    {f : Frame} {p : Pending Purpose} (hp : c.correlator.pending.find? f.sequence = some p) {id : Nat}
    {topic : Topic} :
    Grants past id topic (.terminal link.generation f) ↔
      p.purpose = .subscribe id topic ∧ (∃ reply, answerTo topic f = .ok reply) ∧
        c.calls.contains p.sequence = true := by
  rw [← traced_answered h hl] at hp
  have hw : p ∈ waiting past := List.mem_of_find?_eq_some hp
  constructor
  · rintro ⟨q, reply, hq, ho, ha, hc⟩
    cases hp.symm.trans hq
    exact ⟨ho, ⟨reply, ha⟩, (traced_call_there h hw (by simp [ho, Purpose.isCall])).mpr hc⟩
  · rintro ⟨ho, ⟨reply, ha⟩, hc⟩
    exact ⟨p, reply, hp, ho, ha, (traced_call_there h hw (by simp [ho, Purpose.isCall])).mp hc⟩

theorem ends_terminal_iff (h : Traced config c past) {link : ActiveLink} (hl : c.link = some link)
    {f : Frame} {p : Pending Purpose} (hp : c.correlator.pending.find? f.sequence = some p) {id : Nat} :
    Ends past id (.terminal link.generation f) ↔
      ∃ topic e, p.purpose = .replay id topic ∧ answerTo topic f = .error e := by
  rw [← traced_answered h hl] at hp
  constructor
  · rintro ⟨q, topic, e, hq, ho, ha⟩
    cases hp.symm.trans hq
    exact ⟨topic, e, ho, ha⟩
  · rintro ⟨topic, e, ho, ha⟩
    exact ⟨p, topic, e, hp, ho, ha⟩

/-- A call that is cancelled takes with it the subscription that it holds, and no other. -/
theorem ends_cancelled_iff (h : Traced config c past) {s : Nat} {call : Call}
    (hs : c.calls.find? s = some call) {id : Nat} :
    Ends past id (.cancelled s) ↔ call.handle = some id := by
  obtain ⟨p, body, later, earlier, hp, rfl, -, -, rfl⟩ := traced_call_sent h hs
  have hm := mem_requests_of_sent hp
  constructor
  · rintro ⟨q, hq, he, ho⟩
    rwa [eq_of_sequence h hq hm he] at ho
  · exact fun ho => ⟨p, hm, rfl, ho⟩

/-- The registry holds exactly the live subscriptions. -/
theorem traced_live (h : Traced config c past) (id : Nat) (topic : Topic) :
    (c.registry.find? id).map (·.topic) = some topic ↔ Live id topic past := by
  induction h with
  | start => simp [Client.fresh, Live]
  | skip _ ih => exact ih
  | refuse _ _ _ ih => exact ih
  | @next c past e after ht hn ih =>
    have erased : ∀ {k e}, ¬Grants past id topic e → (Ends past id e ↔ k = id) →
        (((c.registry.erase k).find? id).map (·.topic) = some topic ↔ Live id topic (e :: past)) := by
      intro k e hg he
      rw [Table.find?_erase]
      by_cases hk : id = k
      · simp [hk, not_live_of_ends (hk ▸ hg) (hk ▸ he.mpr hk.symm)]
      · rw [if_neg hk, ih, live_cons_of_quiet hg fun hb => hk (he.mp hb).symm]
    -- Where there is nothing to erase, nothing has to end.
    have absent : ∀ {k e}, ¬Grants past id topic e → ¬Ends past id e → c.registry.find? k = none →
        (((c.registry.erase k).find? id).map (·.topic) = some topic ↔ Live id topic (e :: past)) := by
      intro k e hg he hk
      rw [Table.find?_erase, live_cons_of_quiet hg he, ← ih]
      split
      next hi => rw [hi, hk]
      next => rfl
    cases hn with
    | shut hc => simp [Live, Grants, Ends]
    | unsent hl hid hg he => exact erased (by simp [Grants]) (by simp [Ends])
    | unsubscribed hh | dropped hh => exact erased (by simp [Grants]) (by simp [Ends])
    | cancelled hs hn =>
      rw [live_cons_of_quiet (by simp [Grants]) (by simp [ends_cancelled_iff ht hs, hn])]
      exact ih
    | abandoned hs hn =>
      refine erased (by simp [Grants]) ?_
      rw [ends_cancelled_iff ht hs, hn]
      simp
    | denied hs => exact absent (by simp [Grants]) (by simp [Ends]) (traced_denied ht hs)
    | stray hl hp =>
      rw [← traced_answered ht hl] at hp
      rw [live_cons_of_quiet (by simp [Grants, hp]) (by simp [Ends, hp])]
      exact ih
    | replied hl hp call fails =>
      rw [live_cons_of_quiet]
      · exact ih
      · rw [grants_terminal_iff ht hl hp]
        rintro ⟨ho, ⟨reply, ha⟩, -⟩
        obtain ⟨e, he⟩ := fails id topic ho
        cases ha.symm.trans he
      · rw [ends_terminal_iff ht hl hp]
        rintro ⟨t, e, ho, -⟩
        simp [ho, Purpose.isCall] at call
    | @granted link f p k t reply hl hp hq ha there =>
      have quiet : ¬Ends past id (.terminal link.generation f) := by
        simp [ends_terminal_iff ht hl hp, hq]
      rw [Table.find?_insert]
      by_cases hk : id = k
      · subst hk
        have unmade := traced_unmade ht ((traced_waiting ht).mp hp).1 hq
        have dead : ¬Live id topic past := by simp [← ih, unmade]
        simp only [if_true, Option.map_some, Option.some.injEq, Live, grants_terminal_iff ht hl hp, hq,
          Purpose.subscribe.injEq, true_and, there, and_true, dead, false_and, or_false]
        constructor
        · rintro rfl
          exact ⟨rfl, reply, ha⟩
        · exact fun hb => hb.1
      · rw [if_neg hk, ih, live_cons_of_quiet _ quiet]
        rw [grants_terminal_iff ht hl hp, hq]
        rintro ⟨ho, -⟩
        cases ho
        exact hk rfl
    | late hl hp hq ha gone =>
      refine absent ?_ ?_ (traced_unmade ht ((traced_waiting ht).mp hp).1 hq)
      · simp [grants_terminal_iff ht hl hp, gone]
      · simp [ends_terminal_iff ht hl hp, hq]
    | @lapsed link f p k t hl hp hq gone =>
      have unregistered : c.registry.find? k = none := by simpa [Table.contains] using gone
      have quiet : ¬Grants past id topic (.terminal link.generation f) := by
        simp [grants_terminal_iff ht hl hp, hq]
      by_cases hk : id = k
      · subst hk
        have dead : ¬Live id topic past := by simp [← ih, unregistered]
        simp [Live, quiet, dead, unregistered]
      · rw [ih, live_cons_of_quiet quiet]
        rw [ends_terminal_iff ht hl hp, hq]
        rintro ⟨t', e, ho, -⟩
        cases ho
        exact hk rfl
    | failed hl hp hq there ha =>
      refine erased (by simp [grants_terminal_iff ht hl hp, hq]) ?_
      rw [ends_terminal_iff ht hl hp, hq]
      constructor
      · rintro ⟨t, e, ho, -⟩
        cases ho
        rfl
      · rintro rfl
        exact ⟨_, _, rfl, ha⟩
    | @restored link f p k t reply hl hp hq there ha =>
      have same : ((c.registry.adjust k fun s => { s with generation := link.generation }).find?
          id).map (·.topic) = (c.registry.find? id).map (·.topic) := by
        rw [Table.find?_adjust]
        split
        next => rw [Option.map_map]; rfl
        next => rfl
      rw [same, ih, live_cons_of_quiet]
      · simp [grants_terminal_iff ht hl hp, hq]
      · rw [ends_terminal_iff ht hl hp, hq]
        rintro ⟨t', e, ho, he⟩
        cases ho
        cases ha.symm.trans he
    | _ =>
      rw [live_cons_of_quiet (by simp [Grants]) (by simp [Ends])]
      exact ih

theorem routed_iff_live (h : Traced config c past) (id : Nat) (topic : Topic) :
    (c.routes.find? id).map (·.topic) = some topic ↔ Live id topic past := by
  rw [traced_routed h]
  exact traced_live h id topic

theorem live_of_replayed {p : Pending Purpose} {body : RequestBody} {later earlier : List Event}
    (h : Traced config c (later ++ .sent p body :: earlier)) {id : Nat} {topic : Topic}
    (hq : p.purpose = .replay id topic) :
    Live id topic earlier := by
  obtain ⟨after, ht⟩ := traced_append h
  obtain ⟨before, _, hb, hn⟩ := traced_cons ht
  cases hn with
  | replayed hs hr hid hg first =>
    cases hq
    exact (traced_live hb id topic).mp (by rw [hid]; rfl)
  | subscribed | requested => cases hq

theorem not_live_of_cancelled (h : Traced config c past) {p : Pending Purpose} {id : Nat}
    {t topic : Topic} (hp : p ∈ requests past) (hq : p.purpose = .subscribe id t)
    (hc : .cancelled p.sequence ∈ past) : ¬Live id topic past := by
  intro hl
  obtain ⟨q, hm, ho, hn⟩ := exists_call_of_live hl
  rw [eq_of_subscribe h hp hm hq ho] at hc
  exact hn hc

theorem exists_made_of_live (h : Traced config c past) {id : Nat} {topic : Topic}
    (hl : Live id topic past) : ∃ p ∈ requests past, p.purpose = .subscribe id topic ∧
      p ∉ waiting past := by
  obtain ⟨s, hs, rfl⟩ := Option.map_eq_some_iff.mp ((traced_live h id topic).mpr hl)
  obtain ⟨p, hp, hq⟩ := traced_registered_request h hs
  refine ⟨p, hp, hq, fun hw => ?_⟩
  rw [traced_unmade h hw hq] at hs
  cases hs

theorem not_waiting_of_live {newer : List Event} (h : Traced config c (newer ++ past)) {id : Nat}
    {topic : Topic} (hl : Live id topic past) {p : Pending Purpose} {t : Topic}
    (hq : p.purpose = .subscribe id t) : p ∉ waiting (newer ++ past) := by
  intro hw
  obtain ⟨before, hb⟩ := traced_append h
  obtain ⟨q, hm, ho, hn⟩ := exists_made_of_live hb hl
  have same := eq_of_subscribe h (mem_requests_append newer hm) (waiting_subset_requests hw) ho hq
  rw [same] at hm hn
  exact not_waiting_later h hm hn hw

/-- A subscription that has ended does not come back. -/
theorem not_live_again {newer : List Event} (h : Traced config c (newer ++ past)) {id : Nat}
    {p : Pending Purpose} {t : Topic} (hp : p ∈ requests past) (hq : p.purpose = .subscribe id t)
    (hw : p ∉ waiting past) (dead : ∀ topic, ¬Live id topic past) (topic : Topic) :
    ¬Live id topic (newer ++ past) := by
  induction newer generalizing c with
  | nil => exact dead topic
  | cons e newer ih =>
    obtain ⟨before, _, hb, _⟩ := traced_cons h
    rintro (hg | ⟨hl, -⟩)
    · cases e with
      | terminal g f =>
        obtain ⟨q, reply, ha, ho, -, -⟩ := hg
        have waits : q ∈ waiting (newer ++ past) := List.mem_of_find?_eq_some ha
        have same := eq_of_subscribe hb (mem_requests_append newer hp) (waiting_subset_requests waits) hq ho
        exact not_waiting_later hb hp hw (same ▸ waits)
      | _ => cases hg
    · exact ih hb hl

theorem not_live_of_detached (h : Traced config c past) {id : Nat} (hd : .detached id ∈ past)
    (topic : Topic) : ¬Live id topic past := by
  obtain ⟨newer, older, rfl⟩ := List.append_of_mem hd
  obtain ⟨after, ht⟩ := traced_append h
  obtain ⟨before, _, hb, hn⟩ := traced_cons ht
  have held : (before.held? id).isSome = true := by
    cases hn <;> assumption
  obtain ⟨handle, hh⟩ := Option.isSome_iff_exists.mp held
  obtain ⟨hf, hheld⟩ := Option.filter_eq_some_iff.mp hh
  obtain ⟨p, body, later, earlier, o, hs, hq, ho⟩ := traced_held hb hf hheld
  have hm : p ∈ requests older := mem_requests_of_sent hs
  have hw : p ∉ waiting older := not_waiting_of_fetched hb hs (by rw [hq]; rfl) ho
  have ended : ∀ t, ¬Live id t (.detached id :: older) := fun t =>
    not_live_of_ends (by simp [Grants]) (by simp [Ends])
  exact not_live_again h (mem_requests_cons _ hm) hq hw ended topic

/-- The tables of a client hold its live subscriptions. -/
structure TablesLive (c : Client) (past : List Event) : Prop where
  routes : ∀ id topic, (c.routes.find? id).map (·.topic) = some topic ↔ Live id topic past
  registry : ∀ id topic, (c.registry.find? id).map (·.topic) = some topic ↔ Live id topic past
  count : ∃ ids : List Nat, ids.Pairwise (· < ·) ∧ (∀ id, id ∈ ids ↔ ∃ topic, Live id topic past) ∧
    c.subscriptionCount = ids.length

/-- What a cancelled subscribe call leaves behind: nothing, and nothing is replayed for it. -/
structure Abandoned (c : Client) (past : List Event) (p : Pending Purpose) (id : Nat) : Prop where
  unrouted : c.routes.find? id = none
  unregistered : c.registry.find? id = none
  before : ∀ later q body earlier topic, past = later ++ .sent q body :: earlier →
    q.purpose = .replay id topic → Live id topic earlier ∧ .cancelled p.sequence ∉ earlier
  unanswered : ∀ later earlier, past = later ++ .cancelled p.sequence :: earlier → p ∈ waiting earlier →
    ∀ q body topic, .sent q body ∈ past → q.purpose ≠ .replay id topic

theorem tablesLive (h : Traced config c past) : TablesLive c past := by
  refine ⟨routed_iff_live h, traced_live h, c.registry.keys, List.pairwise_map.mpr c.registry.sorted,
    fun id => ?_, by simp [subscriptionCount, Table.size, Table.keys]⟩
  simp only [Table.mem_keys_iff, Table.contains, ← traced_live h]
  cases c.registry.find? id <;> simp

theorem abandoned (h : Traced config c past) {p : Pending Purpose} {id : Nat} {t : Topic}
    (hp : p ∈ requests past) (hq : p.purpose = .subscribe id t) (hc : .cancelled p.sequence ∈ past) :
    Abandoned c past p id := by
  have gone : c.registry.find? id = none := by
    cases hs : c.registry.find? id with
    | none => rfl
    | some s =>
      have := (traced_live h id s.topic).mp (by rw [hs]; rfl)
      exact absurd this (not_live_of_cancelled h hp hq hc)
  have before : ∀ later q body earlier topic, past = later ++ .sent q body :: earlier →
      q.purpose = .replay id topic → Live id topic earlier ∧ .cancelled p.sequence ∉ earlier := by
    intro later q body earlier topic hs ho
    have hl := live_of_replayed (hs ▸ h) ho
    obtain ⟨r, hr, hro, hrc⟩ := exists_call_of_live hl
    have hm : r ∈ requests past := hs ▸ mem_requests_append later (mem_requests_cons _ hr)
    rw [eq_of_subscribe h hm hp hro hq] at hrc
    exact ⟨hl, hrc⟩
  refine ⟨unrouted_of_unregistered h gone, gone, before, ?_⟩
  rintro later earlier rfl hw q body topic hm ho
  obtain ⟨newer, older, hs⟩ := List.append_of_mem hm
  obtain ⟨hl, hn⟩ := before newer q body older topic hs ho
  -- The replay is older than the end of the call, and the call was answered before it.
  rcases List.append_eq_append_iff.mp hs with ⟨between, -, he⟩ | ⟨between, -, he⟩
  · cases between with
    | nil => cases he
    | cons e between =>
      obtain ⟨-, he⟩ := List.cons.inj he
      have apart : earlier = (between ++ [.sent q body]) ++ older := by simpa using he
      subst apart
      obtain ⟨after, ht⟩ := traced_append h
      obtain ⟨before, _, ht, _⟩ := traced_cons ht
      exact not_waiting_of_live ht hl hq hw
  · cases between with
    | nil => cases he
    | cons e between =>
      obtain ⟨-, rfl⟩ := List.cons.inj he
      exact hn (List.mem_append_right _ List.mem_cons_self)

/-- In every run, routes and registry hold exactly the live subscriptions, and a call that is cancelled
leaves none of them behind. -/
theorem routes_registry_live (config : FrameConfig) (steps : List Step) :
    TablesLive ((fresh config).run steps) (history config steps) ∧
    ∀ p id topic, p ∈ requests (history config steps) → p.purpose = .subscribe id topic →
      .cancelled p.sequence ∈ history config steps →
        Abandoned ((fresh config).run steps) (history config steps) p id :=
  ⟨tablesLive (traced_run config steps), fun _ _ _ hp hq hc =>
    abandoned (traced_run config steps) hp hq hc⟩

/-- Two subscriptions are made, and the caller of one leaves before he takes it. -/
theorem live_beside_cancelled :
    Live 1 .events (history {} [.attach none, .subscribe .events, .subscribe .time,
      .message 1 "[1,2,1,\x7b\x7d]", .message 1 "[1,2,2,\x7b\x7d]", .cancel 2]) ∧
    Abandoned
      ((fresh {}).run [.attach none, .subscribe .events, .subscribe .time,
        .message 1 "[1,2,1,\x7b\x7d]", .message 1 "[1,2,2,\x7b\x7d]", .cancel 2])
      (history {} [.attach none, .subscribe .events, .subscribe .time,
        .message 1 "[1,2,1,\x7b\x7d]", .message 1 "[1,2,2,\x7b\x7d]", .cancel 2])
      ⟨2, 1, .subscribe 2 .time⟩ 2 := by
  have all := routes_registry_live {} [.attach none, .subscribe .events, .subscribe .time,
    .message 1 "[1,2,1,\x7b\x7d]", .message 1 "[1,2,2,\x7b\x7d]", .cancel 2]
  exact ⟨(all.1.registry 1 .events).mp (by decide +kernel),
    all.2 ⟨2, 1, .subscribe 2 .time⟩ 2 .time (by decide +kernel) rfl (by decide +kernel)⟩

end Telemux.Client
