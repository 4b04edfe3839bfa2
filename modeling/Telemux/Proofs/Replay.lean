import Telemux.Proofs.Delivery
import Telemux.Proofs.Fates
import Telemux.Proofs.Live
import Telemux.Proofs.Wire

namespace Telemux.Client

/-- The first time that the server tells on the link in use who the client is. -/
def FirstInfo (c : Client) (past : List Event) (s : Step) (g : Nat) : Prop :=
  c.isCurrent g = true ∧ (∀ info, .pushed g (.connectionInfo info) ∉ past) ∧
    ∃ text f info, s = .message g text ∧ Frame.decode c.config text = .ok f ∧ f.kind = .data ∧
      eventOf? f = some (.connectionInfo info)

/-- A subscription that waits for a later link, or for the answer to its replay on this one. -/
structure Suspended (c : Client) (past : List Event) (id : Nat) (topic : Topic) (g : Nat) : Prop where
  live : Live id topic past
  registered : (c.registry.find? id).map (·.topic) = some topic
  unconfirmed : ∀ reply, lastReply id past ≠ some (g, reply)
  interrupted : ∃ handle, c.handles.find? id = some handle ∧ handle.interrupted = true

/-- A subscription that ends in a step. The error is the last item that its stream ever gets. -/
structure EndsWith (c after : Client) (past : List Event) (id : Nat) (e : ClientError) : Prop where
  dead : ∀ topic, ¬Live id topic past
  unrouted : after.routes.find? id = none
  unregistered : after.registry.find? id = none
  queued : queueIn after.handles id = queueIn c.handles id ++ [.error e]
  last : ∀ more, queueIn (after.run more).handles id <:+ queueIn after.handles id

/-- What the first word of the server on a link does for the subscriptions: those that are live and not
confirmed on the link are replayed one after the other. -/
structure Restores (c after : Client) (past past' : List Event) (g : Nat)
    (fs : List ((Nat × Topic) × Fate)) : Prop where
  due : ∀ id topic, (∃ fate, ((id, topic), fate) ∈ fs) ↔
    Live id topic past ∧ ∀ reply, lastReply id past ≠ some (g, reply)
  ascending : fs.Pairwise fun x y => x.1.1 < y.1.1
  texts : after.written = c.written ++ fs.filterMap (wireOf g)
  consecutive : ∃ n, fs.filterMap sequenceOf = List.range' c.correlator.next n
  frames : ∀ id topic fate, ((id, topic), fate) ∈ fs → ∃ p body, .sent p body ∈ past ∧
    p.purpose = .subscribe id topic ∧ fate.Fits c.config body
  kept : ∀ id topic fate, ((id, topic), fate) ∈ fs → (∀ e, fate ≠ .unencodable e) →
    Suspended after past' id topic g
  ended : ∀ id topic e, ((id, topic), .unencodable e) ∈ fs → EndsWith c after past' id (.frame e)
  refused : ∃ handled left, fs = handled ++ left ∧ (∀ x ∈ handled, x.2 ≠ .refused) ∧
    (∀ x ∈ left, x.2 = .refused) ∧
    (left ≠ [] → ∃ link, after.link = some link ∧ link.generation = g ∧ link.accepting = false)
  others : ∀ id, (∀ topic e, ((id, topic), .unencodable e) ∉ fs) →
    after.routes.find? id = c.routes.find? id ∧ after.registry.find? id = c.registry.find? id ∧
      after.handles.find? id = c.handles.find? id
  events : ∃ info, past' = (fs.filterMap (eventFor g)).reverse ++ .pushed g (.connectionInfo info) :: past

/-- Replays are made once on a link, on later links than that of the subscription, and as long as its
handle is not given up. -/
structure ReplaysOnce (config : FrameConfig) (c : Client) (past : List Event) : Prop where
  texts : c.written.filter isText = (past.filterMap (wire? config)).reverse
  once : (requests past).Pairwise fun p q => ∀ id t u, p.purpose = .replay id t →
    q.purpose = .replay id u → p.generation ≠ q.generation
  later : ∀ p q id t u, p ∈ requests past → q ∈ requests past → p.purpose = .subscribe id t →
    q.purpose = .replay id u → p.generation < q.generation
  before : ∀ newer older id, past = newer ++ .detached id :: older →
    ∀ p body t, .sent p body ∈ newer → p.purpose ≠ .replay id t

variable {config : FrameConfig} {c : Client} {past : List Event}

theorem replaysOnce (h : Traced config c past) : ReplaysOnce config c past := by
  refine ⟨traced_texts h, traced_replays_once h, fun p q id t u hp hq ho hr =>
    traced_replay_later h hp hq ho hr, ?_⟩
  rintro newer older id rfl p body t hp hq
  obtain ⟨since, between, rfl⟩ := List.append_of_mem hp
  rw [List.append_assoc] at h
  have live := live_of_replayed h hq
  obtain ⟨after, ht⟩ := traced_append h
  obtain ⟨before, _, hb, _⟩ := traced_cons ht
  exact not_live_of_detached hb (List.mem_append_right _ List.mem_cons_self) t live

theorem suspended (h : Traced config c past) {link : ActiveLink} (hl : c.link = some link) {id n : Nat}
    {topic : Topic} (hs : c.registry.find? id = some ⟨topic, n⟩) (hn : n < link.generation) :
    Suspended c past id topic link.generation := by
  have registered : (c.registry.find? id).map (·.topic) = some topic := by rw [hs]; rfl
  obtain ⟨reply, hb⟩ := traced_bound h hs
  obtain ⟨handle, hh⟩ := Option.isSome_iff_exists.mp (traced_handled h hs)
  refine ⟨(traced_live h id topic).mp registered, registered, fun other he => ?_, handle, hh, ?_⟩
  · have same := hb.last.symm.trans he
    cases same
    exact Nat.lt_irrefl _ hn
  · rw [traced_interrupted h hs hh, isCurrent_of_link hl]
    simpa using Nat.ne_of_gt hn

theorem queue_of_ended (h : Traced config c past) {id : Nat} {p : Pending Purpose} {t : Topic}
    (hp : p ∈ requests past) (hq : p.purpose = .subscribe id t) (hw : p ∉ waiting past)
    (dead : ∀ topic, ¬Live id topic past) (more : List Step) :
    queueIn (c.run more).handles id <:+ queueIn c.handles id := by
  have lasting : Lasting config fun c' past' => Traced config c' past' ∧
      ∃ newer, past' = newer ++ past ∧ queueIn c'.handles id <:+ queueIn c.handles id := by
    refine ⟨And.left, fun h => ⟨h.1.skip, h.2⟩, fun h g n => ⟨h.1.refuse g n, h.2⟩, ?_⟩
    rintro c' past' e after ⟨ht, newer, rfl, hk⟩ hn
    refine ⟨ht.next hn, e :: newer, rfl, ?_⟩
    rcases queue_happens hn id with shorter | ⟨r, item, hr, -⟩
    · exact shorter.trans hk
    · have live : Live id r.topic (newer ++ past) :=
        (routed_iff_live ht id r.topic).mp (by rw [hr]; rfl)
      exact absurd live (not_live_again ht hp hq hw dead r.topic)
  obtain ⟨-, -, -, hk⟩ := lasting_run lasting ⟨h, [], rfl, List.suffix_refl _⟩ more
  exact hk

theorem endsWith (h : Traced config c past) {id : Nat} {s : Subscribed}
    (hs : c.registry.find? id = some s) {after : Client} {newer : List Event}
    (ht : Traced config after (newer ++ past)) {e : ClientError}
    (unrouted : after.routes.find? id = none) (unregistered : after.registry.find? id = none)
    (hh : after.handles.find? id =
      (c.handles.find? id).map fun h => { h with queue := h.queue ++ [.error e] }) :
    EndsWith c after (newer ++ past) id e := by
  have dead : ∀ topic, ¬Live id topic (newer ++ past) := by
    intro topic
    rw [← traced_live ht, unregistered]
    simp
  obtain ⟨handle, found⟩ := Option.isSome_iff_exists.mp (traced_handled h hs)
  obtain ⟨p, hp, hq, hw⟩ := exists_made_of_live h ((traced_live h id s.topic).mp (by rw [hs]; rfl))
  refine ⟨dead, unrouted, unregistered, by simp [queueIn, hh, found], fun more => ?_⟩
  exact queue_of_ended ht (mem_requests_append _ hp) hq (not_waiting_later ht hp hw) dead more

theorem greet_of_unready {link : ActiveLink} (hr : link.ready = false) (info : ConnectionInfo) :
    c.greet link info = (c.greeted link info).replay (c.stale link.generation) ∧
      c.greeting link info = (c.greeted link info).replaying (c.stale link.generation) := by
  unfold greet greeting
  rw [hr]
  exact ⟨rfl, rfl⟩

theorem mem_stale_iff (h : Traced config c past) {link : ActiveLink} (hl : c.link = some link) {id : Nat}
    {topic : Topic} : (id, topic) ∈ c.stale link.generation ↔
      Live id topic past ∧ ∀ reply, lastReply id past ≠ some (link.generation, reply) := by
  rw [mem_stale]
  constructor
  · rintro ⟨n, hs, hn⟩
    have waits := suspended h hl hs hn
    exact ⟨waits.live, waits.unconfirmed⟩
  · rintro ⟨live, unconfirmed⟩
    obtain ⟨s, hs, rfl⟩ := Option.map_eq_some_iff.mp ((traced_live h id topic).mpr live)
    obtain ⟨reply, hb⟩ := traced_bound h hs
    have older := (traced_made h hs).2
    have current := (traced_link h).2 link hl
    refine ⟨s.generation, hs, ?_⟩
    have other : s.generation ≠ link.generation := by
      intro he
      rw [← he] at unconfirmed
      exact unconfirmed reply hb.last
    omega

theorem restores (h : Traced config c past) {link : ActiveLink} (hl : c.link = some link)
    (hr : link.ready = false) (info : ConnectionInfo) :
    Restores c (c.greet link info) past
      ((c.greeting link info).reverse ++ .pushed link.generation (.connectionInfo info) :: past)
      link.generation (fates c.config c.correlator.next link.room (c.stale link.generation)) := by
  have ht := @lasting_greet config c past _ link info (lasting_traced config) h hl
  obtain ⟨hgreet, hgreeting⟩ := @greet_of_unready c link hr info
  have unclosed : c.closed = false := traced_open h hl
  obtain ⟨round, hev⟩ := @replay_round (c.greeted link info) { link with ready := true }
    (c.stale link.generation) unclosed rfl (stale_keys_nodup c _)
  rw [← hgreet] at round
  rw [← hgreeting] at hev
  generalize hfs : fates c.config c.correlator.next link.room (c.stale link.generation) = fs
  have round : Round (c.greeted link info) (c.greet link info) { link with ready := true } fs :=
    hfs ▸ round
  have hev : c.greeting link info = fs.filterMap (eventFor link.generation) := hfs ▸ hev
  have keys : fs.map Prod.fst = c.stale link.generation := hfs ▸ map_fst_fates _ _ _
  have mem_due : ∀ {id topic fate}, ((id, topic), fate) ∈ fs → (id, topic) ∈ c.stale link.generation :=
    fun hm => keys ▸ List.mem_map.mpr ⟨_, hm, rfl⟩
  have ascending : fs.Pairwise fun x y => x.1.1 < y.1.1 := by
    have sorted := stale_keys_sorted c link.generation
    rw [← keys, List.map_map] at sorted
    exact List.pairwise_map.mp sorted
  obtain ⟨l, hlink, hg, hfull⟩ := round.link
  refine ⟨fun id topic => ?_, ascending, round.written, hfs ▸ sequences_fates _ _ _,
    fun id topic fate hm => ?_, fun id topic fate hm hne => ?_, fun id topic e hm => ?_, ?_,
    round.spared, info, by rw [hev]⟩
  · rw [← mem_stale_iff h hl, ← keys, List.mem_map]
    constructor
    · rintro ⟨fate, hm⟩
      exact ⟨_, hm, rfl⟩
    · rintro ⟨⟨d, fate⟩, hm, rfl⟩
      exact ⟨fate, hm⟩
  · obtain ⟨n, hs, hn⟩ := mem_stale.mp (mem_due hm)
    obtain ⟨⟨p, later, earlier, f, reply, hsent, hq, -⟩, -⟩ := traced_made h hs
    exact ⟨p, _, hsent ▸ List.mem_append_right _ List.mem_cons_self, hq,
      fits_of_mem_fates (hfs ▸ hm)⟩
  · obtain ⟨n, hs, hn⟩ := mem_stale.mp (mem_due hm)
    have spare : ∀ t e, ((id, t), .unencodable e) ∉ fs := by
      intro t e hu
      have distinct : (fs.map (·.1.1)).Nodup := List.pairwise_map.mpr (ascending.imp Nat.ne_of_lt)
      have same := List.inj_on_of_nodup_map distinct hm hu rfl
      cases same
      exact hne e rfl
    have still := (round.spared id spare).2.1.trans hs
    have waits := suspended ht hlink still (hg ▸ hn)
    rwa [hg] at waits
  · obtain ⟨n, hs, hn⟩ := mem_stale.mp (mem_due hm)
    obtain ⟨hroutes, hregistry, hhandles⟩ := round.ended id topic e hm
    obtain ⟨r, hr, -⟩ := exists_routed h hs
    have routed : (c.greeted link info).routes.contains id = true := by
      show (c.routes.find? id).isSome = true
      rw [hr]
      rfl
    rw [routed, if_pos rfl] at hhandles
    have apart : (c.greeting link info).reverse ++ .pushed link.generation (.connectionInfo info) :: past =
        ((c.greeting link info).reverse ++ [.pushed link.generation (.connectionInfo info)]) ++ past := by
      simp
    rw [apart] at ht ⊢
    exact endsWith h hs ht hroutes hregistry hhandles
  · obtain ⟨handled, left, hsplit, hh, hleft⟩ := @fates_split c.config c.correlator.next link.room
      (c.stale link.generation)
    refine ⟨handled, left, hfs ▸ hsplit, hh, hleft, fun hne => ⟨l, hlink, hg, hfull ?_⟩⟩
    obtain ⟨x, hx⟩ := List.exists_mem_of_ne_nil _ hne
    exact ⟨x, by rw [← hfs, hsplit]; exact List.mem_append_right _ hx, hleft x hx⟩

theorem unready_iff (h : Traced config c past) {link : ActiveLink} (hl : c.link = some link) :
    link.ready = false ↔ ∀ info, .pushed link.generation (.connectionInfo info) ∉ past := by
  rw [← Bool.not_eq_true, traced_ready h hl, not_exists]

theorem firstInfo_of_replayed (h : Traced config c past) {s : Step} {p : Pending Purpose}
    {body : RequestBody} {id : Nat} {topic : Topic} (hm : .sent p body ∈ c.events s)
    (hq : p.purpose = .replay id topic) : FirstInfo c past s p.generation := by
  rcases mem_events hm with ⟨-, calls⟩ | ⟨g, text, link, f, rfl, hh, ha⟩
  · have call := calls p body rfl
    simp [hq, Purpose.isCall] at call
  obtain ⟨hl, rfl, hf, -⟩ := message_of_heard hh
  rcases mem_hearing ha with he | ⟨hk, event, he, hp | ⟨info, rfl, replay⟩⟩
  · cases he
  · cases hp
  have unready : link.ready = false := by
    cases hr : link.ready with
    | false => rfl
    | true => simp [greeting, hr] at replay
  obtain ⟨-, hev⟩ := @replay_round (c.greeted link info) { link with ready := true }
    (c.stale link.generation) (show c.closed = false from traced_open h hl) rfl (stale_keys_nodup c _)
  rw [(@greet_of_unready c link unready info).2, hev] at replay
  obtain ⟨⟨d, fate⟩, -, hfate⟩ := List.mem_filterMap.mp replay
  cases fate with
  | written sequence out =>
    cases hfate
    exact ⟨by simp [isCurrent_of_link hl], (unready_iff h hl).mp unready, text, f, info, rfl, hf, hk, he⟩
  | unencodable | refused => cases hfate

theorem restores_of_firstInfo (h : Traced config c past) {s : Step} {g : Nat}
    (first : FirstInfo c past s g) :
    ∃ fs, Restores c (c.step s) past ((c.events s).reverse ++ past) g fs := by
  obtain ⟨hcur, unheard, text, f, info, rfl, hf, hk, he⟩ := first
  obtain ⟨link, hl, rfl⟩ := isCurrent_iff.mp hcur
  have unready : link.ready = false := (unready_iff h hl).mpr unheard
  have heard := heard_of_link hl hf
  have hstep : c.step (.message link.generation text) = c.greet link info := by
    show c.message _ _ = _
    rw [(message_of_heard heard).2.2.2, hk, he]
    rfl
  have hevents : c.events (.message link.generation text) =
      .pushed link.generation (.connectionInfo info) :: c.greeting link info := by
    simp only [events, heard, hearing, hk, he]
  rw [hstep, hevents, List.reverse_cons, List.append_assoc, List.singleton_append]
  exact ⟨_, restores h hl unready info⟩

/-- In every run, the first word of the server on a link restores what is live and not confirmed there,
and nothing else ever replays anything. -/
theorem replays_on_first_info (config : FrameConfig) (steps : List Step) :
    (∀ s g, FirstInfo ((fresh config).run steps) (history config steps) s g → ∃ fs,
      Restores ((fresh config).run steps) ((fresh config).run (steps ++ [s])) (history config steps)
        (history config (steps ++ [s])) g fs) ∧
    (∀ s p body id topic, .sent p body ∈ ((fresh config).run steps).events s →
      p.purpose = .replay id topic →
        FirstInfo ((fresh config).run steps) (history config steps) s p.generation) ∧
    ReplaysOnce config ((fresh config).run steps) (history config steps) := by
  have h := traced_run config steps
  refine ⟨fun s g first => ?_, fun s p body id topic hm hq => firstInfo_of_replayed h hm hq,
    replaysOnce h⟩
  rw [run_concat, history_concat]
  exact restores_of_firstInfo h first

/-- The second link takes the replay of one subscription only. -/
def scarcity : List Step :=
  [.attach none, .subscribe .events, .subscribe .time, .message 1 "[1,2,1,\x7b\x7d]",
    .message 1 "[1,2,2,\x7b\x7d]", .attach (some 1)]

theorem replays_in_scarcity : ∃ fs,
    Restores ((fresh {}).run scarcity)
      ((fresh {}).run (scarcity ++
        [.message 2 "[1,4,0,\x7b\"dt\":\"CONNECTION_INFO\",\"data\":\x7b\x7d\x7d]"]))
      (history {} scarcity)
      (history {} (scarcity ++
        [.message 2 "[1,4,0,\x7b\"dt\":\"CONNECTION_INFO\",\"data\":\x7b\x7d\x7d]"])) 2 fs := by
  have quiet : ((history {} scarcity).filter (·.isWord)).all (·.generation? = some 1) := by
    decide +kernel
  refine (replays_on_first_info {} scarcity).1 _ 2 ⟨by decide +kernel, fun info hm => ?_, _,
    ⟨1, .data, 0, .object [("dt", .string "CONNECTION_INFO"), ("data", .object [])]⟩,
    ⟨0, .none, .none⟩, rfl, by decide +kernel, rfl, by decide +kernel⟩
  have old := List.all_eq_true.mp quiet _ (List.mem_filter.mpr ⟨hm, rfl⟩)
  cases old

end Telemux.Client
