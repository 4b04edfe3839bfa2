import Telemux.Command.Run
import Telemux.Proofs.Delivery
import Telemux.Proofs.Feed
import Telemux.Proofs.Outcome
import Telemux.Proofs.Outdated

namespace Telemux

namespace Client

/-- What the server said last of itself, on whatever link. -/
def lastInfo : List Event → Option ConnectionInfo
  | [] => none
  | .pushed _ (.connectionInfo info) :: _ => some info
  | _ :: past => lastInfo past

/-- The server has said who it is on a link since the link was taken into use. -/
def Greeted (generation : Nat) (past : List Event) : Prop :=
  ∃ later earlier info, past = later ++ .opened generation :: earlier ∧
    .pushed generation (.connectionInfo info) ∈ later

variable {config : FrameConfig} {c : Client} {past : List Event}

theorem lastInfo_cons_of_ne {e : Event} (h : ∀ g info, e ≠ .pushed g (.connectionInfo info)) :
    lastInfo (e :: past) = lastInfo past := by
  cases e with
  | pushed g event =>
    cases event with
    | connectionInfo info => exact absurd rfl (h g info)
    | _ => rfl
  | _ => rfl

theorem lastInfo_append_of_quiet {newer : List Event}
    (quiet : ∀ g info, .pushed g (.connectionInfo info) ∉ newer) :
    lastInfo (newer ++ past) = lastInfo past := by
  induction newer with
  | nil => rfl
  | cons e newer ih =>
    rw [List.cons_append, lastInfo_cons_of_ne fun g info he => quiet g info (he ▸ List.mem_cons_self)]
    exact ih fun g info hm => quiet g info (List.mem_cons_of_mem _ hm)

theorem traced_info (h : Traced config c past) : c.info = lastInfo past := by
  induction h with
  | start => rfl
  | skip _ ih => exact ih
  | refuse _ _ _ ih => exact ih
  | @next c past e after ht hn ih =>
    cases hn with
    | greeted | informed => rfl
    | pushed hl he =>
      rw [lastInfo_cons_of_ne fun g info h => he info (Event.pushed.inj h).2]
      exact ih
    | _ => exact ih

theorem traced_connected (h : Traced config c past) :
    c.connected = true ↔ ∃ link, c.link = some link ∧ link.ready = true := by
  induction h with
  | start => simp [fresh]
  | skip _ ih => exact ih
  | @refuse c past g n _ ih =>
    rw [show (c.refuse g n).connected = c.connected from rfl, ih]
    cases hl : c.link with
    | none => simp [Client.refuse, hl]
    | some link => by_cases hg : link.generation = g <;> simp [Client.refuse, hl, hg, ActiveLink.limit]
  | @next c past e after ht hn ih =>
    cases hn with
    | lost | shut => simp
    | opened hc hl => simp [ih, hl]
    | subscribed hs | requested hs | replayed hs => simp [ih, sentOn, hs.current, ActiveLink.spend]
    | greeted => simp [greeted]
    | _ => exact ih

theorem traced_opened (h : Traced config c past) {link : ActiveLink} (hl : c.link = some link) :
    .opened link.generation ∈ past := by
  induction h generalizing link with
  | start => cases hl
  | skip _ ih => exact ih hl
  | refuse _ _ _ ih =>
    obtain ⟨old, ho, hg, -⟩ := link_refuse hl
    exact hg ▸ ih ho
  | next ht hn ih =>
    cases hn with
    | lost | shut => cases hl
    | opened hc hno =>
      cases hl
      exact List.mem_cons_self
    | subscribed hs | requested hs | replayed hs =>
      cases hl
      have old := ih hs.current
      exact List.mem_cons_of_mem _ old
    | greeted ho hr =>
      cases hl
      have old := ih ho
      exact List.mem_cons_of_mem _ old
    | _ => exact List.mem_cons_of_mem _ (ih hl)

/-- A generation is given once, so what a link says comes after it was opened. -/
theorem greeted_of_pushed (h : Traced config c past) {g : Nat} {info : ConnectionInfo}
    (opened : .opened g ∈ past) (hp : .pushed g (.connectionInfo info) ∈ past) : Greeted g past := by
  obtain ⟨later, earlier, rfl⟩ := List.append_of_mem opened
  refine ⟨later, earlier, info, rfl, ?_⟩
  rcases List.mem_append.mp hp with hm | hm
  · exact hm
  obtain ⟨after, ht⟩ := traced_append h
  obtain ⟨before, _, hb, hn⟩ := traced_cons ht
  have old := (List.mem_cons.mp hm).resolve_left (by simp)
  have below := traced_generation_le hb old rfl
  cases hn
  omega

theorem deliver_ne_connectionInfo {r : Route} {event : TopicEvent} {info : ConnectionInfo} :
    r.deliver event ≠ some (.connectionInfo info) := by
  intro hd
  by_cases data : ∃ data, event = .parameters data
  · obtain ⟨data, rfl⟩ := data
    simp [Route.deliver, Option.bind_eq_some_iff] at hd
  · have same := deliver_of_ne hd fun d he => data ⟨d, he⟩
    rw [← same, deliver_connectionInfo] at hd
    cases hd

/-- No stream ever gets to know who the server is. -/
theorem traced_unqueued (h : Traced config c past) (id : Nat) (info : ConnectionInfo) :
    .ok (.connectionInfo info) ∉ queueIn c.handles id := by
  induction h with
  | start => exact List.not_mem_nil
  | skip _ ih => exact ih
  | refuse _ _ _ ih => exact ih
  | next ht hn ih =>
    rcases queue_happens hn id with shorter | ⟨r, item, -, hq, fate⟩
    · exact fun hm => ih (shorter.subset hm)
    · rw [hq]
      intro hm
      rcases List.mem_append.mp hm with old | new
      · exact ih old
      · cases List.mem_singleton.mp new
        rcases fate with ⟨err, he⟩ | ⟨g, event, delivered, -, hd, he⟩
        · cases he
        · cases he
          exact deliver_ne_connectionInfo hd

theorem traced_unreceived (h : Traced config c past) (id : Nat) (info : ConnectionInfo) :
    .received id (.ok (.connectionInfo info)) ∉ past := by
  intro hm
  obtain ⟨later, earlier, rfl⟩ := List.append_of_mem hm
  obtain ⟨after, ht⟩ := traced_append h
  obtain ⟨before, _, hb, hn⟩ := traced_cons ht
  cases hn with
  | received hheld hq =>
    obtain ⟨found, -⟩ := Option.filter_eq_some_iff.mp hheld
    refine traced_unqueued hb id info ?_
    rw [queueIn_of_find found, hq]
    exact List.mem_cons_self

/-- Whether the client is connected, and as what, comes from what the server says of itself, and only
on the link in use. What it said last outlives the link. -/
structure Introduced (c : Client) (past : List Event) : Prop where
  connected : c.connected = true ↔ ∃ link, c.link = some link ∧ Greeted link.generation past
  info : c.info = lastInfo past
  said : ∀ s g info, .pushed g (.connectionInfo info) ∈ c.events s ↔
    c.isCurrent g = true ∧ ∃ text f, s = .message g text ∧ Frame.decode c.config text = .ok f ∧
      f.kind = .data ∧ eventOf? f = some (.connectionInfo info)
  learns : ∀ s g info, .pushed g (.connectionInfo info) ∈ c.events s → (c.step s).info = some info
  keeps : ∀ s, (∀ g info, .pushed g (.connectionInfo info) ∉ c.events s) → (c.step s).info = c.info
  known : c.connected = true → ∀ more, (c.run more).info.isSome = true
  unqueued : ∀ id handle info, c.handles.find? id = some handle →
    .ok (.connectionInfo info) ∉ handle.queue
  unreceived : ∀ id info, .received id (.ok (.connectionInfo info)) ∉ past

theorem said_iff {s : Step} {g : Nat} {info : ConnectionInfo} :
    .pushed g (.connectionInfo info) ∈ c.events s ↔
      c.isCurrent g = true ∧ ∃ text f, s = .message g text ∧ Frame.decode c.config text = .ok f ∧
        f.kind = .data ∧ eventOf? f = some (.connectionInfo info) := by
  constructor
  · intro hp
    obtain ⟨text, link, f, rfl, heard, hk, he⟩ := message_of_pushed hp
    obtain ⟨hl, hg, hd, -⟩ := message_of_heard heard
    exact ⟨isCurrent_iff.mpr ⟨link, hl, hg⟩, text, f, rfl, hd, hk, he⟩
  · rintro ⟨hg, text, f, rfl, hd, hk, he⟩
    obtain ⟨link, hl, rfl⟩ := isCurrent_iff.mp hg
    rw [events, heard_of_link hl hd]
    simp [hearing, hk, he]

theorem learns_of_said (h : Traced config c past) {s : Step} {g : Nat} {info : ConnectionInfo}
    (hp : .pushed g (.connectionInfo info) ∈ c.events s) : (c.step s).info = some info := by
  obtain ⟨text, link, f, rfl, heard, hk, he⟩ := message_of_pushed hp
  have all : c.events (.message g text) =
      .pushed link.generation (.connectionInfo info) :: c.greeting link info := by
    simp only [events, heard, hearing, hk, he]
  have quiet : ∀ k found, .pushed k (.connectionInfo found) ∉ (c.greeting link info).reverse := by
    intro k found hm
    unfold greeting at hm
    split at hm
    next => cases hm
    next => rcases mem_replaying (List.mem_reverse.mp hm) with ⟨_, _, _, _, _, hr⟩ | ⟨_, _, hr⟩ <;> cases hr
  rw [traced_info (lasting_step (lasting_traced config) h (.message g text)), all, List.reverse_cons,
    List.append_assoc, lastInfo_append_of_quiet quiet]
  rfl

theorem keeps_of_unsaid (h : Traced config c past) {s : Step}
    (quiet : ∀ g info, .pushed g (.connectionInfo info) ∉ c.events s) : (c.step s).info = c.info := by
  rw [traced_info (lasting_step (lasting_traced config) h s), traced_info h]
  exact lastInfo_append_of_quiet fun g info hm => quiet g info (List.mem_reverse.mp hm)

theorem info_run (h : Traced config c past) (hi : c.info.isSome = true) (more : List Step) :
    (c.run more).info.isSome = true := by
  induction more generalizing c past with
  | nil => exact hi
  | cons s rest ih =>
    refine ih (lasting_step (lasting_traced config) h s) ?_
    by_cases said : ∃ g info, .pushed g (.connectionInfo info) ∈ c.events s
    · obtain ⟨g, info, hp⟩ := said
      rw [learns_of_said h hp]
      rfl
    · rw [keeps_of_unsaid h fun g info hp => said ⟨g, info, hp⟩]
      exact hi

theorem connected_iff_greeted (h : Traced config c past) :
    c.connected = true ↔ ∃ link, c.link = some link ∧ Greeted link.generation past := by
  rw [traced_connected h]
  refine exists_congr fun link => and_congr_right fun hl => ?_
  rw [traced_ready h hl]
  constructor
  · rintro ⟨info, hp⟩
    exact greeted_of_pushed h (traced_opened h hl) hp
  · rintro ⟨later, earlier, info, rfl, hp⟩
    exact ⟨info, List.mem_append_left _ hp⟩

theorem lastInfo_of_mem {g : Nat} {info : ConnectionInfo} (h : .pushed g (.connectionInfo info) ∈ past) :
    (lastInfo past).isSome = true := by
  induction past with
  | nil => cases h
  | cons e past ih =>
    by_cases said : ∃ g info, e = .pushed g (.connectionInfo info)
    · obtain ⟨k, found, rfl⟩ := said
      rfl
    · rw [lastInfo_cons_of_ne fun k found he => said ⟨k, found, he⟩]
      exact ih ((List.mem_cons.mp h).resolve_left fun he => said ⟨g, info, he.symm⟩)

theorem info_of_connected (h : Traced config c past) (hc : c.connected = true) :
    c.info.isSome = true := by
  obtain ⟨link, -, later, earlier, info, rfl, hp⟩ := (connected_iff_greeted h).mp hc
  rw [traced_info h]
  exact lastInfo_of_mem (List.mem_append_left _ hp)

theorem waitConnected_cases {result : Except ClientError Unit} (h : c.waitConnected = some result) :
    result = .error .closed ∨ result = .ok () ∧ c.connected = true := by
  unfold waitConnected at h
  split at h
  next =>
    cases h
    exact Or.inl rfl
  next =>
    split at h
    next hc =>
      cases h
      exact Or.inr ⟨rfl, hc⟩
    next => cases h

theorem introduced (h : Traced config c past) : Introduced c past where
  connected := connected_iff_greeted h
  info := traced_info h
  said _ _ _ := said_iff
  learns _ _ _ := learns_of_said h
  keeps _ := keeps_of_unsaid h
  known hc := info_run h (info_of_connected h hc)
  unqueued id _ info hh := queueIn_of_find hh ▸ traced_unqueued h id info
  unreceived := traced_unreceived h

end Client

namespace Hub

/-- The client of one hub has only taken some steps since that of another. -/
def Follows (after h : Hub) : Prop :=
  ∃ steps, after.client = h.client.run steps

theorem Follows.refl (h : Hub) : h.Follows h :=
  ⟨[], rfl⟩

theorem Follows.of_client {after h : Hub} (same : after.client = h.client) : after.Follows h :=
  ⟨[], same⟩

theorem Follows.trans {last mid h : Hub} (later : last.Follows mid) (sooner : mid.Follows h) :
    last.Follows h := by
  obtain ⟨more, hm⟩ := later
  obtain ⟨steps, hs⟩ := sooner
  refine ⟨steps ++ more, ?_⟩
  rw [hm, hs]
  exact (List.foldl_append).symm

theorem follows_handle (h : Hub) (g : Nat) : (h.handle g).Follows h := by
  rcases h.client_of_handle g with same | ⟨text, said⟩ | ended
  · exact .of_client same
  · exact ⟨[.message g text], said⟩
  · exact ⟨[.linkClosed g], ended⟩

theorem follows_settle (h : Hub) : h.settle.Follows h := by
  refine settle_of_turns (P := (Follows · h)) (fun g k sooner => ?_) (.refl h)
  have stopped : (k.stop g).Follows k := .of_client (k.client_stop g)
  exact ((follows_handle _ g).trans stopped).trans sooner

theorem follows_hear (h : Hub) (g : Nat) (word : Inbound) : (h.hear g word).Follows h := by
  refine (follows_settle _).trans (.of_client ?_)
  unfold push
  split <;> rfl

end Hub

namespace InfoRun

/-- The failure of a command that is connected to a server which has never said who it is. -/
def anonymous : Failure :=
  ⟨Failure.generalCode, "server sent no connection info"⟩

theorem ofClosed_ne_anonymous : Failure.ofClient "connect failed" .closed ≠ anonymous := by
  decide

theorem await_ne_anonymous {config : FrameConfig} {h : Hub}
    (ht : ∃ past, Client.Traced config h.client past) (timeout g : Nat) (happenings : List Happening) :
    await timeout h g happenings ≠ .error anonymous := by
  induction happenings generalizing h with
  | nil => simp [await, timedOut, anonymous, Failure.timeoutCode, Failure.generalCode]
  | cons happening rest ih =>
    cases happening with
    | inbound word =>
      obtain ⟨past, ht⟩ := ht
      obtain ⟨steps, hs⟩ := h.follows_hear g word
      have traced := Client.lasting_run (Client.lasting_traced config) ht steps
      rw [← hs] at traced
      unfold await
      simp only
      cases hw : (h.hear g word).client.waitConnected with
      | none => exact ih ⟨_, traced⟩
      | some result =>
        rcases Client.waitConnected_cases hw with rfl | ⟨rfl, connected⟩
        · exact fun he => absurd (Except.error.inj he) ofClosed_ne_anonymous
        · obtain ⟨info, hi⟩ := Option.isSome_iff_exists.mp (Client.info_of_connected traced connected)
          simp [hi]
    | redialed result | interrupt => exact ih ht

theorem probe_ne_anonymous (plan : InfoPlan) (outside : Outside) : probe plan outside ≠ .error anonymous := by
  have begun : Client.Traced {} (Hub.fresh {}).client [] := .start
  have attached : ∃ past, Client.Traced {} ((Hub.fresh {}).attach none).1.client past :=
    ⟨_, Client.lasting_step (Client.lasting_traced {}) begun (.attach none)⟩
  unfold probe
  split
  next reason =>
    intro he
    have code := congrArg Failure.code (Except.error.inj he)
    cases code
  next =>
    split
    next he => cases he
    next h generation he =>
      rw [he] at attached
      exact await_ne_anonymous attached _ _ _

end InfoRun

theorem code_of_parseDuration {text : String} {f : Failure} (h : parseDuration text = .error f) :
    f.code = Failure.usageCode := by
  simp only [parseDuration] at h
  split at h
  next =>
    cases h
    rfl
  next =>
    split at h
    next =>
      cases h
      rfl
    next =>
      cases h
      rfl
    next => cases h

theorem code_of_resolveEndpoint {url : String} {site : Option String} {f : Failure}
    (h : resolveEndpoint url site = .error f) : f.code = Failure.usageCode := by
  unfold resolveEndpoint at h
  obtain ⟨fault, -, rfl⟩ := Client.exists_of_mapError h
  rfl

/-- Arguments that make no sense are the user's fault. -/
theorem code_of_infoPlan {a : InfoArguments} {f : Failure} (h : a.plan = .error f) :
    f.code = Failure.usageCode := by
  unfold InfoArguments.plan at h
  cases hd : parseDuration a.timeout with
  | error found =>
    rw [hd] at h
    cases h
    exact code_of_parseDuration hd
  | ok timeout =>
    rw [hd] at h
    cases he : resolveEndpoint a.url a.site with
    | error found =>
      rw [he] at h
      cases h
      exact code_of_resolveEndpoint he
    | ok endpoint =>
      rw [he] at h
      cases h

/-- The info command never ends up connected to a server it knows nothing of. -/
theorem info_ne_anonymous (outside : Endpoint → Outside) (format : OutputFormat) (a : InfoArguments) :
    (Command.run outside format (.info a)).result ≠ .error InfoRun.anonymous := by
  simp only [Command.run]
  cases hp : a.plan with
  | error f =>
    intro he
    have code := code_of_infoPlan hp
    rw [Except.error.inj he] at code
    cases code
  | ok plan =>
    simp only
    cases hr : InfoRun.probe plan (outside plan.endpoint) with
    | error f =>
      intro he
      rw [Except.error.inj he] at hr
      exact InfoRun.probe_ne_anonymous _ _ hr
    | ok found =>
      intro he
      cases he

namespace Client

/-- In every run, the client is connected exactly while the server has said who it is on the link in
use, and what it said last stays known from then on. No stream gets to hear it, and the info command
does not fail for want of it. -/
theorem connected_once_greeted (config : FrameConfig) (steps : List Step) :
    Introduced ((fresh config).run steps) (history config steps) ∧
    (∀ plan outside, InfoRun.probe plan outside ≠ .error InfoRun.anonymous) ∧
    ∀ outside format a, (Command.run outside format (.info a)).result ≠ .error InfoRun.anonymous :=
  ⟨introduced (traced_run config steps), InfoRun.probe_ne_anonymous, info_ne_anonymous⟩

/-- The server says who it is on one link, and then another link takes its place. -/
def replaced : List Step :=
  [.attach none, .message 1 "[1,4,0,\x7b\"dt\":\"CONNECTION_INFO\",\"data\":\x7b\"clientId\":7\x7d\x7d]",
    .attach none]

theorem known_when_replaced :
    ¬(∃ link, ((fresh {}).run replaced).link = some link ∧
      Greeted link.generation (history {} replaced)) ∧
    (lastInfo (history {} replaced)).isSome = true := by
  have known := (connected_once_greeted {} replaced).1
  have silent : ((fresh {}).run replaced).connected = false := by decide +kernel
  have info : ((fresh {}).run replaced).info.isSome = true := by decide +kernel
  refine ⟨fun greeted => ?_, known.info ▸ info⟩
  rw [known.connected.mpr greeted] at silent
  cases silent

end Client

end Telemux
