import Telemux.Proofs.Feed
import Telemux.Proofs.Record
import Telemux.Proofs.Reordering

namespace Telemux

/-- The tags under which the server pushes for a topic. -/
def Topic.HasTag (topic : Topic) (tag : String) : Prop :=
  match topic with
  | .events => tag = "EVENT"
  | .time => tag = "TIME_INFO"
  | .links _ => tag = "LINK_EVENT"
  | .streamEvents _ => tag = "STREAM_EVENT"
  | .alarms _ => "ALARM_DATA".toList <:+ tag.toList
  | .clients _ => tag = "CLIENT_INFO"
  | .statistics _ => tag = "PROCESSING_STATISTICS"
  | .stream _ => tag = "STREAM_DATA"
  | .instances => tag = "INSTANCE"
  | .processors _ => tag = "PROCESSOR_INFO"
  | .commandQueues _ _ => tag = "COMMAND_QUEUE_INFO"
  | .commandQueueEvents _ _ => tag = "COMMAND_QUEUE_EVENT"
  | .parameters _ => tag = "PARAMETER"

instance (topic : Topic) (tag : String) : Decidable (topic.HasTag tag) :=
  match topic with
  | .alarms _ => inferInstanceAs (Decidable ("ALARM_DATA".toList <:+ tag.toList))
  | .events | .time | .links _ | .streamEvents _ | .clients _ | .statistics _ | .stream _ | .instances
  | .processors _ | .commandQueues _ _ | .commandQueueEvents _ _ | .parameters _ =>
    inferInstanceAs (Decidable (tag = _))

/-- Whether what is found is what a scope asks for. No scope asks for nothing. -/
def Confines (scope : Option String) (found : Option Value) : Prop :=
  ∀ name, scope = some name → found = some (.string name)

instance (scope : Option String) (found : Option Value) : Decidable (Confines scope found) :=
  match scope with
  | none => .isTrue nofun
  | some name => decidable_of_iff (found = some (.string name)) (by simp [Confines])

/-- Whether pushed data is within what a subscription is narrowed to. -/
def Topic.Covers (topic : Topic) (binding : Binding) (data : Value) : Prop :=
  match topic with
  | .links site => Confines site ((data.part "linkInfo" 1).bind (·.under "instance"))
  | .clients site | .statistics site => Confines site (data.under "instance")
  | .stream name => data.under "stream" = some (.string name)
  | .commandQueues site processor =>
    Confines site (data.under "instance") ∧ Confines processor (data.under "processorName")
  | .commandQueueEvents site processor =>
    Confines site ((data.part "data" 1).bind (·.under "instance")) ∧
      Confines processor ((data.part "data" 1).bind (·.under "processorName"))
  | .parameters _ =>
    given (data.part "subscriptionId" 0) = binding.subscriptionId.map fun n => .number (.int n)
  | _ => True

instance (topic : Topic) (binding : Binding) (data : Value) : Decidable (topic.Covers binding data) :=
  match topic with
  | .links _ | .clients _ | .statistics _ => inferInstanceAs (Decidable (Confines _ _))
  | .stream _ | .parameters _ => inferInstanceAs (Decidable (_ = _))
  | .commandQueues _ _ | .commandQueueEvents _ _ => inferInstanceAs (Decidable (_ ∧ _))
  | .events | .time | .streamEvents _ | .alarms _ | .instances | .processors _ => .isTrue trivial

def Topic.eventKind : Topic → EventKind
  | .events => .log
  | .time => .time
  | .links _ => .link
  | .streamEvents _ => .stream
  | .alarms _ => .alarm
  | .clients _ => .client
  | .statistics _ => .statistics
  | .stream _ => .streamData
  | .instances => .instanceInfo
  | .processors _ => .processor
  | .commandQueues _ _ => .commandQueue
  | .commandQueueEvents _ _ => .commandQueueEvent
  | .parameters _ => .parameters

namespace EventKind

theorem ofTag?_tag (kind : EventKind) : ofTag? kind.tag = some kind := by
  cases kind <;> decide

/-- No other tag ends as those of alarms do. -/
theorem isAlarmTag_tag {kind : EventKind} (plain : kind ≠ .alarm) : isAlarmTag kind.tag = false := by
  cases kind <;> first | exact absurd rfl plain | decide

theorem ofTag?_eq_some_iff {tag : String} {kind : EventKind} :
    ofTag? tag = some kind ↔ if kind = .alarm then isAlarmTag tag = true else tag = kind.tag := by
  constructor
  · intro h
    unfold ofTag? at h
    split at h
    next found hf =>
      cases h
      have plain : kind ≠ .alarm := by
        rintro rfl
        exact absurd (List.mem_of_find?_eq_some hf) (by decide)
      have named : kind.tag = tag := by simpa using List.find?_some hf
      rw [if_neg plain, named]
    next =>
      split at h
      next suffix =>
        cases h
        exact suffix
      next => cases h
  · intro h
    split at h
    next alarm =>
      subst alarm
      have other : plainKinds.find? (·.tag = tag) = none := by
        refine List.find?_eq_none.mpr fun kind known same => ?_
        have named : kind.tag = tag := by simpa using same
        have plain : kind ≠ .alarm := by
          rintro rfl
          exact absurd known (by decide)
        rw [← named, isAlarmTag_tag plain] at h
        cases h
      rw [ofTag?, other]
      exact if_pos h
    next =>
      rw [h]
      exact ofTag?_tag kind

end EventKind

namespace Topic

theorem hasTag_iff {topic : Topic} {tag : String} :
    topic.HasTag tag ↔ EventKind.ofTag? tag = some topic.eventKind := by
  rw [EventKind.ofTag?_eq_some_iff]
  cases topic with
  | alarms options => exact List.isSuffixOf_iff_suffix.symm
  | _ => rfl

/-- No tag belongs to two kinds of topics. -/
theorem name_of_hasTag {t u : Topic} {tag : String} (ht : t.HasTag tag) (hu : u.HasTag tag) :
    t.name = u.name := by
  have same : t.eventKind = u.eventKind :=
    Option.some.inj ((hasTag_iff.mp ht).symm.trans (hasTag_iff.mp hu))
  cases t <;> cases u <;> first | rfl | cases same

theorem not_hasTag_connectionInfo (topic : Topic) : ¬topic.HasTag "CONNECTION_INFO" := by
  rw [hasTag_iff]
  have known : EventKind.ofTag? "CONNECTION_INFO" = some .connectionInfo := EventKind.ofTag?_tag .connectionInfo
  rw [known]
  cases topic <;> nofun

/-- Every kind of event but one is that of some topic. -/
theorem exists_eventKind {kind : EventKind} (h : kind ≠ .connectionInfo) :
    ∃ topic : Topic, topic.eventKind = kind := by
  cases kind with
  | connectionInfo => exact absurd rfl h
  | log => exact ⟨.events, rfl⟩
  | time => exact ⟨.time, rfl⟩
  | link => exact ⟨.links none, rfl⟩
  | stream => exact ⟨.streamEvents "", rfl⟩
  | alarm => exact ⟨.alarms ⟨none⟩, rfl⟩
  | client => exact ⟨.clients none, rfl⟩
  | statistics => exact ⟨.statistics none, rfl⟩
  | streamData => exact ⟨.stream "", rfl⟩
  | instanceInfo => exact ⟨.instances, rfl⟩
  | processor => exact ⟨.processors ⟨none, none⟩, rfl⟩
  | commandQueue => exact ⟨.commandQueues none none, rfl⟩
  | commandQueueEvent => exact ⟨.commandQueueEvents none none, rfl⟩
  | parameters => exact ⟨.parameters (.numeric []), rfl⟩

theorem kind_of_accepts {topic : Topic} {event : TopicEvent} (h : topic.accepts event = true) :
    event.kind = topic.eventKind := by
  unfold accepts at h
  split at h <;> first | rfl | cases h

end Topic

namespace TopicEvent

theorem kind_of_read {kind : EventKind} {data : Value} {event : TopicEvent}
    (h : read kind data = .ok event) : event.kind = kind := by
  cases kind <;>
  · obtain ⟨x, -, rfl⟩ := exists_of_map h
    rfl

theorem decode_eq_some_iff {tag : String} {data : Value} {event : TopicEvent} :
    decode tag data = .ok (some event) ↔
      EventKind.ofTag? tag = some event.kind ∧ read event.kind data = .ok event := by
  unfold decode
  cases hk : EventKind.ofTag? tag with
  | none => simp
  | some kind =>
    constructor
    · intro h
      obtain ⟨x, hx, he⟩ := exists_of_map h
      cases he
      rw [kind_of_read hx]
      exact ⟨rfl, hx⟩
    · rintro ⟨hkind, h⟩
      cases hkind
      exact congrArg (Except.map some) h

/-- The tags that are skipped belong to no topic. -/
theorem decode_eq_none_iff {tag : String} {data : Value} :
    decode tag data = .ok none ↔ tag ≠ "CONNECTION_INFO" ∧ ∀ topic : Topic, ¬topic.HasTag tag := by
  unfold decode
  cases hk : EventKind.ofTag? tag with
  | none =>
    refine ⟨fun _ => ⟨?_, fun topic has => ?_⟩, fun _ => rfl⟩
    · rintro rfl
      cases hk
    · rw [Topic.hasTag_iff, hk] at has
      cases has
  | some kind =>
    refine ⟨fun h => ?_, fun ⟨other, free⟩ => ?_⟩
    · obtain ⟨x, -, he⟩ := exists_of_map h
      cases he
    · have named : kind ≠ .connectionInfo := by
        rintro rfl
        exact other (EventKind.ofTag?_eq_some_iff.mp hk)
      obtain ⟨topic, rfl⟩ := Topic.exists_eventKind named
      exact absurd (Topic.hasTag_iff.mpr hk) (free topic)

end TopicEvent

section

variable {scope : Option String} {found : Option Value}

theorem inScope_required {name : String} (gets : (Slot.required .text).Gets found name) :
    inScope scope (some name) = true ↔ Confines scope found := by
  obtain ⟨v, rfl, read⟩ := Slot.gets_required.mp gets
  rw [Codec.text_read.mp read]
  cases scope <;> simp [inScope, Confines, eq_comm]

theorem inScope_optional {name : Option String} (gets : (Slot.optional .text).Gets found name) :
    inScope scope name = true ↔ Confines scope found := by
  rcases Slot.gets_optional.mp gets with ⟨nothing, rfl⟩ | ⟨v, y, something, read, rfl⟩
  · have silent : ∀ name, found ≠ some (.string name) := by
      rintro name rfl
      cases nothing
    cases scope <;> simp [inScope, Confines, silent]
  · rw [Codec.text_read.mp read] at something
    rw [(Option.filter_eq_some_iff.mp something).1]
    cases scope <;> simp [inScope, Confines, eq_comm]

end

section

variable {data : Value}

theorem LinkInfo.gets_instance {info : LinkInfo} (h : codec.read data = .ok info) :
    (Slot.required .text).Gets (data.under "instance") info.instanceName :=
  Codec.of_openRecord h fun _ gets _ _ _ _ _ => gets

theorem LinkEvent.gets_linkInfo {e : LinkEvent} (h : codec.read data = .ok e) :
    (Slot.required LinkInfo.codec).Gets (data.part "linkInfo" 1) e.linkInfo :=
  Codec.of_closedRecord h fun _ _ _ gets => gets

theorem StreamData.gets_stream {e : StreamData} (h : codec.read data = .ok e) :
    (Slot.required .text).Gets (data.under "stream") e.stream :=
  Codec.of_openRecord h fun _ gets _ => gets

theorem ClientInfo.gets_instance {e : ClientInfo} (h : codec.read data = .ok e) :
    (Slot.optional .text).Gets (data.under "instance") e.instanceName :=
  Codec.of_openRecord h fun _ gets _ _ _ _ _ => gets

theorem Statistics.gets_instance {e : Statistics} (h : codec.read data = .ok e) :
    (Slot.optional .text).Gets (data.under "instance") e.instanceName :=
  Codec.of_openRecord h fun _ gets _ _ _ => gets

theorem CommandQueue.gets_names {e : CommandQueue} (h : codec.read data = .ok e) :
    (Slot.optional .text).Gets (data.under "instance") e.instanceName ∧
      (Slot.optional .text).Gets (data.under "processorName") e.processorName :=
  Codec.of_openRecord h fun _ site _ processor _ _ _ => ⟨site, processor⟩

theorem CommandQueueEntry.gets_names {e : CommandQueueEntry} (h : codec.read data = .ok e) :
    (Slot.optional .text).Gets (data.under "instance") e.instanceName ∧
      (Slot.optional .text).Gets (data.under "processorName") e.processorName :=
  Codec.of_openRecord h fun _ site _ processor _ _ _ => ⟨site, processor⟩

theorem CommandQueueEvent.gets_entry {e : CommandQueueEvent} (h : codec.read data = .ok e) :
    (Slot.required CommandQueueEntry.codec).Gets (data.part "data" 1) e.entry :=
  Codec.of_closedRecord h fun _ _ _ gets => gets

theorem ParameterData.gets_subscriptionId {e : ParameterData} (h : codec.read data = .ok e) :
    (Slot.optional .int64).Gets (data.part "subscriptionId" 0) e.subscriptionId :=
  Codec.of_closedRecord h fun _ gets _ _ => gets

end

theorem given_eq_map_iff {found : Option Value} {n m : Option Int}
    (gets : (Slot.optional .int64).Gets found n) :
    n = m ↔ given found = m.map fun n => .number (.int n) := by
  rcases Slot.gets_optional.mp gets with ⟨nothing, rfl⟩ | ⟨v, k, something, read, rfl⟩
  · rw [nothing]
    cases m <;> simp
  · rw [something, Codec.int64_read read]
    cases m <;> simp

theorem isSome_deliver {event : TopicEvent} (other : ∀ data, event ≠ .parameters data) (r : Route) :
    (r.deliver event).isSome = r.topic.accepts event := by
  unfold Route.deliver
  cases r.topic.accepts event with
  | false => rfl
  | true =>
    cases event with
    | parameters data => exact absurd rfl (other data)
    | _ => rfl

/-- An event of a topic's kind belongs to a subscription exactly when its document is within what the
subscription is narrowed to. -/
theorem deliver_isSome_iff {topic : Topic} {data : Value} {event : TopicEvent}
    (h : TopicEvent.read topic.eventKind data = .ok event) (binding : Binding) :
    ((⟨topic, some binding⟩ : Route).deliver event).isSome = true ↔ topic.Covers binding data := by
  cases topic with
  | links site =>
    obtain ⟨e, he, rfl⟩ := exists_of_map h
    obtain ⟨info, found, read⟩ := Slot.gets_required.mp (LinkEvent.gets_linkInfo he)
    rw [isSome_deliver (by nofun), Topic.Covers, found]
    exact inScope_required (LinkInfo.gets_instance read)
  | clients site =>
    obtain ⟨e, he, rfl⟩ := exists_of_map h
    rw [isSome_deliver (by nofun)]
    exact inScope_optional (ClientInfo.gets_instance he)
  | statistics site =>
    obtain ⟨e, he, rfl⟩ := exists_of_map h
    rw [isSome_deliver (by nofun)]
    exact inScope_optional (Statistics.gets_instance he)
  | stream name =>
    obtain ⟨e, he, rfl⟩ := exists_of_map h
    obtain ⟨v, found, read⟩ := Slot.gets_required.mp (StreamData.gets_stream he)
    rw [isSome_deliver (by nofun), Topic.Covers, found, Codec.text_read.mp read]
    simp [Topic.accepts, eq_comm]
  | commandQueues site processor =>
    obtain ⟨e, he, rfl⟩ := exists_of_map h
    obtain ⟨first, second⟩ := CommandQueue.gets_names he
    rw [isSome_deliver (by nofun), Topic.accepts, Bool.and_eq_true]
    exact and_congr (inScope_optional first) (inScope_optional second)
  | commandQueueEvents site processor =>
    obtain ⟨e, he, rfl⟩ := exists_of_map h
    obtain ⟨entry, found, read⟩ := Slot.gets_required.mp (CommandQueueEvent.gets_entry he)
    obtain ⟨first, second⟩ := CommandQueueEntry.gets_names read
    rw [isSome_deliver (by nofun), Topic.accepts, Bool.and_eq_true, Topic.Covers, found]
    exact and_congr (inScope_optional first) (inScope_optional second)
  | parameters request =>
    obtain ⟨e, he, rfl⟩ := exists_of_map h
    rw [Topic.Covers, ← given_eq_map_iff (ParameterData.gets_subscriptionId he)]
    simp [Route.deliver, Topic.accepts]
  | _ =>
    obtain ⟨e, -, rfl⟩ := exists_of_map h
    rw [isSome_deliver (by nofun)]
    exact iff_of_true rfl trivial

/-- What a subscription gets of a pushed document, told from the document alone. -/
theorem delivered_iff {tag : String} {data : Value} {found : Option TopicEvent}
    (h : TopicEvent.decode tag data = .ok found) (topic : Topic) (binding : Binding) :
    (found.bind (⟨topic, some binding⟩ : Route).deliver).isSome = true ↔
      topic.HasTag tag ∧ topic.Covers binding data := by
  cases found with
  | none => exact iff_of_false nofun fun has => (TopicEvent.decode_eq_none_iff.mp h).2 topic has.1
  | some event =>
    obtain ⟨known, read⟩ := TopicEvent.decode_eq_some_iff.mp h
    rw [Topic.hasTag_iff, known, Option.bind_some]
    by_cases same : event.kind = topic.eventKind
    · rw [same] at read
      simp only [deliver_isSome_iff read binding, same, true_and]
    · have foreign : topic.accepts event = false :=
        Bool.eq_false_iff.mpr fun accepts => same (Topic.kind_of_accepts accepts)
      simp [Route.deliver, foreign, same]

namespace Client

variable {config : FrameConfig} {c : Client} {past : List Event} {link : ActiveLink} {id : Nat}

theorem cell_replay {due : List (Nat × Topic)} (other : id ∉ due.map Prod.fst) :
    (c.replay due).cell id = c.cell id := by
  induction due generalizing c with
  | nil => rfl
  | cons d rest ih =>
    obtain ⟨k, topic⟩ := d
    obtain ⟨apart, other⟩ := not_or.mp (mt List.mem_cons.mpr other)
    unfold replay
    split
    next after hs =>
      obtain ⟨link, text, -, rfl⟩ := sends_of_sendRequest hs
      exact ih other
    next => rfl
    next e _ _ =>
      rw [ih other, endSubscription_eq]
      have apart : id ≠ k := apart
      simp only [cell, Table.find?_erase, if_neg apart]
      split
      next => rw [Table.find?_adjust, if_neg apart]
      next => rfl

/-- A subscription that is bound has been confirmed on the link in use, so it is not restored there. -/
theorem not_stale_of_bound (h : Traced config c past) (hl : c.link = some link) {topic : Topic}
    {binding : Binding} (hr : c.routes.find? id = some ⟨topic, some binding⟩) :
    id ∉ (c.stale link.generation).map Prod.fst := by
  intro due
  obtain ⟨⟨k, topic⟩, hm, rfl⟩ := List.mem_map.mp due
  obtain ⟨n, hs, older⟩ := mem_stale.mp hm
  obtain ⟨reply, bound⟩ := traced_bound h hs
  have current : c.isCurrent n = false := by
    rw [isCurrent_of_link hl]
    exact decide_eq_false (Nat.ne_of_gt older)
  have route := hr.symm.trans bound.route
  rw [current] at route
  cases route

theorem cell_greet_of_bound (h : Traced config c past) (hl : c.link = some link) {topic : Topic}
    {binding : Binding} (hr : c.routes.find? id = some ⟨topic, some binding⟩) (info : ConnectionInfo) :
    (c.greet link info).cell id = c.cell id := by
  have spared := not_stale_of_bound h hl hr
  unfold greet
  split
  next => rfl
  next => exact cell_replay spared

theorem cell_route (c : Client) (event : TopicEvent) {route : Route} {handle : Handle}
    (hr : c.routes.find? id = some route) (hh : c.handles.find? id = some handle) :
    (c.route event).cell id = { c.cell id with
      handle := some { handle with queue := handle.queue ++ (route.deliver event).toList.map .ok } } := by
  have there : c.handles.contains id = true := by rw [Table.contains, hh]; rfl
  have kept : (c.route event).routes.find? id = some route := by
    simp [Client.route, Table.find?_filter, hr, there]
  have taken : (c.route event).handles.find? id =
      some { handle with queue := handle.queue ++ (route.deliver event).toList.map .ok } := by
    rw [Client.route, Table.find?_map, hh, hr]
    cases hd : route.deliver event <;> simp [hd]
  simp only [cell, kept, taken, hr]
  rfl

/-- A text that carries a document pushed under a tag, and what that is as an event. -/
structure Pushes (config : FrameConfig) (text tag : String) (data : Value) (found : Option TopicEvent) :
    Prop where
  reads : ∃ f, Frame.decode config text = .ok f ∧ f.dataBody = .ok ⟨tag, data⟩
  decodes : TopicEvent.decode tag data = .ok found

theorem message_of_pushes (hl : c.link = some link) {text tag : String} {data : Value}
    {found : Option TopicEvent} (pushes : Pushes c.config text tag data found) :
    c.message link.generation text = found.elim c (c.dispatch link) := by
  obtain ⟨f, reads, body⟩ := pushes.reads
  have kind : f.kind = .data := by
    by_contra other
    simp [Frame.dataBody, Frame.bodyAs, other] at body
  have event : eventOf? f = found := by
    simp only [eventOf?, body, pushes.decodes]
  obtain ⟨-, -, -, hm⟩ := message_of_heard (heard_of_link hl reads)
  rw [hm, kind]
  simp only [event]
  cases found <;> rfl

/-- What a subscription makes of a pushed document: it gets one more item if the document belongs to
it, and nothing otherwise. -/
structure Sifted (c after : Client) (id : Nat) (topic : Topic) (binding : Binding) (tag : String)
    (data : Value) (found : Option TopicEvent) : Prop where
  route : after.routes.find? id = c.routes.find? id
  taken : topic.HasTag tag ∧ topic.Covers binding data → ∃ handle event,
    c.handles.find? id = some handle ∧
    found.bind (⟨topic, some binding⟩ : Route).deliver = some event ∧
    after.handles.find? id = some { handle with queue := handle.queue ++ [.ok event] }
  left : ¬(topic.HasTag tag ∧ topic.Covers binding data) →
    after.handles.find? id = c.handles.find? id

theorem sifted_message (h : Traced config c past) (hl : c.link = some link) {text tag : String}
    {data : Value} {found : Option TopicEvent} (pushes : Pushes config text tag data found)
    {topic : Topic} {binding : Binding} (hr : c.routes.find? id = some ⟨topic, some binding⟩) :
    Sifted c (c.message link.generation text) id topic binding tag data found := by
  obtain ⟨s, hs, -⟩ := exists_registered h hr
  obtain ⟨handle, hh⟩ := Option.isSome_iff_exists.mp (traced_handled h hs)
  have cell : (c.message link.generation text).cell id = { c.cell id with
      handle := some { handle with queue := handle.queue ++
        (found.bind (⟨topic, some binding⟩ : Route).deliver).toList.map .ok } } := by
    have quiet : { c.cell id with
        handle := some { handle with queue := handle.queue ++ [] } } = c.cell id := by
      rw [List.append_nil, ← hh]
      rfl
    rw [message_of_pushes hl (traced_config h ▸ pushes)]
    cases found with
    | none => exact quiet.symm
    | some event =>
      cases event with
      | connectionInfo info =>
        rw [Option.bind_some, deliver_connectionInfo]
        exact (cell_greet_of_bound h hl hr info).trans quiet.symm
      | _ => exact cell_route c _ hr hh
  have belongs := delivered_iff pushes.decodes topic binding
  have after : (c.message link.generation text).handles.find? id = _ := congrArg Cell.handle cell
  refine ⟨congrArg Cell.route cell, fun own => ?_, fun foreign => ?_⟩
  · obtain ⟨event, taken⟩ := Option.isSome_iff_exists.mp (belongs.mpr own)
    rw [taken] at after
    exact ⟨handle, event, hh, taken, after⟩
  · have nothing := Option.not_isSome_iff_eq_none.mp (mt belongs.mp foreign)
    rw [after, nothing, hh]
    simp

/-- A subscription gets exactly the pushes with a tag of its topic and with data that it covers, in
every run. -/
theorem pushes_keep_to_topics (config : FrameConfig) (steps : List Step) :
    (∀ tag data found, TopicEvent.decode tag data = .ok found → ∀ topic binding,
      ((found.bind (⟨topic, some binding⟩ : Route).deliver).isSome = true ↔
        topic.HasTag tag ∧ topic.Covers binding data)) ∧
    (∀ t u : Topic, ∀ tag, t.HasTag tag → u.HasTag tag → t.name = u.name) ∧
    (∀ topic : Topic, ¬topic.HasTag "CONNECTION_INFO") ∧
    (∀ tag data, TopicEvent.decode tag data = .ok none ↔
      tag ≠ "CONNECTION_INFO" ∧ ∀ topic : Topic, ¬topic.HasTag tag) ∧
    ∀ g text tag data found, ((fresh config).run steps).isCurrent g = true →
      Pushes config text tag data found →
      ∀ id topic binding, ((fresh config).run steps).routes.find? id = some ⟨topic, some binding⟩ →
        Sifted ((fresh config).run steps) (((fresh config).run steps).message g text) id topic binding tag
          data found := by
  refine ⟨fun _ _ _ h topic binding => delivered_iff h topic binding,
    fun _ _ _ ht hu => Topic.name_of_hasTag ht hu, Topic.not_hasTag_connectionInfo,
    fun _ _ => TopicEvent.decode_eq_none_iff, ?_⟩
  intro g text tag data found current pushes id topic binding hr
  obtain ⟨link, hl, rfl⟩ := isCurrent_iff.mp current
  exact sifted_message (traced_run config steps) hl pushes hr

/-- A client that is told about the queues of one instance, and of parameters under the number seven. -/
def listening : List Step :=
  [.attach none, .subscribe (.commandQueueEvents (some "sim") none),
    .subscribe (.parameters (.numeric ["/a"])), .message 1 "[1,2,1,\x7b\x7d]",
    .message 1 "[1,2,2,\x7b\"data\":\x7b\"subscriptionId\":7\x7d\x7d]"]

/-- An event of a queue of that instance, sent as an array. -/
def queuePush : String :=
  "[1,4,0,\x7b\"dt\":\"COMMAND_QUEUE_EVENT\",\"data\":[null,\x7b\"instance\":\"sim\"\x7d]\x7d]"

/-- Samples of somebody else's parameters. -/
def samplePush : String :=
  "[1,4,0,\x7b\"dt\":\"PARAMETER\",\"data\":\x7b\"subscriptionId\":8\x7d\x7d]"

theorem pushes_to_listening :
    (∃ event, (((fresh {}).run listening).message 1 queuePush).handles.find? 1 =
      some ⟨.commandQueueEvents (some "sim") none, [.ok event], false, false⟩) ∧
    (((fresh {}).run listening).message 1 samplePush).handles.find? 2 =
      ((fresh {}).run listening).handles.find? 2 := by
  have queue : Pushes {} queuePush "COMMAND_QUEUE_EVENT"
      (.array [.null, .object [("instance", .string "sim")]])
      (some (.commandQueueEvent ⟨none, ⟨some "sim", none, none, []⟩⟩)) :=
    ⟨⟨⟨1, .data, 0, .object [("dt", .string "COMMAND_QUEUE_EVENT"),
        ("data", .array [.null, .object [("instance", .string "sim")]])]⟩,
      by decide +kernel, by decide⟩, by decide⟩
  have sample : Pushes {} samplePush "PARAMETER" (.object [("subscriptionId", .number (.int 8))])
      (some (.parameters ⟨some 8, []⟩)) :=
    ⟨⟨⟨1, .data, 0, .object [("dt", .string "PARAMETER"),
        ("data", .object [("subscriptionId", .number (.int 8))])]⟩,
      by decide +kernel, by decide⟩, by decide⟩
  obtain ⟨current, first, second, empty⟩ : ((fresh {}).run listening).isCurrent 1 = true ∧
      ((fresh {}).run listening).routes.find? 1 =
        some ⟨.commandQueueEvents (some "sim") none, some {}⟩ ∧
      ((fresh {}).run listening).routes.find? 2 =
        some ⟨.parameters (.numeric ["/a"]), some ⟨some 7, .empty⟩⟩ ∧
      ((fresh {}).run listening).handles.find? 1 =
        some ⟨.commandQueueEvents (some "sim") none, [], false, false⟩ := by decide +kernel
  obtain ⟨-, -, -, -, sifted⟩ := pushes_keep_to_topics {} listening
  refine ⟨?_, ?_⟩
  · have own := sifted 1 _ _ _ _ current queue 1 _ _ first
    obtain ⟨handle, event, hh, -, after⟩ := own.taken (by decide)
    cases hh.symm.trans empty
    exact ⟨event, after⟩
  · have foreign := sifted 1 _ _ _ _ current sample 2 _ _ second
    exact foreign.left (by decide)

end Client

end Telemux
