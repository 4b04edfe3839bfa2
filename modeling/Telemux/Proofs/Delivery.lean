import Telemux.Proofs.Binding

namespace Telemux.Client

/-- The items that wait for the holder of a handle. -/
def queueIn (handles : Table Handle) (id : Nat) : List Item :=
  ((handles.find? id).map (·.queue)).getD []

/-- The samples among some items. -/
def samples (items : List Item) : List ParameterData :=
  items.filterMap fun
    | .ok (.parameters data) => some data
    | _ => none

theorem mem_samples {items : List Item} {data : ParameterData} :
    data ∈ samples items ↔ .ok (.parameters data) ∈ items := by
  unfold samples
  rw [List.mem_filterMap]
  constructor
  · rintro ⟨item, hm, hd⟩
    split at hd
    next =>
      cases hd
      exact hm
    next => cases hd
  · exact fun hm => ⟨_, hm, rfl⟩

theorem samples_append (xs ys : List Item) : samples (xs ++ ys) = samples xs ++ samples ys :=
  List.filterMap_append

variable {config : FrameConfig} {c : Client} {past : List Event}

theorem queueIn_map (handles : Table Handle) {f : Nat → Handle → Handle}
    (keeps : ∀ k h, (f k h).queue = h.queue) (id : Nat) :
    queueIn (handles.map f) id = queueIn handles id := by
  unfold queueIn
  rw [Table.find?_map]
  cases handles.find? id with
  | none => rfl
  | some handle => exact keeps id handle

theorem queueIn_adjust (handles : Table Handle) (k : Nat) {f : Handle → Handle}
    (keeps : ∀ h, (f h).queue = h.queue) (id : Nat) :
    queueIn (handles.adjust k f) id = queueIn handles id := by
  refine queueIn_map handles (fun m h => ?_) id
  split
  next => exact keeps h
  next => rfl

theorem queueIn_erase (handles : Table Handle) (k id : Nat) :
    queueIn (handles.erase k) id <:+ queueIn handles id := by
  unfold queueIn
  rw [Table.find?_erase]
  split
  next => exact List.nil_suffix
  next => exact List.suffix_refl _

theorem queueIn_of_find {handles : Table Handle} {id : Nat} {handle : Handle}
    (h : handles.find? id = some handle) : queueIn handles id = handle.queue := by
  rw [queueIn, h]
  rfl

theorem queueIn_ended_of_find {id : Nat} {old : Handle} (hh : c.handles.find? id = some old) (k : Nat)
    (err : ClientError) :
    queueIn (if c.routes.contains k then
        c.handles.adjust k fun h => { h with queue := h.queue ++ [.error err] } else c.handles) id =
      queueIn c.handles id ++ if k = id ∧ c.routes.contains id = true then [.error err] else [] := by
  by_cases hk : k = id
  · subst hk
    cases hc : c.routes.contains k with
    | false => simp
    | true => simp [queueIn, Table.find?_adjust, hh]
  · have other : ∀ f : Handle → Handle, queueIn (c.handles.adjust k f) id = queueIn c.handles id := by
      intro f
      rw [queueIn, Table.find?_adjust, if_neg (Ne.symm hk)]
      rfl
    simp only [hk, false_and, if_false, List.append_nil]
    split
    next => exact other _
    next => rfl

theorem queueIn_erase_of_contains {handles : Table Handle} {k id : Nat}
    (there : (handles.erase k).contains id = true) : queueIn (handles.erase k) id = queueIn handles id := by
  have apart : id ≠ k := by
    rintro rfl
    simp [Table.contains, Table.find?_erase] at there
  rw [queueIn, Table.find?_erase, if_neg apart]
  rfl

theorem queueIn_ended (c : Client) (k id : Nat) (err : ClientError) :
    queueIn (if c.routes.contains k then
        c.handles.adjust k fun h => { h with queue := h.queue ++ [.error err] } else c.handles) id =
      queueIn c.handles id ∨
    ∃ r, c.routes.find? id = some r ∧
      queueIn (if c.routes.contains k then
        c.handles.adjust k fun h => { h with queue := h.queue ++ [.error err] } else c.handles) id =
      queueIn c.handles id ++ [.error err] := by
  cases hh : c.handles.find? id with
  | none =>
    refine Or.inl ?_
    unfold queueIn
    split
    next =>
      rw [Table.find?_adjust, hh]
      split <;> rfl
    next => rfl
  | some old =>
    rw [queueIn_ended_of_find hh]
    split
    next own =>
      obtain ⟨r, hr⟩ := Option.isSome_iff_exists.mp own.2
      exact Or.inr ⟨r, hr, rfl⟩
    next => exact Or.inl (List.append_nil _)

theorem deliver_of_ne {r : Route} {event item : TopicEvent} (h : r.deliver event = some item)
    (he : ∀ data, event ≠ .parameters data) : item = event := by
  unfold Route.deliver at h
  split at h
  next =>
    split at h
    next data _ => exact absurd rfl (he data)
    next =>
      cases h
      rfl
  next => cases h

/-- What happens takes items from a stream, or puts one on it: a push, or the error that ends the
subscription. Only streams with a route get anything. -/
theorem queue_happens {e : Event} {after : Client} (hn : Happens past c e after) (id : Nat) :
    queueIn after.handles id <:+ queueIn c.handles id ∨
      ∃ r item, c.routes.find? id = some r ∧
        queueIn after.handles id = queueIn c.handles id ++ [item] ∧
        ((∃ err, item = .error err) ∨ ∃ g event delivered, e = .pushed g event ∧
          r.deliver event = some delivered ∧ item = .ok delivered) := by
  have same : ∀ {xs ys : List Item}, xs = ys → xs <:+ ys := fun h => h ▸ List.suffix_refl _
  have ended : ∀ {handles : Table Handle} {k : Nat} {err : ClientError},
      handles = (if c.routes.contains k then
        c.handles.adjust k fun h => { h with queue := h.queue ++ [.error err] } else c.handles) →
      queueIn handles id <:+ queueIn c.handles id ∨
        ∃ r item, c.routes.find? id = some r ∧ queueIn handles id = queueIn c.handles id ++ [item] ∧
          ((∃ err, item = .error err) ∨ ∃ g event delivered, e = .pushed g event ∧
            r.deliver event = some delivered ∧ item = .ok delivered) := by
    intro handles k err h
    rcases queueIn_ended c k id err with hq | ⟨r, hr, hq⟩
    · exact Or.inl (same (h ▸ hq))
    · exact Or.inr ⟨r, .error err, hr, h ▸ hq, Or.inl ⟨err, rfl⟩⟩
  cases hn with
  | lost hl => exact Or.inl (same (queueIn_map _ (fun k h => by split <;> rfl) id))
  | subscribed hs =>
    simp only [queueIn, Table.find?_insert]
    split
    next => exact Or.inl List.nil_suffix
    next => exact Or.inl (List.suffix_refl _)
  | unsent | failed => exact ended rfl
  | restored =>
    simp only
    split
    next =>
      refine Or.inl (same (queueIn_adjust _ _ (fun h => ?_) id))
      rfl
    next => exact Or.inl (List.suffix_refl _)
  | granted | handed =>
    refine Or.inl (same (queueIn_adjust _ _ (fun h => ?_) id))
    rfl
  | abandoned | denied | dropped => exact Or.inl (queueIn_erase _ _ id)
  | @pushed link event hl he =>
    unfold queueIn route
    rw [Table.find?_map]
    cases c.handles.find? id with
    | none => exact Or.inl (List.suffix_refl _)
    | some handle =>
      simp only [Option.map_some, Option.getD_some]
      split
      next delivered hd =>
        obtain ⟨r, hr, hd⟩ := Option.bind_eq_some_iff.mp hd
        exact Or.inr ⟨r, _, hr, rfl, Or.inr ⟨_, event, delivered, rfl, hd, rfl⟩⟩
      next => exact Or.inl (List.suffix_refl _)
  | @received k h item rest hh hq =>
    simp only [queueIn, Table.find?_adjust]
    split
    next he =>
      subst he
      rw [(Option.filter_eq_some_iff.mp hh).1]
      show rest <:+ h.queue ∨ _
      rw [hq]
      exact Or.inl (List.suffix_cons _ _)
    next => exact Or.inl (List.suffix_refl _)
  | _ => exact Or.inl (List.suffix_refl _)

theorem samples_happens {e : Event} {after : Client} (hn : Happens past c e after)
    (quiet : ∀ g data, e ≠ .pushed g (.parameters data)) (id : Nat) :
    samples (queueIn after.handles id) <:+ samples (queueIn c.handles id) := by
  rcases queue_happens hn id with shorter | ⟨r, item, -, hq, ⟨err, rfl⟩ | ⟨g, event, item, rfl, hd, rfl⟩⟩
  · exact shorter.filterMap _
  · rw [hq, samples_append]
    simp [samples]
  · have other : ∀ data, event ≠ .parameters data := fun data he => quiet g data (by rw [he])
    have hne := deliver_of_ne hd other
    subst hne
    rw [hq, samples_append]
    cases item with
    | parameters data => exact absurd rfl (other data)
    | _ => simp [samples]

theorem samples_step (h : Traced config c past) (s : Step)
    (quiet : ∀ g data, .pushed g (.parameters data) ∉ c.events s) (id : Nat) :
    samples (queueIn (c.step s).handles id) <:+ samples (queueIn c.handles id) := by
  have lasting : Lasting config fun c' past' => Traced config c' past' ∧
      ∃ newer, past' = newer ++ past ∧ ((∀ g data, .pushed g (.parameters data) ∉ newer) →
        samples (queueIn c'.handles id) <:+ samples (queueIn c.handles id)) := by
    refine ⟨And.left, fun h => ⟨h.1.skip, h.2⟩, fun h g n => ⟨h.1.refuse g n, h.2⟩, ?_⟩
    rintro c' past' e after ⟨ht, newer, rfl, hk⟩ hn
    refine ⟨ht.next hn, e :: newer, rfl, fun quiet => ?_⟩
    have step := samples_happens hn (fun g data he => quiet g data (he ▸ List.mem_cons_self)) id
    exact step.trans (hk fun g data hm => quiet g data (List.mem_cons_of_mem _ hm))
  obtain ⟨-, newer, hs, hk⟩ := lasting_step lasting ⟨h, [], rfl, fun _ => List.suffix_refl _⟩ s
  have same := List.append_cancel_right hs
  subst same
  exact hk fun g data hm => quiet g data (List.mem_reverse.mp hm)

theorem message_of_pushed {s : Step} {g : Nat} {event : TopicEvent} (h : .pushed g event ∈ c.events s) :
    ∃ text link f, s = .message g text ∧ c.heard? g text = some (link, f) ∧ f.kind = .data ∧
      eventOf? f = some event := by
  rcases mem_events h with ⟨no, -⟩ | ⟨k, text, link, f, rfl, hh, ha⟩
  · exact absurd rfl (no g event)
  obtain ⟨-, rfl, -, -⟩ := message_of_heard hh
  rcases mem_hearing ha with he | ⟨hk, found, hf, he | ⟨info, -, he⟩⟩
  · cases he
  · cases he
    exact ⟨text, link, f, rfl, hh, hk, hf⟩
  · unfold greeting at he
    split at he
    next => cases he
    next => rcases mem_replaying he with ⟨_, _, _, _, _, hr⟩ | ⟨_, _, hr⟩ <;> cases hr

theorem queueIn_route (c : Client) (event : TopicEvent) (id : Nat) {items : List Item}
    (grows : queueIn (c.route event).handles id = queueIn c.handles id ++ items) :
    ∀ item ∈ items, ∃ r delivered, c.routes.find? id = some r ∧ r.deliver event = some delivered ∧
      item = .ok delivered := by
  intro item hm
  unfold queueIn route at grows
  rw [Table.find?_map] at grows
  cases hh : c.handles.find? id with
  | none =>
    rw [hh] at grows
    have nothing : items = [] := by simpa using grows.symm
    rw [nothing] at hm
    cases hm
  | some handle =>
    simp only [hh, Option.map_some, Option.getD_some] at grows
    split at grows
    next delivered hd =>
      obtain ⟨r, hr, hd⟩ := Option.bind_eq_some_iff.mp hd
      have only : items = [.ok delivered] := (List.append_cancel_left grows).symm
      rw [only] at hm
      exact ⟨r, delivered, hr, hd, List.mem_singleton.mp hm⟩
    next =>
      have nothing : items = [] := by simpa using grows
      rw [nothing] at hm
      cases hm

theorem deliver_parameters {r : Route} {pushed data : ParameterData}
    (h : r.deliver (.parameters pushed) = some (.parameters data)) :
    r.topic.isParameters = true ∧ ∃ binding, r.binding = some binding ∧
      pushed.subscriptionId = binding.subscriptionId ∧ data = pushed.restoreIds binding.mapping := by
  unfold Route.deliver at h
  split at h
  next ha =>
    refine ⟨?_, ?_⟩
    · cases ht : r.topic <;> simp [ht, Topic.accepts, Topic.isParameters] at ha ⊢
    · obtain ⟨binding, hb, h⟩ := Option.bind_eq_some_iff.mp h
      split at h
      next he =>
        cases h
        exact ⟨binding, hb, he, rfl⟩
      next => cases h
  next => cases h

theorem decode_parameters {topic : Topic} {body : ReplyBody} {reply : InitialReply}
    (ht : topic.isParameters = true) (h : InitialReply.decode topic body = .ok reply) :
    ∃ told, reply = .parameters told := by
  cases topic with
  | parameters request =>
    unfold InitialReply.decode at h
    split at h
    next => cases h
    next data _ =>
      obtain ⟨told, -, rfl⟩ := exists_of_map (ok_of_mapError h)
      exact ⟨told, rfl⟩
  | _ => cases ht

theorem restoreIds_mem {mapping : NumericMapping} {pushed : ParameterData} {v : ParameterValue}
    (h : v ∈ (pushed.restoreIds mapping).parameter) :
    v ∈ pushed.parameter ∨
      ∃ w ∈ pushed.parameter, w.id = none ∧ v = { w with id := w.numericId.bind mapping.find? } := by
  obtain ⟨w, hw, rfl⟩ := List.mem_map.mp h
  unfold ParameterValue.restoreId
  split
  next => exact Or.inl hw
  next hn => exact Or.inr ⟨w, hw, hn, rfl⟩

/-- Parameters that a step delivers come out of a push on the link of the last reply, under the number
that this reply gave, and with names out of its mapping. -/
structure FromLastReply (c : Client) (past : List Event) (s : Step) (id : Nat) (data : ParameterData)
    (g : Nat) (pushed : ParameterData) (reply : ParameterReply) : Prop where
  arrived : ∃ text f, s = .message g text ∧ Frame.decode c.config text = .ok f ∧ f.kind = .data ∧
    eventOf? f = some (.parameters pushed)
  current : c.isCurrent g = true
  last : lastReply id past = some (g, .parameters reply)
  number : reply.subscriptionId = pushed.subscriptionId
  restored : data = pushed.restoreIds reply.mapping
  names : ∀ v ∈ data.parameter, v ∈ pushed.parameter ∨
    ∃ w ∈ pushed.parameter, w.id = none ∧ v = { w with id := w.numericId.bind reply.mapping.find? }

theorem exists_fromLastReply (h : Traced config c past) {s : Step} {id : Nat} {items : List Item}
    (grows : queueIn (c.step s).handles id = queueIn c.handles id ++ items) {data : ParameterData}
    (hd : .ok (.parameters data) ∈ items) :
    ∃ g pushed reply, FromLastReply c past s id data g pushed reply := by
  have pushes : ∃ g pushed, .pushed g (.parameters pushed) ∈ c.events s := by
    refine Classical.byContradiction fun absent => ?_
    have kept := (samples_step h s (fun g pushed hp => absent ⟨g, pushed, hp⟩) id).length_le
    have more : 0 < (samples items).length := List.length_pos_of_mem (mem_samples.mpr hd)
    rw [grows, samples_append, List.length_append] at kept
    omega
  obtain ⟨g, pushed, hp⟩ := pushes
  obtain ⟨text, link, f, rfl, hh, hk, he⟩ := message_of_pushed hp
  obtain ⟨hl, hg, hf, hm⟩ := message_of_heard hh
  have routed : c.step (.message g text) = c.route (.parameters pushed) := by
    show c.message g text = _
    rw [hm, hk, he]
    rfl
  rw [routed] at grows
  obtain ⟨r, delivered, hr, hdel, hitem⟩ := queueIn_route c _ id grows _ hd
  cases hitem
  obtain ⟨ht, binding, hb, hn, hdata⟩ := deliver_parameters hdel
  obtain ⟨sub, hs, htopic⟩ := exists_registered h hr
  obtain ⟨reply, hbound⟩ := traced_bound h hs
  obtain ⟨body, hbody⟩ := hbound.suits
  obtain ⟨told, rfl⟩ := decode_parameters (htopic ▸ ht) hbody
  have same := hbound.route.symm.trans hr
  cases hcur : c.isCurrent sub.generation with
  | false =>
    rw [hcur] at same
    cases same
    cases hb
  | true =>
    rw [hcur] at same
    cases same
    cases hb
    obtain ⟨link', hl', hg'⟩ := isCurrent_iff.mp hcur
    cases hl.symm.trans hl'
    have hlast := hbound.last
    rw [← hg', hg] at hlast
    refine ⟨g, pushed, told, ⟨text, f, rfl, hf, hk, he⟩, ?_, hlast, hn.symm, hdata, fun v hv => ?_⟩
    · rw [isCurrent_of_link hl]
      simpa using hg
    · rw [hdata] at hv
      exact restoreIds_mem hv

/-- In every run, parameters reach a subscription only on the link of its last reply and as that reply
tells; so there are none from the end of a link until the next reply. -/
theorem parameters_of_last_reply (config : FrameConfig) (steps : List Step) (s : Step) (id : Nat)
    (items : List Item)
    (grows : queueIn (((fresh config).run steps).step s).handles id =
      queueIn ((fresh config).run steps).handles id ++ items) :
    (∀ data, .ok (.parameters data) ∈ items → ∃ g pushed reply,
      FromLastReply ((fresh config).run steps) (history config steps) s id data g pushed reply) ∧
    ∀ later g earlier, history config steps = later ++ .lost g :: earlier →
      lastReply id (history config steps) = lastReply id earlier →
        ∀ data, .ok (.parameters data) ∉ items := by
  have h := traced_run config steps
  refine ⟨fun data hd => exists_fromLastReply h grows hd, fun later g earlier hs silent data hd => ?_⟩
  obtain ⟨k, pushed, reply, hfrom⟩ := exists_fromLastReply h grows hd
  obtain ⟨link, hl, rfl⟩ := isCurrent_iff.mp hfrom.current
  have behind : g < link.generation :=
    traced_lost h (hs ▸ List.mem_append_right _ List.mem_cons_self) hl
  obtain ⟨after, ht⟩ := traced_append (hs ▸ h)
  obtain ⟨before, _, hb, hn⟩ := traced_cons ht
  obtain ⟨f, hf⟩ := terminal_of_lastReply (silent.symm.trans hfrom.last)
  have told := traced_generation_le hb hf rfl
  cases hn with
  | lost hl' =>
    have := (traced_link hb).2 _ hl'
    omega

/-- A subscription is made on one link and restored on the next one under another number. -/
def renumbering : List Step :=
  [.attach none, .subscribe (.parameters (.numeric ["a"])),
    .message 1 "[1,2,1,\x7b\"data\":\x7b\"subscriptionId\":4\x7d\x7d]",
    .attach none, .message 2 "[1,4,0,\x7b\"dt\":\"CONNECTION_INFO\",\"data\":\x7b\x7d\x7d]",
    .message 2 ("[1,2,2,\x7b\"data\":\x7b\"subscriptionId\":9,\"subscribed\":" ++
      "[\x7b\"id\":\x7b\"name\":\"a\"\x7d,\"numericId\":5\x7d]\x7d\x7d]")]

theorem parameters_after_renumbering : ∃ g pushed reply,
    FromLastReply ((fresh {}).run renumbering) (history {} renumbering)
      (.message 2 ("[1,4,0,\x7b\"dt\":\"PARAMETER\",\"data\":\x7b\"subscriptionId\":9," ++
        "\"parameter\":[\x7b\"numericId\":5\x7d]\x7d\x7d]")) 1
      ⟨some 9, [⟨some (.ofName "a"), some 5, []⟩]⟩ g pushed reply :=
  (parameters_of_last_reply {} renumbering _ 1
    [.ok (.parameters ⟨some 9, [⟨some (.ofName "a"), some 5, []⟩]⟩)]
    (by decide +kernel)).1 _ (List.mem_singleton.mpr rfl)

end Telemux.Client
