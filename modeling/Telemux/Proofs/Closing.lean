import Telemux.Proofs.Delivery
import Telemux.Proofs.Outdated

namespace Telemux

namespace Client

/-- A client that is closed has no link, waits for nothing and serves no subscription. -/
structure Ended (c : Client) : Prop where
  closed : c.closed = true
  unlinked : c.link = none
  settled : c.correlator.pending = .empty
  unrouted : c.routes = .empty
  unregistered : c.registry = .empty
  disconnected : c.connected = false

/-- A client without what belongs to its callers. -/
def core (c : Client) : Client :=
  { c with calls := .empty, handles := .empty, nextId := 0 }

variable {config : FrameConfig} {c : Client} {past : List Event}

theorem traced_ended (h : Traced config c past) (hc : c.closed = true) : c.Ended := by
  induction h with
  | start => cases hc
  | skip _ ih =>
    have before := ih hc
    exact ⟨hc, before.unlinked, before.settled, before.unrouted, before.unregistered, before.disconnected⟩
  | refuse g n _ ih =>
    have before := ih hc
    refine ⟨hc, ?_, before.settled, before.unrouted, before.unregistered, before.disconnected⟩
    simp [Client.refuse, before.unlinked]
  | @next c past e after ht hn ih =>
    cases hn with
    | shut => exact ⟨rfl, rfl, rfl, rfl, rfl, rfl⟩
    | opened hopen =>
      have before : c.closed = true := hc
      simp [hopen] at before
    | subscribed hs | requested hs | replayed hs =>
      have before : c.closed = true := hc
      simp [hs.notClosed] at before
    | lost hl | unsent hl | stray hl | replied hl | granted hl | late hl | lapsed hl | failed hl
    | restored hl | greeted hl | informed hl | pushed hl =>
      have unlinked := (ih hc).unlinked
      simp [hl] at unlinked
    | cancelled | returned | handed | received =>
      have before := ih hc
      exact ⟨hc, before.unlinked, before.settled, before.unrouted, before.unregistered,
        before.disconnected⟩
    | abandoned | denied | unsubscribed | dropped =>
      have before := ih hc
      refine ⟨hc, before.unlinked, before.settled, ?_, ?_, before.disconnected⟩
      · simp only [release, detach, before.unrouted]
        rfl
      · simp only [release, detach, before.unregistered]
        rfl

theorem Ended.of_core {after : Client} (h : c.Ended) (same : after.core = c.core) : after.Ended := by
  have closed : after.closed = c.closed := congrArg (·.closed) same
  have link : after.link = c.link := congrArg (·.link) same
  have correlator : after.correlator = c.correlator := congrArg (·.correlator) same
  have routes : after.routes = c.routes := congrArg (·.routes) same
  have registry : after.registry = c.registry := congrArg (·.registry) same
  have connected : after.connected = c.connected := congrArg (·.connected) same
  exact ⟨closed.trans h.closed, link.trans h.unlinked, by rw [correlator]; exact h.settled,
    routes.trans h.unrouted, registry.trans h.unregistered, connected.trans h.disconnected⟩

theorem Ended.not_current (h : c.Ended) (g : Nat) : c.isCurrent g = false := by
  simp [isCurrent, h.unlinked]

theorem sendRequest_of_closed (hc : c.closed = true) (body : RequestBody) (purpose : Purpose) :
    c.sendRequest body purpose = .error .closed := by
  simp [sendRequest, hc]

theorem subscribe_of_closed (hc : c.closed = true) (topic : Topic) :
    c.subscribe topic = ({ c with nextId := c.nextId + 1 }, .error .closed) := by
  unfold subscribe
  simp only [sendRequest_of_closed (c := { c with nextId := c.nextId + 1 }) hc]

theorem request_of_closed (hc : c.closed = true) (body : RequestBody) :
    c.request body = (c, .error .closed) := by
  unfold request
  simp only [sendRequest_of_closed hc]

theorem attach_of_closed (hc : c.closed = true) (room : Option Nat) :
    c.attach room = (c, .error .closed) := by
  simp [attach, hc]

theorem close_of_closed (hc : c.closed = true) : c.close = c := by
  simp [close, hc]

theorem Ended.detach (h : c.Ended) (id : Nat) : c.detach id = c := by
  have routes : c.routes.erase id = c.routes := by rw [h.unrouted]; rfl
  have registry : c.registry.erase id = c.registry := by rw [h.unregistered]; rfl
  rw [Client.detach, routes, registry]

theorem Ended.release (h : c.Ended) (id : Nat) :
    c.release id = { c with handles := c.handles.erase id } := by
  rw [Client.release, h.detach]

/-- What a step can still do to a client that is closed: take calls and handles from its callers. -/
structure Dwindles (c after : Client) (s : Step) : Prop where
  core : after.core = c.core
  call : ∀ k call, c.calls.find? k = some call → s ≠ .cancel k → (s = .collect k → call.outcome = none) →
    after.calls.find? k = some call
  handle : ∀ id old, c.handles.find? id = some old → (s = .dropHandle id → old.held = false) →
    (∀ k call, c.calls.find? k = some call → call.handle = some id → s ≠ .cancel k ∧ s ≠ .collect k) →
    after.handles.find? id =
      some { old with queue := if s = .receive id ∧ old.held = true then old.queue.tail else old.queue }
  queue : ∀ id, queueIn after.handles id <:+ queueIn c.handles id

theorem dwindles_self (c : Client) {s : Step} (other : ∀ id, s ≠ .receive id) : Dwindles c c s := by
  refine ⟨rfl, fun k call hc _ _ => hc, fun id old hh _ _ => ?_, fun id => List.suffix_refl _⟩
  simp [hh, other id]

theorem dwindles_of_call {s : Step} {k : Nat} {call : Call} {handles : Table Handle}
    (hc : c.calls.find? k = some call)
    (hs : s = .cancel k ∨ s = .collect k ∧ ∃ o, call.outcome = some o)
    (other : ∀ id, call.handle ≠ some id → handles.find? id = c.handles.find? id)
    (queue : ∀ id, queueIn handles id <:+ queueIn c.handles id) :
    Dwindles c { c with calls := c.calls.erase k, handles } s := by
  refine ⟨rfl, fun j found hj stays waits => ?_, fun id old hh _ mine => ?_, queue⟩
  · have apart : j ≠ k := by
      rintro rfl
      rcases hs with rfl | ⟨rfl, o, ho⟩
      · exact stays rfl
      · cases hc.symm.trans hj
        rw [waits rfl] at ho
        cases ho
    exact (Table.find?_erase _ _ _).trans (by rw [if_neg apart, hj])
  · have others : call.handle ≠ some id := by
      intro hid
      obtain ⟨stays, waits⟩ := mine k call hc hid
      rcases hs with rfl | ⟨rfl, -⟩
      · exact stays rfl
      · exact waits rfl
    have unread : ¬(s = .receive id ∧ old.held = true) := by
      rintro ⟨rfl, -⟩
      rcases hs with hs | ⟨hs, -⟩ <;> cases hs
    rw [if_neg unread]
    exact (other id others).trans hh

theorem find?_erase_of_handle {handles : Table Handle} {handle : Option Nat} {k : Nat}
    (hk : handle = some k) {id : Nat} (apart : handle ≠ some id) :
    (handles.erase k).find? id = handles.find? id := by
  have hne : id ≠ k := by
    rintro rfl
    exact apart hk
  rw [Table.find?_erase, if_neg hne]

theorem dwindles_cancel (h : c.Ended) (k : Nat) : Dwindles c (c.cancel k) (.cancel k) := by
  unfold cancel
  cases hc : c.calls.find? k with
  | none => exact dwindles_self c (by simp)
  | some call =>
    have left : Ended { c with calls := c.calls.erase k } := h.of_core rfl
    simp only
    cases hi : call.handle with
    | none => exact dwindles_of_call hc (Or.inl rfl) (fun _ _ => rfl) fun _ => List.suffix_refl _
    | some id =>
      simp only [left.release]
      exact dwindles_of_call hc (Or.inl rfl) (fun _ => find?_erase_of_handle hi) (queueIn_erase _ _)

theorem dwindles_collect (h : c.Ended) (k : Nat) : Dwindles c (c.collect k).1 (.collect k) := by
  unfold collect
  cases hc : c.calls.find? k with
  | none => exact dwindles_self c (by simp)
  | some call =>
    obtain ⟨handle, outcome⟩ := call
    cases outcome with
    | none => exact dwindles_self c (by simp)
    | some o =>
      have left : Ended { c with calls := c.calls.erase k } := h.of_core rfl
      have settled : ∃ o', (⟨handle, some o⟩ : Call).outcome = some o' := ⟨o, rfl⟩
      cases handle with
      | none =>
        exact dwindles_of_call hc (Or.inr ⟨rfl, settled⟩) (fun _ _ => rfl) fun _ => List.suffix_refl _
      | some id =>
        cases o with
        | ok answer =>
          refine dwindles_of_call hc (Or.inr ⟨rfl, settled⟩) (fun id' apart => ?_) fun id' => ?_
          · have hne : id' ≠ id := by
              rintro rfl
              exact apart rfl
            rw [Table.find?_adjust, if_neg hne]
          · have same : queueIn (c.handles.adjust id fun h => { h with held := true }) id' =
                queueIn c.handles id' := by
              apply queueIn_adjust
              intro h
              rfl
            simp only [same]
            exact List.suffix_refl _
        | error e =>
          simp only [left.release]
          exact dwindles_of_call hc (Or.inr ⟨rfl, settled⟩) (fun _ => find?_erase_of_handle rfl)
            (queueIn_erase _ _)

theorem held?_eq_some_iff {id : Nat} {handle : Handle} :
    c.held? id = some handle ↔ c.handles.find? id = some handle ∧ handle.held = true :=
  Option.filter_eq_some_iff

theorem dwindles_receive (c : Client) (k : Nat) : Dwindles c (c.receive k).1 (.receive k) := by
  unfold receive
  cases hh : c.held? k with
  | none =>
    refine ⟨rfl, fun j call hc _ _ => hc, fun id old hold _ _ => ?_, fun id => List.suffix_refl _⟩
    have unread : ¬(Step.receive k = .receive id ∧ old.held = true) := by
      rintro ⟨he, held⟩
      cases he
      rw [held?_eq_some_iff.mpr ⟨hold, held⟩] at hh
      cases hh
    rw [if_neg unread]
    exact hold
  | some handle =>
    obtain ⟨found, held⟩ := held?_eq_some_iff.mp hh
    cases hq : handle.queue with
    | nil =>
      simp only [hq]
      refine ⟨rfl, fun j call hc _ _ => hc, fun id old hold _ _ => ?_, fun id => List.suffix_refl _⟩
      by_cases hk : k = id
      · subst hk
        cases found.symm.trans hold
        rw [hold, hq]
        obtain ⟨topic, queue, interrupted, held⟩ := handle
        cases hq
        simp
      · simp [hk, hold]
    | cons item rest =>
      simp only [hq]
      refine ⟨rfl, fun j call hc _ _ => hc, fun id old hold _ _ => ?_, fun id => ?_⟩
      · rw [Table.find?_adjust]
        by_cases hk : k = id
        · subst hk
          cases found.symm.trans hold
          simp [hold, held, hq]
        · simp [hk, Ne.symm hk, hold]
      · by_cases hk : k = id
        · subst hk
          rw [queueIn_of_find found, hq, queueIn, Table.find?_adjust, if_pos rfl, found]
          exact List.suffix_cons item rest
        · rw [queueIn, Table.find?_adjust, if_neg (Ne.symm hk)]
          exact List.suffix_refl _

theorem dwindles_dropHandle (h : c.Ended) (k : Nat) : Dwindles c (c.dropHandle k) (.dropHandle k) := by
  unfold dropHandle
  split
  next there =>
    rw [h.release]
    refine ⟨rfl, fun j call hc _ _ => hc, fun id old hh kept _ => ?_, queueIn_erase _ _⟩
    have apart : id ≠ k := by
      rintro rfl
      obtain ⟨handle, found⟩ := Option.isSome_iff_exists.mp there
      obtain ⟨same, held⟩ := held?_eq_some_iff.mp found
      cases same.symm.trans hh
      rw [kept rfl] at held
      cases held
    simp [Table.find?_erase, apart, hh]
  next => exact dwindles_self c (by simp)

theorem dwindles_step (h : c.Ended) (s : Step) : Dwindles c (c.step s) s := by
  cases s with
  | attach room =>
    rw [step, attach_of_closed h.closed]
    exact dwindles_self c (by simp)
  | subscribe topic =>
    rw [step, subscribe_of_closed h.closed]
    have same := dwindles_self c (s := .subscribe topic) (by simp)
    exact ⟨rfl, same.call, same.handle, same.queue⟩
  | request body =>
    rw [step, request_of_closed h.closed]
    exact dwindles_self c (by simp)
  | cancel k => exact dwindles_cancel h k
  | collect k => exact dwindles_collect h k
  | receive k => exact dwindles_receive c k
  | unsubscribe k =>
    have same : c.unsubscribe k = c := by simp [unsubscribe, h.detach]
    rw [step, same]
    exact dwindles_self c (by simp)
  | dropHandle k => exact dwindles_dropHandle h k
  | message g text =>
    rw [step, (message_of_not_current (h.not_current g) text).1]
    exact dwindles_self c (by simp)
  | linkClosed g =>
    rw [step, closeLink_of_not_current (h.not_current g)]
    exact dwindles_self c (by simp)
  | refuse g n =>
    rw [step, refuse_of_not_current (h.not_current g)]
    exact dwindles_self c (by simp)
  | close =>
    rw [step, close_of_closed h.closed]
    exact dwindles_self c (by simp)

/-- What steps can still do to a client that is closed. -/
structure Remains (c after : Client) (more : List Step) : Prop where
  core : after.core = c.core
  call : ∀ k call, c.calls.find? k = some call → .cancel k ∉ more →
    (∀ o, call.outcome = some o → .collect k ∉ more) → after.calls.find? k = some call
  queue : ∀ id, queueIn after.handles id <:+ queueIn c.handles id

theorem Remains.of_step {s : Step} {mid after : Client} {rest : List Step} (first : Dwindles c mid s)
    (later : Remains mid after rest) : Remains c after (s :: rest) := by
  refine ⟨later.core.trans first.core, fun k call hc stays waits => ?_, fun id =>
    (later.queue id).trans (first.queue id)⟩
  obtain ⟨stay, stays⟩ := not_or.mp (mt List.mem_cons.mpr stays)
  refine later.call k call (first.call k call hc (Ne.symm stay) fun hs => ?_) stays fun o ho hm => ?_
  · refine Option.eq_none_iff_forall_ne_some.mpr fun o ho => waits o ho ?_
    rw [hs]
    exact List.mem_cons_self
  · exact waits o ho (List.mem_cons_of_mem _ hm)

theorem remains_run (h : c.Ended) (more : List Step) : Remains c (c.run more) more := by
  induction more generalizing c with
  | nil => exact ⟨rfl, fun k call hc _ _ => hc, fun id => List.suffix_refl _⟩
  | cons s rest ih =>
    have first := dwindles_step h s
    exact .of_step first (ih (h.of_core first.core))

/-- What a handle of a call that has been answered holds stays there for the caller. -/
theorem handle_of_call (h : c.Ended) (ht : Traced config c past) {k id : Nat} {call : Call}
    (hc : c.calls.find? k = some call) (hi : call.handle = some id) {more : List Step}
    (stays : .cancel k ∉ more) (waits : .collect k ∉ more) :
    (c.run more).handles.find? id = c.handles.find? id := by
  induction more generalizing c past with
  | nil => rfl
  | cons s rest ih =>
    obtain ⟨stay, stays⟩ := not_or.mp (mt List.mem_cons.mpr stays)
    obtain ⟨wait, waits⟩ := not_or.mp (mt List.mem_cons.mpr waits)
    have first := dwindles_step h s
    have next := lasting_step (lasting_traced config) ht s
    have there := first.call k call hc (Ne.symm stay) fun hs => absurd hs.symm wait
    refine (ih (h.of_core first.core) next there stays waits).trans ?_
    obtain ⟨handle, hh, free⟩ := traced_called ht hc hi
    have kept := first.handle id handle hh (fun _ => free) fun j other hj hid => by
      cases eq_of_handle ht hj hc hid hi
      exact ⟨Ne.symm stay, Ne.symm wait⟩
    have unread : ¬(s = .receive id ∧ handle.held = true) := by simp [free]
    rw [if_neg unread] at kept
    exact kept.trans hh.symm

/-- Only its holder takes from a handle. -/
theorem held_run (h : c.Ended) (ht : Traced config c past) {id : Nat} {old : Handle}
    (hh : c.held? id = some old) {more : List Step} (kept : .dropHandle id ∉ more) :
    (c.run more).held? id = some { old with queue := old.queue.drop (more.count (.receive id)) } := by
  induction more generalizing c past old with
  | nil => exact hh
  | cons s rest ih =>
    obtain ⟨keep, kept⟩ := not_or.mp (mt List.mem_cons.mpr kept)
    obtain ⟨found, held⟩ := held?_eq_some_iff.mp hh
    have first := dwindles_step h s
    have next := lasting_step (lasting_traced config) ht s
    have after := first.handle id old found (fun hs => absurd hs.symm keep) fun j call hj hid => by
      obtain ⟨handle, same, free⟩ := traced_called ht hj hid
      cases found.symm.trans same
      rw [free] at held
      cases held
    have taken := held?_eq_some_iff.mpr ⟨after, held⟩
    refine (ih (h.of_core first.core) next taken kept).trans ?_
    by_cases hs : s = .receive id
    · subst hs
      rw [List.count_cons_self, List.drop_add_one_eq_tail_drop]
      simp [held, List.tail_drop]
    · simp [hs, List.count_cons_of_ne hs]

theorem collect_of_outcome {s : Nat} {handle : Option Nat} {o : Outcome}
    (hc : c.calls.find? s = some ⟨handle, some o⟩) : (c.collect s).2 = some o := by
  unfold collect
  simp only [hc]
  cases handle with
  | none => rfl
  | some id => cases o <;> rfl

theorem held_of_collect {s id : Nat} {answer : Answer} {handle : Handle}
    (hc : c.calls.find? s = some ⟨some id, some (.ok answer)⟩) (hh : c.handles.find? id = some handle) :
    (c.collect s).1.held? id = some { handle with held := true } := by
  unfold collect
  simp only [hc]
  apply held?_eq_some_iff.mpr
  refine ⟨?_, rfl⟩
  rw [Table.find?_adjust, if_pos rfl, hh]
  rfl

theorem receive_of_ended (h : c.Ended) {id : Nat} {handle : Handle} (hh : c.held? id = some handle) :
    (c.receive id).2 = match handle.queue with
      | item :: _ => .item item
      | [] => .ended := by
  have unrouted : c.routes.contains id = false := by rw [h.unrouted]; rfl
  unfold receive
  cases hq : handle.queue with
  | nil => simp [hh, hq, unrouted]
  | cons item rest => simp [hh, hq]

theorem handles_close (c : Client) : c.close.handles = c.handles := by
  cases hc : c.closed with
  | true => rw [close_of_closed hc]
  | false => rw [close_eq hc]

theorem written_close (c : Client) (h : c.closed = true → c.link = none) : c.close.written = c.farewell := by
  cases hc : c.closed with
  | true => simp [close_of_closed hc, farewell, h hc]
  | false => rw [close_eq hc]

theorem farewell_cases (c : Client) : c.farewell = c.written ∨
    ∃ link, c.link = some link ∧ c.farewell = c.written ++ [(link.generation, .close)] := by
  unfold farewell
  cases hl : c.link with
  | none => exact Or.inl rfl
  | some link =>
    by_cases ha : link.accepting = true
    · exact Or.inr ⟨link, rfl, by simp [write, ha]⟩
    · exact Or.inl (by simp [write, ha])

/-- What waits at the close fails, and what has its outcome keeps it. -/
theorem find?_calls_close (h : Traced config c past) {s : Nat} {call : Call}
    (hc : c.calls.find? s = some call) :
    c.close.calls.find? s = some ⟨call.handle,
      if c.correlator.pending.contains s then some (.error .closed) else call.outcome⟩ := by
  cases hclosed : c.closed with
  | true =>
    have idle : c.correlator.pending.contains s = false := by
      rw [(traced_ended h hclosed).settled]
      rfl
    rw [close_of_closed hclosed, hc, idle]
    rfl
  | false =>
    obtain ⟨p, hp, rfl, hq⟩ := traced_call_request h hc
    have drained : ((c.correlator.pending.entries.map Prod.snd).any fun q =>
        q.purpose.isCall && q.sequence = p.sequence) = c.correlator.pending.contains p.sequence := by
      rw [Bool.eq_iff_iff, List.any_eq_true, Table.contains, Option.isSome_iff_exists]
      constructor
      · rintro ⟨q, hm, he⟩
        simp only [Bool.and_eq_true, decide_eq_true_eq] at he
        exact ⟨q, (traced_waiting h).mpr ⟨(mem_pending_iff_waiting h q).mp hm, he.2⟩⟩
      · rintro ⟨q, hm⟩
        obtain ⟨hw, he⟩ := (traced_waiting h).mp hm
        have same := eq_of_sequence h (waiting_subset_requests hw) hp he
        subst same
        exact ⟨q, (mem_pending_iff_waiting h q).mpr hw, by simp [hq]⟩
    rw [close_eq hclosed]
    simp only [find?_failCalls, hc, drained, Option.map_some]
    split <;> rfl

end Client

namespace Hub

open Client

theorem client_settle {h : Hub} (ended : h.client.Ended) : h.settle.client = h.client := by
  refine settle_of_turns (P := fun k => k.client = h.client) (fun g k same => ?_) rfl
  rw [← same] at ended ⊢
  exact client_turn (ended.not_current g)

theorem attachLink_of_ended {h : Hub} (ended : h.client.Ended) (queue : List Inbound)
    (room : Option Nat) :
    (h.attachLink queue room).2 = .error .closed ∧ (h.attachLink queue room).1.client = h.client := by
  simp [attachLink, attach_of_closed ended.closed]

theorem connect_of_ended {h : Hub} (ended : h.client.Ended) {url : String} {endpoint : Endpoint}
    (hu : Endpoint.parse url = .ok endpoint) : h.connect url = (h, .error .closed) := by
  simp [connect, hu, ended.closed]

end Hub

namespace Client

/-- What the close of a client means for all that comes after it. -/
structure Final (before : Client) (more : List Step) (after : Client) : Prop where
  ended : after.Ended
  silent : after.written = before.farewell
  farewell : before.farewell = before.written ∨ ∃ link, before.link = some link ∧
    before.farewell = before.written ++ [(link.generation, .close)]
  streams : ∀ id, queueIn after.handles id <:+ queueIn before.handles id
  received : ∀ id handle, after.held? id = some handle → (after.receive id).2 =
    match handle.queue with
    | item :: _ => .item item
    | [] => .ended
  readable : ∀ id handle later, after.held? id = some handle → .dropHandle id ∉ later →
    (after.run later).held? id =
      some { handle with queue := handle.queue.drop (later.count (.receive id)) }
  held : ∀ id, before.close.held? id = before.held? id
  handed : ∀ s id answer, before.calls.find? s = some ⟨some id, some (.ok answer)⟩ →
    .cancel s ∉ more → .collect s ∉ more → (after.collect s).2 = some (.ok answer) ∧
      ((after.collect s).1.held? id).map (·.queue) = some (queueIn before.handles id)
  failed : ∀ s, before.correlator.pending.contains s = true → before.calls.contains s = true →
    .cancel s ∉ more → .collect s ∉ more → (after.collect s).2 = some (.error .closed)
  waits : after.waitConnected = some (.error .closed)
  subscribes : ∀ topic, (after.subscribe topic).2 = .error .closed
  requests : ∀ body, (after.request body).2 = .error .closed
  attaches : ∀ room, after.attach room = (after, .error .closed)
  connects : ∀ h : Hub, h.client = after → ∀ url endpoint, Endpoint.parse url = .ok endpoint →
    h.connect url = (h, .error .closed)
  links : ∀ h : Hub, h.client = after → h.settle.client = after ∧ ∀ queue room,
    (h.attachLink queue room).2 = .error .closed ∧ (h.attachLink queue room).1.client = after
  again : after.close = after

variable {config : FrameConfig} {c : Client} {past : List Event}

theorem final (h : Traced config c past) (more : List Step) : Final c more (c.close.run more) := by
  have closing := lasting_step (lasting_traced config) h .close
  have shut : c.close.Ended := traced_ended closing (closed_close c)
  have remains := remains_run shut more
  have ended := shut.of_core remains.core
  have traced := lasting_run (lasting_traced config) closing more
  refine ⟨ended, ?_, farewell_cases c, fun id => ?_, fun id handle hh => receive_of_ended ended hh,
    fun id handle later hh kept => held_run ended traced hh kept, fun id => ?_, ?_, ?_, ?_,
    fun topic => by rw [subscribe_of_closed ended.closed], fun body => by rw [request_of_closed ended.closed],
    fun room => attach_of_closed ended.closed room, ?_, ?_, close_of_closed ended.closed⟩
  · have same : (c.close.run more).written = c.close.written := congrArg (·.written) remains.core
    rw [same]
    exact written_close c (traced_link h).1
  · have shorter := remains.queue id
    rwa [handles_close] at shorter
  · rw [held?, handles_close]
    rfl
  · intro s id answer hc stays waits
    have answered : c.correlator.pending.contains s = false := by
      obtain ⟨p, body, later, earlier, hs, rfl, -, -, hcall⟩ := traced_call_sent h hc
      have settled := congrArg Call.outcome hcall
      rw [← Bool.not_eq_true, Table.contains, Option.isSome_iff_exists]
      rintro ⟨q, hq⟩
      obtain ⟨hw, he⟩ := (traced_waiting h).mp hq
      have same := eq_of_sequence h (waiting_subset_requests hw) (mem_requests_of_sent hs) he
      subst same
      simp [(traced_mem_waiting h hs).mp hw] at settled
    have there := find?_calls_close h hc
    simp only [answered, Bool.false_eq_true, if_false] at there
    have kept := remains.call s _ there stays fun _ _ => waits
    obtain ⟨handle, hh, -⟩ := traced_called h hc rfl
    have same := handle_of_call shut closing there rfl stays waits
    rw [handles_close, hh] at same
    refine ⟨collect_of_outcome kept, ?_⟩
    rw [held_of_collect kept same, queueIn_of_find hh]
    rfl
  · intro s waited called stays waits
    obtain ⟨call, hc⟩ := Option.isSome_iff_exists.mp called
    have there := find?_calls_close h hc
    simp only [waited, if_true] at there
    exact collect_of_outcome (remains.call s _ there stays fun _ _ => waits)
  · simp [waitConnected, ended.closed]
  · intro hub same url endpoint hu
    have gone : hub.client.Ended := same ▸ ended
    exact Hub.connect_of_ended gone hu
  · intro hub same
    have gone : hub.client.Ended := same ▸ ended
    rw [← same]
    exact ⟨Hub.client_settle gone, Hub.attachLink_of_ended gone⟩

/-- In every run, a client that is closed stays closed, whatever comes after that. -/
theorem closed_is_final (config : FrameConfig) (steps more : List Step) :
    Final ((fresh config).run steps) more (((fresh config).run steps).close.run more) :=
  final (traced_run config steps) more

end Client

end Telemux
