import Telemux.Proofs.History

namespace Telemux

namespace Correlator

variable {α : Type}

/-- A correlator is known by the sequence that it gives next and by what it finds. -/
theorem ext_find? {c d : Correlator α} (next : c.next = d.next)
    (found : ∀ s, c.pending.find? s = d.pending.find? s) : c = d := by
  obtain ⟨n, pending⟩ := c
  obtain ⟨m, others⟩ := d
  obtain rfl : n = m := next
  obtain rfl : pending = others := Table.ext_find? found
  rfl

theorem find?_register (c : Correlator α) (generation s : Nat) (purpose : α) :
    (c.register generation purpose).pending.find? s =
      if s = c.next then some ⟨c.next, generation, purpose⟩ else c.pending.find? s :=
  Table.find?_insert _ _ _ _

/-- The requests that wait, without one. -/
def without (c : Correlator α) (sequence : Nat) : Correlator α :=
  { c with pending := c.pending.erase sequence }

theorem find?_without (c : Correlator α) (sequence s : Nat) :
    (c.without sequence).pending.find? s = if s = sequence then none else c.pending.find? s :=
  Table.find?_erase _ _ _

theorem without_of_absent {c : Correlator α} {sequence : Nat} (h : c.pending.find? sequence = none) :
    c.without sequence = c := by
  refine ext_find? rfl fun s => ?_
  rw [find?_without]
  split
  next hs => rw [hs, h]
  next => rfl

theorem without_comm (c : Correlator α) (s t : Nat) :
    (c.without s).without t = (c.without t).without s := by
  refine ext_find? rfl fun k => ?_
  rw [find?_without, find?_without, find?_without, find?_without]
  split <;> split <;> rfl

theorem mem_upTo {c : Correlator α} {generation : Nat} {p : Pending α} :
    p ∈ c.upTo generation ↔
      (∃ s, c.pending.find? s = some p) ∧ p.generation ≤ generation := by
  simp only [upTo, List.mem_filter, List.mem_map, decide_eq_true_eq]
  refine and_congr_left fun _ => ?_
  constructor
  · rintro ⟨⟨s, q⟩, hq, rfl⟩
    exact ⟨s, Table.mem_entries_iff.mp hq⟩
  · rintro ⟨s, hs⟩
    exact ⟨(s, p), Table.mem_entries_iff.mpr hs, rfl⟩

end Correlator

namespace Client

/-- Fails the calls among some requests. -/
def failCalls (calls : Table Call) (e : ClientError) (ps : List (Pending Purpose)) : Table Call :=
  calls.map fun s call =>
    if ps.any fun p => p.purpose.isCall && p.sequence = s then
      { call with outcome := some (.error e) }
    else call

theorem find?_failCalls (calls : Table Call) (e : ClientError) (ps : List (Pending Purpose))
    (s : Nat) :
    (failCalls calls e ps).find? s =
      (calls.find? s).map fun call =>
        if ps.any fun p => p.purpose.isCall && p.sequence = s then
          { call with outcome := some (.error e) }
        else call :=
  Table.find?_map _ _ _

theorem reject_eq (c : Client) (e : ClientError) (p : Pending Purpose) :
    c.reject e p = { c with calls := failCalls c.calls e [p] } := by
  have same : (c.reject e p).calls = failCalls c.calls e [p] := by
    refine Table.ext_find? fun s => ?_
    rw [find?_failCalls]
    unfold reject
    cases hp : p.purpose with
    | replay id topic => simp [Purpose.isCall, hp]
    | request | subscribe id topic =>
      by_cases hs : s = p.sequence
      · simp [answer, Table.find?_adjust, Purpose.isCall, hp, hs]
      · simp [answer, Table.find?_adjust, Purpose.isCall, hp, hs, Ne.symm hs]
  rw [← same]
  unfold reject
  cases p.purpose <;> rfl

theorem foldl_reject (c : Client) (e : ClientError) (ps : List (Pending Purpose)) :
    ps.foldl (·.reject e) c = { c with calls := failCalls c.calls e ps } := by
  induction ps generalizing c with
  | nil =>
    have same : c.calls = failCalls c.calls e [] := by
      refine Table.ext_find? fun s => ?_
      simp [find?_failCalls]
    rw [← same]
    rfl
  | cons p rest ih =>
    rw [List.foldl_cons, ih, reject_eq]
    have same : failCalls (failCalls c.calls e [p]) e rest = failCalls c.calls e (p :: rest) := by
      refine Table.ext_find? fun s => ?_
      simp only [find?_failCalls, Option.map_map, List.any_cons, List.any_nil, Bool.or_false]
      cases c.calls.find? s with
      | none => rfl
      | some call =>
        simp only [Option.map_some, Function.comp_apply]
        by_cases h : (p.purpose.isCall && decide (p.sequence = s)) = true
        · simp [h]
        · simp [Bool.not_eq_true _ ▸ h]
    simp only [same]

theorem closeLink_eq {c : Client} {link : ActiveLink} (h : c.link = some link) :
    c.closeLink link.generation =
      { c with
        written := (c.write link .close).written
        link := none
        correlator := (c.correlator.drain link.generation).2
        routes := c.routes.map fun _ r => { r with binding := none }
        handles := c.handles.map fun id h =>
          if c.routes.contains id then { h with interrupted := true } else h
        calls := failCalls c.calls .connectionLost (c.correlator.upTo link.generation)
        connected := false } := by
  unfold closeLink write
  simp only [h, if_true, foldl_reject, interruptAll, Correlator.drain]
  split <;> rfl

/-- What the close of a client puts on the wire. -/
def farewell (c : Client) : List (Nat × Outbound) :=
  match c.link with
  | some link => (c.write link .close).written
  | none => c.written

theorem close_eq {c : Client} (h : c.closed = false) :
    c.close =
      { c with
        written := c.farewell
        link := none
        correlator := { c.correlator with pending := .empty }
        calls := failCalls c.calls .closed (c.correlator.pending.entries.map Prod.snd)
        routes := .empty
        registry := .empty
        connected := false
        closed := true } := by
  unfold close farewell write
  simp only [h, Bool.false_eq_true, if_false, foldl_reject, Correlator.drainAll]
  cases hl : c.link with
  | none => simp [hl]
  | some link => cases ha : link.accepting <;> simp [ha]

theorem isCurrent_iff {c : Client} {generation : Nat} :
    c.isCurrent generation = true ↔ ∃ link, c.link = some link ∧ link.generation = generation := by
  unfold isCurrent
  cases c.link <;> simp

theorem closeLink_of_not_current {c : Client} {generation : Nat}
    (h : c.isCurrent generation = false) : c.closeLink generation = c := by
  unfold closeLink
  cases hl : c.link with
  | none => rfl
  | some link =>
    have hne : link.generation ≠ generation := by simpa [isCurrent, hl] using h
    simp [hne]

/-- What a request needs in order to go out. -/
structure Sends (c : Client) (link : ActiveLink) (body : RequestBody) (text : String) : Prop where
  notClosed : c.closed = false
  current : c.link = some link
  accepting : link.accepting = true
  encodes : (Frame.request c.correlator.next body).encode c.config = .ok text

/-- The client when a request has gone out. -/
def sentOn (c : Client) (link : ActiveLink) (text : String) (purpose : Purpose) : Client :=
  { c with
    written := c.written ++ [(link.generation, .text text)]
    link := some link.spend
    correlator := c.correlator.register link.generation purpose }

theorem sendRequest_of_sends {c : Client} {link : ActiveLink} {body : RequestBody} {text : String}
    (h : c.Sends link body text) (purpose : Purpose) :
    c.sendRequest body purpose = .ok (c.sentOn link text purpose) := by
  simp [sendRequest, write, sentOn, h.notClosed, h.current, h.accepting, h.encodes]

theorem sends_of_sendRequest {c after : Client} {body : RequestBody} {purpose : Purpose}
    (h : c.sendRequest body purpose = .ok after) :
    ∃ link text, c.Sends link body text ∧ after = c.sentOn link text purpose := by
  have hsend := h
  unfold sendRequest at h
  split at h
  next => cases h
  next hc =>
    split at h
    next => cases h
    next link hl =>
      split at h
      next => cases h
      next text he =>
        split at h
        next ha =>
          have hs : c.Sends link body text := ⟨by simpa using hc, hl, ha, he⟩
          rw [sendRequest_of_sends hs] at hsend
          cases hsend
          exact ⟨link, text, hs, rfl⟩
        next => cases h

theorem sendRequest_error {c : Client} {link : ActiveLink} {body : RequestBody} {purpose : Purpose}
    {e : ClientError} (hc : c.closed = false) (hl : c.link = some link)
    (h : c.sendRequest body purpose = .error e) :
    (∃ fault, (Frame.request c.correlator.next body).encode c.config = .error fault ∧
        e = .frame fault) ∨
      (∃ text, (Frame.request c.correlator.next body).encode c.config = .ok text) ∧
        link.accepting = false ∧ e = .notConnected := by
  simp only [sendRequest, hc, Bool.false_eq_true, if_false, hl] at h
  split at h
  next fault he =>
    cases h
    exact Or.inl ⟨fault, he, rfl⟩
  next text he =>
    split at h
    next => cases h
    next ha =>
      cases h
      exact Or.inr ⟨⟨text, he⟩, by simpa using ha, rfl⟩

theorem sending_of_sends {c : Client} {link : ActiveLink} {body : RequestBody} {text : String}
    (h : c.Sends link body text) (purpose : Purpose) :
    c.sending body purpose = [.sent ⟨c.correlator.next, link.generation, purpose⟩ body] := by
  simp only [sending, h.current, sendRequest_of_sends h]

theorem sending_of_error {c : Client} {body : RequestBody} {purpose : Purpose} {e : ClientError}
    (h : c.sendRequest body purpose = .error e) : c.sending body purpose = [] := by
  unfold sending
  rw [h]
  cases c.link <;> rfl

theorem mem_sending {c : Client} {body : RequestBody} {purpose : Purpose} {e : Event}
    (h : e ∈ c.sending body purpose) :
    ∃ link, c.link = some link ∧ e = .sent ⟨c.correlator.next, link.generation, purpose⟩ body := by
  unfold sending at h
  split at h
  next link after hl hs => exact ⟨link, hl, List.mem_singleton.mp h⟩
  next => cases h

theorem mem_replaying {c : Client} {due : List (Nat × Topic)} {e : Event}
    (h : e ∈ c.replaying due) :
    (∃ s g id topic body, e = .sent ⟨s, g, .replay id topic⟩ body) ∨ ∃ id fault, e = .unsent id fault := by
  induction due generalizing c with
  | nil => cases h
  | cons d rest ih =>
    obtain ⟨id, topic⟩ := d
    unfold replaying at h
    split at h
    next after hs =>
      rcases List.mem_append.mp h with h | h
      · obtain ⟨link, -, rfl⟩ := mem_sending h
        exact Or.inl ⟨_, _, id, topic, _, rfl⟩
      · exact ih h
    next => cases h
    next fault _ hs =>
      rcases List.mem_cons.mp h with rfl | h
      · exact Or.inr ⟨id, fault, rfl⟩
      · exact ih h

theorem mem_events {c : Client} {s : Step} {e : Event} (he : e ∈ c.events s) :
    ((∀ g event, e ≠ .pushed g event) ∧ ∀ p body, e = .sent p body → p.purpose.isCall = true) ∨
      ∃ g text link f, s = .message g text ∧ c.heard? g text = some (link, f) ∧ e ∈ c.hearing link f := by
  cases s with
  | message g text =>
    simp only [events] at he
    split at he
    next link f hh => exact Or.inr ⟨g, text, link, f, rfl, hh, he⟩
    next => cases he
  | subscribe topic | request body =>
    obtain ⟨link, -, rfl⟩ := mem_sending he
    refine Or.inl ⟨by simp, fun p body h => ?_⟩
    cases h
    rfl
  | attach room =>
    simp only [events, losing] at he
    split at he
    next => cases he
    next =>
      rcases List.mem_append.mp he with he | he
      · split at he
        next =>
          cases List.mem_singleton.mp he
          simp
        next => cases he
      · cases List.mem_singleton.mp he
        simp
  | refuse g n => cases he
  | close =>
    simp only [events] at he
    split at he
    next => cases he
    next =>
      cases List.mem_singleton.mp he
      simp
  | collect k | receive k | cancel k | unsubscribe k | dropHandle k | linkClosed k =>
    simp only [events] at he
    split at he
    next =>
      cases List.mem_singleton.mp he
      simp
    next => cases he

theorem mem_hearing {c : Client} {link : ActiveLink} {f : Frame} {e : Event} (he : e ∈ c.hearing link f) :
    e = .terminal link.generation f ∨ f.kind = .data ∧ ∃ event, eventOf? f = some event ∧
      (e = .pushed link.generation event ∨
        ∃ info, event = .connectionInfo info ∧ e ∈ c.greeting link info) := by
  unfold hearing at he
  split at he
  next => exact Or.inl (List.mem_singleton.mp he)
  next => exact Or.inl (List.mem_singleton.mp he)
  next => cases he
  next hk =>
    refine Or.inr ⟨hk, ?_⟩
    split at he
    next => cases he
    next info hi =>
      refine ⟨_, hi, ?_⟩
      rcases List.mem_cons.mp he with he | he
      · exact Or.inl he
      · exact Or.inr ⟨info, rfl, he⟩
    next event _ hv => exact ⟨event, hv, Or.inl (List.mem_singleton.mp he)⟩

theorem endSubscription_eq (c : Client) (id : Nat) (e : ClientError) :
    c.endSubscription id e =
      { c with
        handles := if c.routes.contains id then
            c.handles.adjust id fun h => { h with queue := h.queue ++ [.error e] }
          else c.handles
        routes := c.routes.erase id
        registry := c.registry.erase id } := by
  unfold endSubscription
  split <;> rfl

end Client

end Telemux
