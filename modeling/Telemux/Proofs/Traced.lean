import Telemux.Proofs.Happens

namespace Telemux.Client

variable {config : FrameConfig} {c : Client} {past : List Event}

theorem message_of_unheard {g : Nat} {text : String} (h : c.heard? g text = none) :
    c.message g text = c := by
  unfold heard? at h
  unfold message
  cases hl : c.link with
  | none => rfl
  | some link =>
    simp only [hl] at h ⊢
    by_cases hg : link.generation = g
    · rw [if_pos hg] at h ⊢
      cases hf : Frame.decode c.config text with
      | error e => rfl
      | ok f => simp [hf] at h
    · rw [if_neg hg]

theorem message_of_heard {g : Nat} {text : String} {link : ActiveLink} {f : Frame}
    (h : c.heard? g text = some (link, f)) :
    c.link = some link ∧ link.generation = g ∧ Frame.decode c.config text = .ok f ∧
      c.message g text =
        match f.kind with
        | .reply | .exception => c.complete link.generation f.sequence (answerOf f)
        | .data =>
          match eventOf? f with
          | some event => c.dispatch link event
          | none => c
        | .request => c := by
  unfold heard? at h
  cases hl : c.link with
  | none => simp [hl] at h
  | some old =>
    simp only [hl] at h
    by_cases hg : old.generation = g
    · rw [if_pos hg] at h
      cases hf : Frame.decode c.config text with
      | error e => simp [hf] at h
      | ok found =>
        simp only [hf] at h
        cases h
        refine ⟨rfl, hg, rfl, ?_⟩
        unfold message
        simp only [hl, if_pos hg, hf]
        cases hk : f.kind with
        | reply => rw [answerOf_reply hk, hg]
        | exception => rw [answerOf_exception hk, hg]
        | data | request => rfl
    · simp [hg] at h

theorem heard_of_link {link : ActiveLink} {f : Frame} {text : String} (hl : c.link = some link)
    (hd : Frame.decode c.config text = .ok f) : c.heard? link.generation text = some (link, f) := by
  simp [heard?, hl, hd]

theorem message_of_terminal {link : ActiveLink} {f : Frame} {text : String} (hl : c.link = some link)
    (hd : Frame.decode c.config text = .ok f) (hk : f.kind.isTerminal = true) :
    c.message link.generation text = c.complete link.generation f.sequence (answerOf f) := by
  obtain ⟨-, -, -, hm⟩ := message_of_heard (heard_of_link hl hd)
  rw [hm]
  cases hf : f.kind with
  | reply | exception => rfl
  | request | data =>
    rw [hf] at hk
    cases hk

theorem happens_complete {link : ActiveLink} {f : Frame} (hl : c.link = some link) :
    Happens past c (.terminal link.generation f)
      (c.complete link.generation f.sequence (answerOf f)) := by
  unfold complete Correlator.take
  cases hp : c.correlator.pending.find? f.sequence with
  | none => exact .stray hl hp
  | some p =>
    show Happens past c _ ({ c with correlator := c.correlator.without f.sequence }.fulfil
      link.generation p (answerOf f))
    unfold fulfil
    cases hq : p.purpose with
    | request =>
      have hr : Happens past c _ _ := .replied hl hp (by simp [hq, Purpose.isCall])
        (fun id topic h => by simp [hq] at h)
      simp only [hq, outcomeOf] at hr
      exact hr
    | subscribe id topic =>
      simp only
      split
      next e he =>
        have ha : answerTo topic f = .error e := he
        have hr : Happens past c _ _ := .replied hl hp (by simp [hq, Purpose.isCall])
          (fun i t h => by
            rw [hq] at h
            cases h
            exact ⟨e, ha⟩)
        simp only [hq, outcomeOf, ha] at hr
        exact hr
      next reply he =>
        have ha : answerTo topic f = .ok reply := he
        split
        next there => exact .granted hl hp hq ha there
        next gone => exact .late hl hp hq ha (by simpa using gone)
    | replay id topic =>
      simp only
      split
      next there =>
        split
        next e he =>
          rw [endSubscription_eq]
          exact .failed hl hp hq there he
        next reply he =>
          have hr : Happens past c _ _ := .restored hl hp hq there he
          have keep : (c.routes.adjust id fun r =>
              { r with binding := some (bindingOf reply) }).contains id = c.routes.contains id := by
            simp [Table.contains, Table.find?_adjust]
          simp only [keep]
          split
          next hc =>
            simp only [hc, if_true] at hr
            exact hr
          next hc =>
            simp only [hc, Bool.false_eq_true, if_false] at hr
            exact hr
      next gone => exact .lapsed hl hp hq (by simpa using gone)

/-- What holds of a client and its history as far as anything that happens keeps it. -/
structure Lasting (config : FrameConfig) (P : Client → List Event → Prop) : Prop where
  traced : ∀ {c past}, P c past → Traced config c past
  skip : ∀ {c past}, P c past → P { c with nextId := c.nextId + 1 } past
  refuse : ∀ {c past}, P c past → ∀ g n, P (c.refuse g n) past
  next : ∀ {c past e after}, P c past → Happens past c e after → P after (e :: past)

variable {P : Client → List Event → Prop}

/-- A round of replays, seen as one thing after the other. -/
theorem lasting_replay {due : List (Nat × Topic)} {link : ActiveLink} (inv : Lasting config P) (h : P c past)
    (hc : c.closed = false) (hl : c.link = some link) (hr : link.ready = true)
    (distinct : (due.map Prod.fst).Nodup)
    (stale : ∀ d ∈ due, (∃ g, c.registry.find? d.1 = some ⟨d.2, g⟩ ∧ g < link.generation) ∧
      ∀ p body t, .sent p body ∈ past → p.purpose = .replay d.1 t →
        p.generation ≠ link.generation) :
    P (c.replay due) ((c.replaying due).reverse ++ past) := by
  induction due generalizing c past link with
  | nil => exact h
  | cons d rest ih =>
    obtain ⟨id, topic⟩ := d
    obtain ⟨hnot, hrest⟩ := List.nodup_cons.mp distinct
    obtain ⟨⟨g, hid, hg⟩, first⟩ := stale (id, topic) List.mem_cons_self
    have other : ∀ d ∈ rest, d.1 ≠ id := fun d hd he =>
      hnot (List.mem_map.mpr ⟨d, hd, he⟩)
    unfold replay replaying
    cases hs : c.sendRequest topic.requestBody (.replay id topic) with
    | ok after =>
      obtain ⟨link', text, hsends, rfl⟩ := sends_of_sendRequest hs
      have hsame : link' = link := Option.some.inj (hsends.current.symm.trans hl)
      subst link'
      have ht := inv.next h (.replayed hsends hr hid hg first)
      have hrec := ih ht hc (show _ = some link.spend from rfl) hr hrest fun d hd => by
        obtain ⟨hreg, hsent⟩ := stale d (List.mem_cons_of_mem _ hd)
        refine ⟨hreg, fun p body t hp hq => ?_⟩
        rcases List.mem_cons.mp hp with he | hp
        · cases he
          cases hq
          exact absurd rfl (other _ hd)
        · exact hsent p body t hp hq
      simpa [sending_of_sends hsends] using hrec
    | error e =>
      rcases sendRequest_error hc hl hs with ⟨fault, he, rfl⟩ | ⟨_, _, rfl⟩
      · have ht := inv.next h (.unsent hl hid hg he)
        rw [← endSubscription_eq] at ht
        have hl' : (c.endSubscription id (.frame fault)).link = some link := by
          rw [endSubscription_eq]
          exact hl
        have hrec := ih ht (by rw [endSubscription_eq]; exact hc) hl' hr hrest fun d hd => by
            obtain ⟨⟨g, hreg, hlt⟩, hsent⟩ := stale d (List.mem_cons_of_mem _ hd)
            refine ⟨⟨g, ?_, hlt⟩, fun p body t hp hq => hsent p body t (by simpa using hp) hq⟩
            rw [endSubscription_eq]
            simpa [Table.find?_erase, other d hd] using hreg
        simpa using hrec
      · exact h

theorem stale_keys_sorted (c : Client) (g : Nat) : ((c.stale g).map Prod.fst).Pairwise (· < ·) := by
  have sorted : (c.registry.entries.map Prod.fst).Pairwise (· < ·) :=
    List.pairwise_map.mpr c.registry.sorted
  have keys : (c.stale g).map Prod.fst =
      (c.registry.entries.filter fun e => e.2.generation < g).map Prod.fst := by
    simp [stale, Function.comp_def]
  rw [keys]
  exact sorted.sublist (List.filter_sublist.map _)

theorem stale_keys_nodup (c : Client) (g : Nat) : ((c.stale g).map Prod.fst).Nodup :=
  (stale_keys_sorted c g).imp Nat.ne_of_lt

theorem mem_stale {g id : Nat} {topic : Topic} :
    (id, topic) ∈ c.stale g ↔ ∃ n, c.registry.find? id = some ⟨topic, n⟩ ∧ n < g := by
  simp only [stale, List.mem_map, List.mem_filter, decide_eq_true_eq]
  constructor
  · rintro ⟨⟨i, s⟩, ⟨hm, hlt⟩, he⟩
    cases he
    exact ⟨s.generation, Table.mem_entries_iff.mp hm, hlt⟩
  · rintro ⟨n, hf, hlt⟩
    exact ⟨(id, ⟨topic, n⟩), ⟨Table.mem_entries_iff.mpr hf, hlt⟩, rfl⟩

theorem lasting_greet {link : ActiveLink} {info : ConnectionInfo} (inv : Lasting config P) (h : P c past)
    (hl : c.link = some link) :
    P (c.greet link info)
      ((c.greeting link info).reverse ++ .pushed link.generation (.connectionInfo info) :: past) := by
  unfold greet greeting
  by_cases hr : link.ready = true
  · simp only [hr, if_true]
    exact inv.next h (.informed hl hr)
  · simp only [hr, Bool.false_eq_true, if_false]
    have ht : P (c.greeted link info)
        (.pushed link.generation (.connectionInfo info) :: past) :=
      inv.next h (.greeted hl (by simpa using hr))
    have hc := traced_open (inv.traced h) hl
    refine lasting_replay inv ht hc (show _ = some { link with ready := true } from rfl) rfl
      (stale_keys_nodup _ _) fun d hd => ?_
    obtain ⟨g, hreg, hlt⟩ := mem_stale.mp hd
    refine ⟨⟨g, hreg, hlt⟩, fun p body t hp hq he => hr ?_⟩
    exact traced_sent (inv.traced h) (by simpa using hp) (by simp [hq, Purpose.isCall]) hl he

theorem lasting_message {g : Nat} {text : String} (inv : Lasting config P) (h : P c past) :
    P (c.message g text) ((c.events (.message g text)).reverse ++ past) := by
  cases hh : c.heard? g text with
  | none =>
    simp only [message_of_unheard hh, events, hh]
    exact h
  | some found =>
    obtain ⟨link, f⟩ := found
    obtain ⟨hl, -, -, hm⟩ := message_of_heard hh
    rw [hm]
    simp only [events, hh, hearing]
    cases f.kind with
    | request => exact h
    | reply | exception => exact inv.next h (happens_complete hl)
    | data =>
      cases eventOf? f with
      | none => exact h
      | some event =>
        cases event with
        | connectionInfo info =>
          have ht := @lasting_greet config c past P link info inv h hl
          simpa [dispatch] using ht
        | _ => exact inv.next h (.pushed hl fun _ he => by cases he)

theorem losing_of_link {link : ActiveLink} (hl : c.link = some link) :
    c.losing = [.lost link.generation] := by
  simp [losing, hl]

theorem lasting_attach {room : Option Nat} (inv : Lasting config P) (h : P c past) :
    P (c.attach room).1 ((c.events (.attach room)).reverse ++ past) := by
  simp only [attach, events]
  cases hc : c.closed with
  | true => exact h
  | false =>
    simp only [Bool.false_eq_true, if_false]
    cases hl : c.link with
    | none =>
      simp only [losing, hl]
      exact inv.next h (.opened hc hl)
    | some link =>
      have ht := inv.next h (.lost hl)
      rw [← closeLink_eq hl] at ht
      have hopen := @Happens.opened (.lost link.generation :: past) (c.closeLink link.generation)
        room (by rw [closeLink_eq hl]; exact hc) (by rw [closeLink_eq hl])
      have same : (c.closeLink link.generation).generation = c.generation := by rw [closeLink_eq hl]
      rw [same] at hopen
      rw [losing_of_link hl]
      simp only [same]
      exact inv.next ht hopen

theorem lasting_subscribe {topic : Topic} (inv : Lasting config P) (h : P c past) :
    P (c.subscribe topic).1 ((c.events (.subscribe topic)).reverse ++ past) := by
  simp only [subscribe, events]
  have bump : ({ c with nextId := c.nextId + 1 } : Client).sendRequest topic.requestBody
      (.subscribe c.nextId topic) =
      (c.sendRequest topic.requestBody (.subscribe c.nextId topic)).map
        fun after => { after with nextId := c.nextId + 1 } := by
    unfold sendRequest write
    cases c.closed with
    | true => rfl
    | false =>
      cases c.link with
      | none => rfl
      | some link =>
        simp only [Bool.false_eq_true, if_false]
        cases (Frame.request c.correlator.next topic.requestBody).encode c.config with
        | error e => rfl
        | ok text => cases link.accepting <;> rfl
  simp only [bump]
  cases hs : c.sendRequest topic.requestBody (.subscribe c.nextId topic) with
  | error e =>
    rw [sending_of_error hs]
    exact inv.skip h
  | ok after =>
    obtain ⟨link, text, hsends, rfl⟩ := sends_of_sendRequest hs
    rw [sending_of_sends hsends]
    exact inv.next h (.subscribed hsends)

theorem lasting_request {body : RequestBody} (inv : Lasting config P) (h : P c past) :
    P (c.request body).1 ((c.events (.request body)).reverse ++ past) := by
  simp only [request, events]
  cases hs : c.sendRequest body .request with
  | error e =>
    rw [sending_of_error hs]
    exact h
  | ok after =>
    obtain ⟨link, text, hsends, rfl⟩ := sends_of_sendRequest hs
    rw [sending_of_sends hsends]
    exact inv.next h (.requested hsends)

theorem lasting_cancel {s : Nat} (inv : Lasting config P) (h : P c past) :
    P (c.cancel s) ((c.events (.cancel s)).reverse ++ past) := by
  simp only [cancel, events]
  cases hs : c.calls.find? s with
  | none =>
    simp only [Table.contains, hs]
    exact h
  | some call =>
    simp only [Table.contains, hs]
    cases hn : call.handle with
    | none => exact inv.next h (.cancelled hs hn)
    | some id => exact inv.next h (.abandoned hs hn)

theorem lasting_collect {s : Nat} (inv : Lasting config P) (h : P c past) :
    P (c.collect s).1 ((c.events (.collect s)).reverse ++ past) := by
  simp only [events, collect]
  cases hs : c.calls.find? s with
  | none => exact h
  | some call =>
    obtain ⟨handle, outcome⟩ := call
    cases outcome with
    | none => exact h
    | some outcome =>
      cases handle with
      | none => exact inv.next h (.returned hs)
      | some id =>
        cases outcome with
        | ok answer => exact inv.next h (.handed hs)
        | error e => exact inv.next h (.denied hs)

theorem lasting_receive {id : Nat} (inv : Lasting config P) (h : P c past) :
    P (c.receive id).1 ((c.events (.receive id)).reverse ++ past) := by
  simp only [events, receive]
  cases hh : c.held? id with
  | none => exact h
  | some handle =>
    cases hq : handle.queue with
    | nil =>
      simp only [hq]
      cases c.routes.contains id <;> exact h
    | cons item rest =>
      simp only [hq]
      exact inv.next h (.received hh hq)

theorem lasting_step (inv : Lasting config P) (h : P c past) (s : Step) :
    P (c.step s) ((c.events s).reverse ++ past) := by
  cases s with
  | attach room => exact lasting_attach inv h
  | subscribe topic => exact lasting_subscribe inv h
  | request body => exact lasting_request inv h
  | cancel s => exact lasting_cancel inv h
  | collect s => exact lasting_collect inv h
  | receive id => exact lasting_receive inv h
  | unsubscribe id =>
    simp only [step, unsubscribe, events]
    split
    next hh => exact inv.next h (.unsubscribed hh)
    next => exact h
  | dropHandle id =>
    simp only [step, dropHandle, events]
    split
    next hh => exact inv.next h (.dropped hh)
    next => exact h
  | message g text => exact lasting_message inv h
  | linkClosed g =>
    simp only [step, events]
    cases hg : c.isCurrent g with
    | false =>
      rw [closeLink_of_not_current hg]
      exact h
    | true =>
      obtain ⟨link, hl, rfl⟩ := isCurrent_iff.mp hg
      rw [closeLink_eq hl]
      exact inv.next h (.lost hl)
  | refuse g n => exact inv.refuse h g n
  | close =>
    simp only [step, events]
    cases hc : c.closed with
    | true =>
      simp only [close, hc, if_true]
      exact h
    | false =>
      rw [close_eq hc]
      exact inv.next h (.shut hc)

theorem lasting_traced (config : FrameConfig) : Lasting config (Traced config) :=
  ⟨id, .skip, fun h g n => h.refuse g n, .next⟩

theorem lasting_run (inv : Lasting config P) (h : P c past) (steps : List Step) :
    P (c.run steps) (c.recount past steps) := by
  induction steps generalizing c past with
  | nil => exact h
  | cons s rest ih => exact ih (lasting_step inv h s)

/-- Every run is made of single happenings. -/
theorem traced_run (config : FrameConfig) (steps : List Step) :
    Traced config ((fresh config).run steps) (history config steps) :=
  lasting_run (lasting_traced config) .start steps

end Telemux.Client
