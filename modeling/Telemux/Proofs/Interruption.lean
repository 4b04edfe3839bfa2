import Telemux.Proofs.Binding
import Telemux.Proofs.Live

namespace Telemux.Client

/-- The link goes on which a subscription was confirmed last. -/
def Loses (past : List Event) (id : Nat) : Event → Prop
  | .lost generation => ∃ reply, lastReply id past = some (generation, reply)
  | _ => False

/-- The success of a replay. -/
def Restored (past : List Event) (id : Nat) : Event → Prop
  | .terminal generation f =>
    ∃ p topic reply, answered past generation f = some p ∧ p.purpose = .replay id topic ∧
      answerTo topic f = .ok reply
  | _ => False

/-- A subscription is interrupted from the loss of the link on which it was confirmed last until the
success of its replay. -/
def Interrupted (id : Nat) : List Event → Prop
  | [] => False
  | e :: past => Loses past id e ∨ Interrupted id past ∧ ¬Restored past id e

variable {config : FrameConfig} {c : Client} {past : List Event} {id : Nat}

theorem interrupted_cons_of_quiet {e : Event} (hl : ¬Loses past id e) (hr : ¬Restored past id e) :
    Interrupted id (e :: past) ↔ Interrupted id past := by
  simp [Interrupted, hl, hr]

theorem exists_confirmed {x : Nat × InitialReply} (h : lastReply id past = some x) :
    ∃ later e earlier, past = later ++ e :: earlier ∧ confirmed? id earlier e = some x := by
  induction past with
  | nil => cases h
  | cons e past ih =>
    cases hc : confirmed? id past e with
    | none =>
      rw [lastReply_cons_of_none hc] at h
      obtain ⟨later, e', earlier, rfl, he⟩ := ih h
      exact ⟨e :: later, e', earlier, rfl, he⟩
    | some y =>
      rw [lastReply_cons_of_some hc] at h
      cases h
      exact ⟨[], e, past, rfl, hc⟩

theorem exists_reply_of_interrupted (h : Interrupted id past) : ∃ x, lastReply id past = some x := by
  induction past with
  | nil => cases h
  | cons e past ih =>
    cases hc : confirmed? id past e with
    | some x => exact ⟨x, lastReply_cons_of_some hc⟩
    | none =>
      rw [lastReply_cons_of_none hc]
      rcases h with hl | ⟨before, -⟩
      · cases e with
        | lost g =>
          obtain ⟨reply, hr⟩ := hl
          exact ⟨_, hr⟩
        | _ => cases hl
      · exact ih before

theorem request_of_confirmed {e : Event} {x : Nat × InitialReply} (h : confirmed? id past e = some x) :
    ∃ g f p topic, e = .terminal g f ∧ answered past g f = some p ∧
      (p.purpose = .subscribe id topic ∨ p.purpose = .replay id topic) := by
  cases e with
  | terminal g f =>
    obtain ⟨p, hp, h⟩ := Option.bind_eq_some_iff.mp h
    obtain ⟨⟨k, topic⟩, hq, h⟩ := Option.bind_eq_some_iff.mp h
    by_cases hk : k = id
    · subst hk
      exact ⟨g, f, p, topic, rfl, hp, Purpose.eq_of_subscription hq⟩
    · simp [hk] at h
  | _ => cases h

/-- Nothing is told to a subscription before its subscribe call is answered. -/
theorem lastReply_of_waiting (h : Traced config c past) {p : Pending Purpose} {t : Topic}
    (hp : p ∈ waiting past) (hq : p.purpose = .subscribe id t) : lastReply id past = none := by
  refine Option.eq_none_iff_forall_ne_some.mpr fun x hx => ?_
  obtain ⟨later, e, earlier, rfl, he⟩ := exists_confirmed hx
  obtain ⟨g, f, q, topic, rfl, ha, hpurpose⟩ := request_of_confirmed he
  have asked : q ∈ requests earlier := waiting_subset_requests (List.mem_of_find?_eq_some ha)
  rcases hpurpose with ho | ho
  · have mem := mem_requests_append later (mem_requests_cons (.terminal g f) asked)
    have same := eq_of_subscribe h mem (waiting_subset_requests hp) ho hq
    subst same
    exact not_waiting_later h (mem_requests_cons _ asked) (not_waiting_of_answered ha) hp
  · obtain ⟨since, body, older, rfl⟩ := exists_sent_of_mem_requests asked
    have apart : later ++ .terminal g f :: (since ++ .sent q body :: older) =
        (later ++ .terminal g f :: since) ++ .sent q body :: older := by simp
    rw [apart] at h hp
    have live := live_of_replayed h ho
    have rest : (later ++ .terminal g f :: since) ++ .sent q body :: older =
        ((later ++ .terminal g f :: since) ++ [.sent q body]) ++ older := by simp
    rw [rest] at h hp
    exact not_waiting_of_live h live hq hp

theorem restored_terminal_iff (h : Traced config c past) {link : ActiveLink} (hl : c.link = some link)
    {f : Frame} {p : Pending Purpose} (hp : c.correlator.pending.find? f.sequence = some p) :
    Restored past id (.terminal link.generation f) ↔
      ∃ topic reply, p.purpose = .replay id topic ∧ answerTo topic f = .ok reply := by
  rw [← traced_answered h hl] at hp
  constructor
  · rintro ⟨q, topic, reply, hq, ho, ha⟩
    cases hp.symm.trans hq
    exact ⟨topic, reply, ho, ha⟩
  · rintro ⟨topic, reply, ho, ha⟩
    exact ⟨p, topic, reply, hp, ho, ha⟩

/-- What is registered is interrupted as long as the link of its last confirmation is not in use. -/
theorem traced_interrupted_iff (h : Traced config c past) {s : Subscribed}
    (hs : c.registry.find? id = some s) :
    Interrupted id past ↔ c.isCurrent s.generation = false := by
  induction h generalizing s with
  | start => cases hs
  | skip _ ih => exact ih hs
  | refuse _ _ _ ih =>
    rw [isCurrent_refuse]
    exact ih hs
  | @next c past e after ht hn ih =>
    have keep : ∀ {after : Client} {e}, (∀ g, after.isCurrent g = c.isCurrent g) →
        ¬Loses past id e → ¬Restored past id e → c.registry.find? id = some s →
        (Interrupted id (e :: past) ↔ after.isCurrent s.generation = false) := by
      intro after e hg hl hr hs
      rw [interrupted_cons_of_quiet hl hr, hg]
      exact ih hs
    have erased : ∀ {k}, (c.registry.erase k).find? id = some s →
        c.registry.find? id = some s ∧ id ≠ k := by
      intro k hs
      rw [Table.find?_erase] at hs
      split at hs
      next => cases hs
      next hne => exact ⟨hs, hne⟩
    cases hn with
    | lost hl =>
      refine ⟨fun _ => rfl, fun _ => ?_⟩
      cases hcur : c.isCurrent s.generation with
      | true =>
        obtain ⟨reply, hb⟩ := traced_bound ht hs
        rw [isCurrent_of_link hl, decide_eq_true_eq] at hcur
        exact Or.inl ⟨reply, hcur ▸ hb.last⟩
      | false => exact Or.inr ⟨(ih hs).mpr hcur, not_false⟩
    | opened hc hl =>
      have before : c.isCurrent s.generation = false := by simp [isCurrent, hl]
      have old := (traced_made ht hs).2
      have new : c.generation + 1 ≠ s.generation := by omega
      rw [interrupted_cons_of_quiet (e := .opened _) not_false not_false, ih hs, before]
      simp [isCurrent, new]
    | shut hc => cases hs
    | subscribed hsend | requested hsend | replayed hsend =>
      exact keep (fun g => by simp [isCurrent, sentOn, hsend.current, ActiveLink.spend]) not_false not_false hs
    | greeted hl hr => exact keep (fun g => by simp [isCurrent, Client.greeted, hl]) not_false not_false hs
    | unsent | unsubscribed | dropped | abandoned | denied =>
      exact keep (fun _ => rfl) not_false not_false (erased hs).1
    | stray hl hp =>
      rw [← traced_answered ht hl] at hp
      exact keep (fun _ => rfl) not_false (by simp [Restored, hp]) hs
    | replied hl hp call fails =>
      refine keep (fun _ => rfl) not_false ?_ hs
      rw [restored_terminal_iff ht hl hp]
      rintro ⟨topic, reply, ho, -⟩
      simp [ho, Purpose.isCall] at call
    | late hl hp hq =>
      refine keep (fun _ => rfl) not_false ?_ (erased hs).1
      simp [restored_terminal_iff ht hl hp, hq]
    | failed hl hp hq there ha =>
      refine keep (fun _ => rfl) not_false ?_ (erased hs).1
      rw [restored_terminal_iff ht hl hp, hq]
      rintro ⟨topic, reply, ho, -⟩
      cases ho
      exact (erased hs).2 rfl
    | lapsed hl hp hq gone =>
      refine keep (fun _ => rfl) not_false ?_ hs
      rw [restored_terminal_iff ht hl hp, hq]
      rintro ⟨topic, reply, ho, -⟩
      cases ho
      simp [Table.contains, hs] at gone
    | @granted link f p k topic reply hl hp hq ha there =>
      have quiet : ¬Restored past id (.terminal link.generation f) := by
        simp [restored_terminal_iff ht hl hp, hq]
      rw [Table.find?_insert] at hs
      by_cases hk : id = k
      · subst hk
        rw [if_pos rfl] at hs
        cases hs
        have untold := lastReply_of_waiting ht ((traced_waiting ht).mp hp).1 hq
        have never : ¬Interrupted id past := by
          intro before
          obtain ⟨x, hx⟩ := exists_reply_of_interrupted before
          rw [untold] at hx
          cases hx
        rw [interrupted_cons_of_quiet (e := .terminal _ _) not_false quiet]
        simp [never, isCurrent, hl]
      · rw [if_neg hk] at hs
        exact keep (fun _ => rfl) not_false quiet hs
    | @restored link f p k topic reply hl hp hq there ha =>
      have answers := @restored_terminal_iff config c past id ht link hl f p hp
      rw [Table.find?_adjust] at hs
      by_cases hk : id = k
      · subst hk
        rw [if_pos rfl] at hs
        obtain ⟨old, -, rfl⟩ := Option.map_eq_some_iff.mp hs
        have back : Restored past id (.terminal link.generation f) :=
          answers.mpr ⟨topic, reply, hq, ha⟩
        simp [Interrupted, Loses, back, isCurrent, hl]
      · rw [if_neg hk] at hs
        refine keep (fun _ => rfl) not_false ?_ hs
        rw [answers, hq]
        rintro ⟨topic', reply', ho, -⟩
        cases ho
        exact hk rfl
    | _ => exact keep (fun _ => rfl) not_false not_false hs

/-- The route, the registered link and the handle of a live subscription agree on whether it takes
pushes. -/
structure Agrees (c : Client) (past : List Event) (id : Nat) (topic : Topic) (s : Subscribed) (r : Route)
    (handle : Handle) : Prop where
  registered : c.registry.find? id = some s ∧ s.topic = topic
  routed : c.routes.find? id = some r ∧ r.topic = topic
  handled : c.handles.find? id = some handle
  bound : r.binding.isSome = true ↔ ∃ link, c.link = some link ∧ s.generation = link.generation
  flagged : handle.interrupted = true ↔ r.binding = none
  since : handle.interrupted = true ↔ Interrupted id past

theorem agrees (h : Traced config c past) {topic : Topic} (live : Live id topic past) :
    ∃ s r handle, Agrees c past id topic s r handle := by
  obtain ⟨s, hs, htopic⟩ := Option.map_eq_some_iff.mp ((traced_live h id topic).mpr live)
  obtain ⟨reply, hb⟩ := traced_bound h hs
  obtain ⟨handle, hh⟩ := Option.isSome_iff_exists.mp (traced_handled h hs)
  have flag := traced_unbound h hb.route hh
  have current := traced_interrupted h hs hh
  refine ⟨s, _, handle, ⟨hs, htopic⟩, ⟨hb.route, htopic⟩, hh, ?_, ?_, ?_⟩
  · have used : c.isCurrent s.generation = true ↔
        ∃ link, c.link = some link ∧ s.generation = link.generation := by
      rw [isCurrent_iff]
      exact exists_congr fun link => and_congr_right fun _ => eq_comm
    rw [← used]
    cases c.isCurrent s.generation <;> simp
  · rw [flag]
    exact Option.isNone_iff_eq_none
  · rw [traced_interrupted_iff h hs, current]
    simp

/-- In every run, a live subscription is interrupted exactly from the loss of the link of its last
confirmation until the success of its replay, and routes, registry and handles tell the same. -/
theorem interrupted_until_restored (config : FrameConfig) (steps : List Step) :
    (∀ id topic, Live id topic (history config steps) → ∃ s r handle,
      Agrees ((fresh config).run steps) (history config steps) id topic s r handle) ∧
    (∀ id s, ((fresh config).run steps).registry.find? id = some s →
      s.generation ≤ ((fresh config).run steps).generation) ∧
    ∀ link, ((fresh config).run steps).link = some link →
      link.generation = ((fresh config).run steps).generation := by
  have h := traced_run config steps
  exact ⟨fun id topic live => agrees h live, fun id s hs => (traced_made h hs).2, (traced_link h).2⟩

/-- A subscription that is made on one link, and the next one on which it is not restored yet. -/
def betweenLinks : List Step :=
  [.attach none, .subscribe .events, .message 1 "[1,2,1,\x7b\x7d]", .attach none]

theorem interrupted_between_links :
    Live 1 .events (history {} betweenLinks) ∧ Interrupted 1 (history {} betweenLinks) := by
  have live : Live 1 .events (history {} betweenLinks) :=
    (traced_live (traced_run {} betweenLinks) 1 .events).mp (by decide +kernel)
  obtain ⟨s, r, handle, agrees⟩ := (interrupted_until_restored {} betweenLinks).1 1 .events live
  have flags : (((fresh {}).run betweenLinks).handles.find? 1).map (·.interrupted) = some true := by
    decide +kernel
  rw [agrees.handled] at flags
  exact ⟨live, agrees.since.mp (Option.some.inj flags)⟩

end Telemux.Client
