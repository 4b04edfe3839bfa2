import Mathlib.Data.List.Pairwise
import Telemux.Proofs.Interruption
import Telemux.Proofs.Wire

namespace Telemux.Client

variable {config : FrameConfig} {c : Client} {past : List Event}

/-- A subscription is replayed only once on a link. -/
theorem eq_of_replay (h : Traced config c past) {p q : Pending Purpose} {id : Nat} {t u : Topic}
    (hp : p ∈ requests past) (hq : q ∈ requests past) (ho : p.purpose = .replay id t)
    (hr : q.purpose = .replay id u) (same : p.generation = q.generation) : p = q := by
  have symm : Std.Symm fun p q : Pending Purpose => ∀ id t u, p.purpose = .replay id t →
      q.purpose = .replay id u → p.generation ≠ q.generation :=
    ⟨fun p q apart id t u ho hr => (apart id u t hr ho).symm⟩
  by_contra hne
  exact (traced_replays_once h).forall hp hq hne id t u ho hr same

theorem eq_generation_of_waiting (h : Traced config c past) {p q : Pending Purpose}
    (hp : p ∈ waiting past) (hq : q ∈ waiting past) : p.generation = q.generation := by
  obtain ⟨link, hl, hg⟩ := traced_waiting_link h hp
  obtain ⟨link', hl', hg'⟩ := traced_waiting_link h hq
  cases hl.symm.trans hl'
  exact hg.trans hg'.symm

/-- Of the requests that wait, at most one is about a subscription: its subscribe request is answered
before it is replayed, and on a link it is replayed once. -/
theorem eq_of_subscription (h : Traced config c past) {p q : Pending Purpose} {id : Nat} {t u : Topic}
    (hp : p ∈ waiting past) (hq : q ∈ waiting past) (ho : p.purpose.subscription? = some (id, t))
    (hr : q.purpose.subscription? = some (id, u)) : p = q := by
  have asked := waiting_subset_requests hp
  have asked' := waiting_subset_requests hq
  have same := eq_generation_of_waiting h hp hq
  rcases Purpose.eq_of_subscription ho with ho | ho <;> rcases Purpose.eq_of_subscription hr with hr | hr
  · exact eq_of_subscribe h asked asked' ho hr
  · have later := traced_replay_later h asked asked' ho hr
    omega
  · have later := traced_replay_later h asked' asked hr ho
    omega
  · exact eq_of_replay h asked asked' ho hr same

/-- A replay waits only as long as its link has not confirmed the subscription: a confirmation on that
link would be the answer to this very replay, or to a subscribe request that no replay can follow there. -/
theorem stamp_lt_of_replay (h : Traced config c past) {p : Pending Purpose} {id : Nat} {t : Topic}
    (hp : p ∈ waiting past) (ho : p.purpose = .replay id t) {s : Subscribed}
    (hs : c.registry.find? id = some s) : s.generation < p.generation := by
  obtain ⟨link, hl, hg⟩ := traced_waiting_link h hp
  have below : s.generation ≤ p.generation := by
    rw [hg, (traced_link h).2 link hl]
    exact (traced_made h hs).2
  refine Nat.lt_of_le_of_ne below fun same => ?_
  obtain ⟨reply, hb⟩ := traced_bound h hs
  obtain ⟨later, e, earlier, rfl, he⟩ := exists_confirmed hb.last
  obtain ⟨g, f, q, topic, rfl, ha, hq⟩ := request_of_confirmed he
  obtain ⟨f', hf⟩ := terminal_of_confirmed he
  cases hf
  have fits := List.find?_some ha
  simp only [decide_eq_true_eq] at fits
  have asked : q ∈ requests earlier := waiting_subset_requests (List.mem_of_find?_eq_some ha)
  have kept := mem_requests_append later (mem_requests_cons (.terminal s.generation f) asked)
  have generations : q.generation = p.generation := fits.1.trans same
  rcases hq with hq | hq
  · have after := traced_replay_later h kept (waiting_subset_requests hp) hq ho
    omega
  · have only := eq_of_replay h kept (waiting_subset_requests hp) hq ho generations
    subst only
    exact not_waiting_later h (mem_requests_cons _ asked) (not_waiting_of_answered ha) hp

theorem exists_settles {newer : List Event} {p : Pending Purpose} (hp : p ∈ waiting past)
    (gone : p ∉ waiting (newer ++ past)) : ∃ e ∈ newer, ∃ v, settles p e = some v := by
  induction newer with
  | nil => exact absurd hp gone
  | cons e newer ih =>
    by_cases before : p ∈ waiting (newer ++ past)
    · refine ⟨e, List.mem_cons_self, ?_⟩
      rw [List.cons_append] at gone
      cases e with
      | sent q body => exact absurd (List.mem_cons_of_mem _ before) gone
      | terminal g f =>
        have own : p.generation = g ∧ p.sequence = f.sequence := by
          by_contra other
          exact gone (List.mem_filter.mpr ⟨before, decide_eq_true other⟩)
        exact ⟨.answered f, by simp [settles, own]⟩
      | lost g =>
        have own : p.generation = g := by
          by_contra other
          exact gone (List.mem_filter.mpr ⟨before, decide_eq_true other⟩)
        exact ⟨.lost, by simp [settles, own]⟩
      | shut => exact ⟨.shut, rfl⟩
      | _ => exact absurd before gone
    · obtain ⟨e', he, hv⟩ := ih before
      exact ⟨e', List.mem_cons_of_mem _ he, hv⟩

theorem settles_greeting {link : ActiveLink} {info : ConnectionInfo} {e : Event}
    (he : e ∈ c.greeting link info) (p : Pending Purpose) : settles p e = none := by
  unfold greeting at he
  split at he
  next => cases he
  next => rcases mem_replaying he with ⟨_, _, _, _, _, rfl⟩ | ⟨_, _, rfl⟩ <;> rfl

theorem terminal_of_hearing {link : ActiveLink} {f : Frame} {p : Pending Purpose} {e : Event}
    {v : Verdict} (he : e ∈ c.hearing link f) (hv : settles p e = some v) :
    f.kind.isTerminal = true ∧ link.generation = p.generation ∧ f.sequence = p.sequence := by
  have own : e = .terminal link.generation f →
      link.generation = p.generation ∧ f.sequence = p.sequence := by
    rintro rfl
    by_contra other
    simp [settles, other] at hv
  unfold hearing at he
  split at he
  next hk => exact ⟨by rw [hk]; rfl, own (List.mem_singleton.mp he)⟩
  next hk => exact ⟨by rw [hk]; rfl, own (List.mem_singleton.mp he)⟩
  next => cases he
  next =>
    split at he
    next => cases he
    next =>
      rcases List.mem_cons.mp he with rfl | he
      · cases hv
      · rw [settles_greeting he] at hv
        cases hv
    next =>
      cases List.mem_singleton.mp he
      cases hv

theorem calls_replay (c : Client) (due : List (Nat × Topic)) : (c.replay due).calls = c.calls := by
  induction due generalizing c with
  | nil => rfl
  | cons d rest ih =>
    obtain ⟨id, topic⟩ := d
    unfold replay
    split
    next after hs =>
      obtain ⟨link, text, -, rfl⟩ := sends_of_sendRequest hs
      exact ih _
    next => rfl
    next e _ _ => rw [ih, endSubscription_eq]

theorem calls_dispatch (c : Client) (link : ActiveLink) (event : TopicEvent) :
    (c.dispatch link event).calls = c.calls := by
  cases event with
  | connectionInfo info =>
    simp only [dispatch, greet]
    split
    next => rfl
    next => exact calls_replay _ _
  | _ => rfl

/-- A message changes the call of a request only while the request waits, and only on its link. -/
theorem pending_of_message {g s : Nat} {text : String} (h : Traced config c past)
    (changed : (c.message g text).calls.find? s ≠ c.calls.find? s) :
    ∃ p, c.correlator.pending.find? s = some p ∧ p.generation = g := by
  cases hh : c.heard? g text with
  | none =>
    rw [message_of_unheard hh] at changed
    exact absurd rfl changed
  | some found =>
    obtain ⟨link, f⟩ := found
    obtain ⟨hl, hg, -, hm⟩ := message_of_heard hh
    rw [hm] at changed
    have answer : (c.complete link.generation f.sequence (answerOf f)).calls.find? s ≠
        c.calls.find? s → ∃ p, c.correlator.pending.find? s = some p ∧ p.generation = g := by
      intro changed
      rw [find?_calls_of_terminal (happens_complete hl) h] at changed
      cases hp : c.correlator.pending.find? f.sequence with
      | none =>
        rw [hp] at changed
        exact absurd rfl changed
      | some p =>
        rw [hp] at changed
        have own : s = f.sequence := by
          by_contra other
          simp [other] at changed
        obtain ⟨link', hl', hgen⟩ := traced_waiting_link h ((traced_waiting h).mp hp).1
        cases hl.symm.trans hl'
        exact ⟨p, own ▸ hp, hgen.trans hg⟩
    cases hk : f.kind with
    | reply | exception =>
      rw [hk] at changed
      exact answer changed
    | request =>
      rw [hk] at changed
      exact absurd rfl changed
    | data =>
      simp only [hk] at changed
      split at changed
      next => exact absurd (by rw [calls_dispatch]) changed
      next => exact absurd rfl changed

/-- The requests that wait were written to the link in use, each under a sequence of its own, and at
most one of them is about a subscription, which that link has not confirmed yet if it is a replay. So
whatever takes a request away by its sequence, or gives its caller an outcome, came on the link that
the request was written to. -/
structure PendingOnLink (config : FrameConfig) (c : Client) : Prop where
  written : ∀ s p, c.correlator.pending.find? s = some p →
    p.sequence = s ∧ s < c.correlator.next ∧
    (∃ link, c.link = some link ∧ p.generation = link.generation) ∧
    ∃ body text, (Frame.request s body).encode config = .ok text ∧
      (p.generation, .text text) ∈ c.written
  idle : c.link = none → c.correlator.pending = .empty
  replays : ∀ s p id topic sub, c.correlator.pending.find? s = some p →
    p.purpose = .replay id topic → c.registry.find? id = some sub → sub.generation < c.generation
  distinct : ∀ s s' p p' id t t', c.correlator.pending.find? s = some p →
    c.correlator.pending.find? s' = some p' → p.purpose.subscription? = some (id, t) →
    p'.purpose.subscription? = some (id, t') → s = s'
  taken : ∀ s p rest, c.correlator.take s = some (p, rest) →
    p.sequence = s ∧ ∀ g, c.isCurrent g = true ↔ p.generation = g
  answered : ∀ g text s p, c.correlator.pending.find? s = some p →
    (c.message g text).correlator.pending.find? s ≠ some p → p.generation = g ∧
      ∃ f, Frame.decode config text = .ok f ∧ f.kind.isTerminal = true ∧ f.sequence = s
  outcomes : ∀ g text s, (c.message g text).calls.find? s ≠ c.calls.find? s →
    ∃ p, c.correlator.pending.find? s = some p ∧ p.generation = g

theorem pendingOnLink (h : Traced config c past) : PendingOnLink config c := by
  have link : ∀ s p, c.correlator.pending.find? s = some p →
      ∃ link, c.link = some link ∧ p.generation = link.generation := fun s p hp =>
    traced_waiting_link h ((traced_waiting h).mp hp).1
  refine ⟨fun s p hp => ?_, fun hl => ?_, fun s p id topic sub hp hq hs => ?_, ?_, ?_, ?_, ?_⟩
  · obtain ⟨hw, hseq⟩ := (traced_waiting h).mp hp
    have asked := waiting_subset_requests hw
    obtain ⟨body, hb⟩ := mem_requests.mp asked
    obtain ⟨text, he, ht⟩ := traced_wire h hb
    rw [hseq] at he
    exact ⟨hseq, hseq ▸ traced_sequence_lt h asked, link s p hp, body, text, he, ht⟩
  · refine Table.ext_find? fun s => ?_
    rw [Table.find?_empty, Option.eq_none_iff_forall_ne_some]
    intro p hp
    obtain ⟨l, hsome, -⟩ := link s p hp
    rw [hl] at hsome
    cases hsome
  · obtain ⟨l, hl, hg⟩ := link s p hp
    have older := stamp_lt_of_replay h ((traced_waiting h).mp hp).1 hq hs
    rw [hg, (traced_link h).2 l hl] at older
    exact older
  · intro s s' p p' id t t' hp hp' hq hq'
    obtain ⟨hw, hs⟩ := (traced_waiting h).mp hp
    obtain ⟨hw', hs'⟩ := (traced_waiting h).mp hp'
    rw [← hs, ← hs', eq_of_subscription h hw hw' hq hq']
  · intro s p rest ht
    obtain ⟨q, hq, he⟩ := Option.map_eq_some_iff.mp ht
    cases he
    obtain ⟨l, hl, hg⟩ := link s p hq
    refine ⟨((traced_waiting h).mp hq).2, fun g => ?_⟩
    rw [isCurrent_of_link hl, decide_eq_true_eq, hg]
  · intro g text s p hp gone
    obtain ⟨hw, hs⟩ := (traced_waiting h).mp hp
    have after : Traced config (c.message g text) ((c.events (.message g text)).reverse ++ past) :=
      lasting_message (lasting_traced config) h
    have settled : p ∉ waiting ((c.events (.message g text)).reverse ++ past) := fun still =>
      gone ((traced_waiting after).mpr ⟨still, hs⟩)
    obtain ⟨e, he, v, hv⟩ := exists_settles hw settled
    rw [List.mem_reverse, events] at he
    cases hh : c.heard? g text with
    | none => simp [hh] at he
    | some found =>
      obtain ⟨l, f⟩ := found
      obtain ⟨hl, hg, hf, -⟩ := message_of_heard hh
      simp only [hh] at he
      obtain ⟨hk, hgen, hseq⟩ := terminal_of_hearing he hv
      rw [traced_config h] at hf
      exact ⟨hgen.symm.trans hg, f, hf, hk, hseq.trans hs⟩
  · intro g text s changed
    exact pending_of_message h changed

/-- In every run, what waits for an answer was written to the link in use, so that no other link can
answer it. -/
theorem pending_on_link (config : FrameConfig) (steps : List Step) :
    PendingOnLink config ((fresh config).run steps) :=
  pendingOnLink (traced_run config steps)

end Telemux.Client
