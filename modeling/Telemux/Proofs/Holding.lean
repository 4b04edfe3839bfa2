import Telemux.Proofs.Closing
import Telemux.Proofs.Stream

namespace Telemux.Client

variable {config : FrameConfig} {c after : Client} {past : List Event} {id : Nat}

/-- Whoever holds a handle keeps it until it is dropped. -/
theorem held_happens (ht : Traced config c past) {e : Event} (hn : Happens past c e after)
    (held : (c.held? id).isSome = true) (stays : e ≠ .detached id) :
    (after.held? id).isSome = true := by
  obtain ⟨old, hh⟩ := Option.isSome_iff_exists.mp held
  obtain ⟨found, hold⟩ := held?_eq_some_iff.mp hh
  -- The handle of a call is held by nobody, so this one belongs to none.
  have uncalled : ∀ {s call}, c.calls.find? s = some call → call.handle ≠ some id := by
    intro s call hc hi
    obtain ⟨handle, same, free⟩ := traced_called ht hc hi
    cases found.symm.trans same
    rw [hold] at free
    cases free
  rcases handle_kept hn found with ⟨new, hnew, -⟩ | ⟨s, call, -, hc, hi⟩ | ⟨gone, -⟩
  · rcases handle_happens hn hnew with ⟨_, ho, -, same | ⟨s, answer, -, hc⟩⟩ | ⟨-, p, body, rfl, hq⟩
    · cases found.symm.trans ho
      exact Option.isSome_iff_exists.mpr ⟨new, held?_eq_some_iff.mpr ⟨hnew, same.trans hold⟩⟩
    · exact absurd rfl (uncalled hc)
    · obtain ⟨q, hq', ho⟩ := traced_handle_request ht found
      have fresh : p ∈ requests (.sent p body :: past) := List.mem_cons_self
      have same := eq_of_subscribe (ht.next hn) fresh (mem_requests_cons _ hq') hq ho
      have below := traced_id_lt ht hq' ho
      cases hn with
      | subscribed hs =>
        cases hq
        omega
      | requested | replayed => cases hq
  · exact absurd hi (uncalled hc)
  · exact absurd gone stays

/-- As far as a handle was not dropped, it is held from then on. -/
theorem lasting_held (config : FrameConfig) (id : Nat) : Lasting config fun c past =>
    Traced config c past ∧ (.detached id ∉ past → (c.held? id).isSome = true) where
  traced h := h.1
  skip h := ⟨h.1.skip, h.2⟩
  refuse h g n := ⟨h.1.refuse g n, h.2⟩
  next := by
    intro c past e after h hn
    refine ⟨h.1.next hn, fun kept => ?_⟩
    obtain ⟨stays, before⟩ := not_or.mp (mt List.mem_cons.mpr kept)
    exact held_happens h.1 hn (h.2 before) (Ne.symm stays)

/-- The steps in which a thing can happen: each of them is somebody's own doing. -/
def Event.ArisesIn (s : Step) : Event → Prop
  | .received id _ => s = .receive id
  | .detached id => s = .unsubscribe id ∨ s = .dropHandle id
  | .shut => s = .close
  | .pushed _ _ | .terminal _ _ | .unsent _ _ => ∃ generation text, s = .message generation text
  | _ => True

theorem arises_of_mem {s : Step} {e : Event} (he : e ∈ c.events s) : e.ArisesIn s := by
  cases s with
  | receive k | unsubscribe k | dropHandle k | collect k | cancel k | linkClosed k =>
    simp only [events] at he
    split at he
    next =>
      cases List.mem_singleton.mp he
      simp [Event.ArisesIn]
    next => cases he
  | close =>
    simp only [events] at he
    split at he
    next => cases he
    next =>
      cases List.mem_singleton.mp he
      rfl
  | subscribe topic | request body =>
    obtain ⟨link, -, rfl⟩ := mem_sending he
    exact trivial
  | attach room =>
    simp only [events, losing] at he
    split at he
    next => cases he
    next =>
      rcases List.mem_append.mp he with he | he
      · split at he
        next =>
          cases List.mem_singleton.mp he
          exact trivial
        next => cases he
      · cases List.mem_singleton.mp he
        exact trivial
  | refuse g n => cases he
  | message g text =>
    simp only [events] at he
    split at he
    next link f heard =>
      rcases mem_hearing he with rfl | ⟨-, event, -, rfl | ⟨info, -, he⟩⟩
      · exact ⟨g, text, rfl⟩
      · exact ⟨g, text, rfl⟩
      · unfold greeting at he
        split at he
        next => cases he
        next =>
          rcases mem_replaying he with ⟨_, _, _, _, _, rfl⟩ | ⟨_, _, rfl⟩
          · exact trivial
          · exact ⟨g, text, rfl⟩
    next => cases he

/-- What has happened before stays behind what happens in further steps. -/
theorem recount_eq_append (c : Client) (past : List Event) (steps : List Step) :
    ∃ newer, c.recount past steps = newer ++ past ∧ ∀ e ∈ newer, ∃ s ∈ steps, e.ArisesIn s := by
  induction steps generalizing c past with
  | nil => exact ⟨[], rfl, List.forall_mem_nil _⟩
  | cons s rest ih =>
    obtain ⟨newer, split, arise⟩ := ih (c.step s) ((c.events s).reverse ++ past)
    refine ⟨newer ++ (c.events s).reverse, by rw [recount, split, List.append_assoc], fun e he => ?_⟩
    rcases List.mem_append.mp he with later | first
    · obtain ⟨t, ht, arises⟩ := arise e later
      exact ⟨t, List.mem_cons_of_mem _ ht, arises⟩
    · exact ⟨s, List.mem_cons_self, arises_of_mem (List.mem_reverse.mp first)⟩

theorem mem_recount {steps : List Step} {e : Event} (he : e ∈ c.recount past steps) :
    e ∈ past ∨ ∃ s ∈ steps, e.ArisesIn s := by
  obtain ⟨newer, split, arise⟩ := c.recount_eq_append past steps
  rw [split] at he
  rcases List.mem_append.mp he with new | old
  · exact .inr (arise e new)
  · exact .inl old

theorem recount_append (c : Client) (past : List Event) (before after : List Step) :
    c.recount past (before ++ after) = (c.run before).recount (c.recount past before) after := by
  induction before generalizing c past with
  | nil => rfl
  | cons s rest ih => exact ih _ _

theorem taken_append {newer : List Event} (quiet : ∀ item, .received id item ∉ newer) :
    taken id (newer ++ past) = taken id past := by
  induction newer with
  | nil => rfl
  | cons e newer ih =>
    have rest := ih fun item hm => quiet item (List.mem_cons_of_mem _ hm)
    cases e with
    | received k item =>
      have other : k ≠ id := by
        rintro rfl
        exact quiet item List.mem_cons_self
      rw [List.cons_append, taken, if_neg other, rest]
    | _ => exact rest

theorem taken_isPrefix_append (id : Nat) (newer past : List Event) :
    taken id past <+: taken id (newer ++ past) := by
  induction newer with
  | nil => exact List.prefix_refl _
  | cons e newer ih =>
    cases e with
    | received k item =>
      rw [List.cons_append, taken]
      split
      next => exact ih.trans (List.prefix_append _ _)
      next => exact ih
    | _ => exact ih

/-- Only whoever reads a stream takes from it. -/
theorem taken_recount {steps : List Step} (quiet : .receive id ∉ steps) :
    taken id (c.recount past steps) = taken id past := by
  obtain ⟨newer, split, arise⟩ := c.recount_eq_append past steps
  rw [split]
  refine taken_append fun item hm => ?_
  obtain ⟨s, hs, rfl⟩ := arise _ hm
  exact quiet hs

theorem taken_receive (c : Client) (past : List Event) (id : Nat) :
    taken id (c.recount past [.receive id]) = taken id past ++
      match (c.receive id).2 with
      | .item item => [item]
      | _ => [] := by
  cases h : (c.receive id).2 with
  | item item => simp [recount, events, h, taken]
  | _ => simp [recount, events, h]

theorem items_append {newer : List Event} (h : Traced config c (newer ++ past))
    (unheard : ∀ e ∈ newer, ∃ s, e.ArisesIn s ∧ ∀ g text, s ≠ .message g text) :
    (feed id (newer ++ past)).items = (feed id past).items := by
  induction newer generalizing c with
  | nil => rfl
  | cons e newer ih =>
    obtain ⟨before, _, hb, -⟩ := traced_cons h
    obtain ⟨s, arises, other⟩ := unheard e List.mem_cons_self
    have nothing : gained id (newer ++ past) e = [] := by
      refine gained_of_quiet ?_ fun err fails => ?_
      · rintro g event rfl
        obtain ⟨_, _, said⟩ := arises
        exact other _ _ said
      · cases e with
        | terminal | unsent =>
          obtain ⟨_, _, said⟩ := arises
          exact other _ _ said
        | _ => exact fails
    have hb' : Traced config before (newer ++ past) := hb
    rw [List.cons_append, items_cons hb', nothing, List.append_nil]
    exact ih hb' fun e he => unheard e (List.mem_cons_of_mem _ he)

/-- Nothing but a word of the server puts anything on a stream. -/
theorem items_recount (h : Traced config c past) {steps : List Step}
    (unheard : ∀ g text, .message g text ∉ steps) :
    (feed id (c.recount past steps)).items = (feed id past).items := by
  have traced := lasting_run (lasting_traced config) h steps
  obtain ⟨newer, split, arise⟩ := c.recount_eq_append past steps
  rw [split] at traced ⊢
  refine items_append traced fun e he => ?_
  obtain ⟨s, hs, arises⟩ := arise e he
  refine ⟨s, arises, ?_⟩
  rintro g text rfl
  exact unheard g text hs

/-- A client that is closed was shut at some time. -/
theorem traced_shut (h : Traced config c past) (hc : c.closed = true) : .shut ∈ past := by
  induction h with
  | start => cases hc
  | skip _ ih | refuse _ _ _ ih => exact ih hc
  | next _ hn ih =>
    cases hn with
    | shut => exact List.mem_cons_self
    | _ => exact List.mem_cons_of_mem _ (ih hc)

/-- A client and its history, in which no handle was ever dropped. -/
structure Unbroken (config : FrameConfig) (c : Client) (past : List Event) : Prop where
  traced : Traced config c past
  kept : ∀ id, .detached id ∉ past

def Step.drops : Step → Bool
  | .unsubscribe _ | .dropHandle _ => true
  | _ => false

theorem Unbroken.run (h : Unbroken config c past) {steps : List Step}
    (keep : ∀ s ∈ steps, s.drops = false) : Unbroken config (c.run steps) (c.recount past steps) := by
  refine ⟨lasting_run (lasting_traced config) h.traced steps, fun id hm => ?_⟩
  rcases mem_recount hm with old | ⟨s, hs, rfl | rfl⟩
  · exact h.kept id old
  · cases keep _ hs
  · cases keep _ hs

theorem collect_eq_some {s : Nat} {o : Outcome} (h : (c.collect s).2 = some o) :
    ∃ handle, c.calls.find? s = some ⟨handle, some o⟩ := by
  unfold collect at h
  split at h
  next handle outcome hc =>
    have same : outcome = o := by
      cases handle with
      | none => exact Option.some.inj h
      | some id => cases outcome <;> exact Option.some.inj h
    exact ⟨handle, same ▸ hc⟩
  next => cases h

/-- Whoever gets a success for a subscribe call gets the handle as well. -/
theorem held_of_answer (h : Traced config c past) {q : Pending Purpose} (hq : q ∈ requests past)
    (own : q.purpose.handle? = some id) {answer : Answer}
    (ho : (c.collect q.sequence).2 = some (.ok answer)) :
    ((c.collect q.sequence).1.held? id).isSome = true := by
  obtain ⟨handle, hc⟩ := collect_eq_some ho
  obtain ⟨p, body, later, earlier, hs, same, -, -, hcall⟩ := traced_call_sent h hc
  cases eq_of_sequence h (mem_requests_of_sent hs) hq same
  have mine : handle = some id := (congrArg Call.handle hcall).trans own
  subst mine
  obtain ⟨found, hh, -⟩ := traced_called h hc rfl
  exact Option.isSome_iff_exists.mpr ⟨_, held_of_collect hc hh⟩

/-- Whoever finds nothing on a stream has taken everything that was put on it. -/
theorem items_of_unread (h : Traced config c past) (held : (c.held? id).isSome = true)
    (nothing : ∀ item, (c.receive id).2 ≠ .item item) : (feed id past).items = taken id past := by
  obtain ⟨handle, hh⟩ := Option.isSome_iff_exists.mp held
  obtain ⟨found, -⟩ := held?_eq_some_iff.mp hh
  have all := traced_items h found
  cases hq : handle.queue with
  | nil => rw [← all, hq, List.append_nil]
  | cons item rest => exact absurd (by simp [receive, hh, hq]) (nothing item)

theorem Unbroken.held (h : Unbroken config c past) {steps : List Step}
    (keep : ∀ s ∈ steps, s.drops = false) (held : (c.held? id).isSome = true) :
    ((c.run steps).held? id).isSome = true :=
  (lasting_run (lasting_held config id) ⟨h.traced, fun _ => held⟩ steps).2 ((h.run keep).kept id)

end Telemux.Client
