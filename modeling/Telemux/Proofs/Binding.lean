import Telemux.Proofs.Handles
import Telemux.Proofs.Record

namespace Telemux

/-- The subscription that a request is about. -/
def Purpose.subscription? : Purpose → Option (Nat × Topic)
  | .subscribe id topic | .replay id topic => some (id, topic)
  | .request => none

theorem Purpose.eq_of_subscription {p : Purpose} {id : Nat} {topic : Topic}
    (h : p.subscription? = some (id, topic)) : p = .subscribe id topic ∨ p = .replay id topic := by
  cases p with
  | request => cases h
  | subscribe k t =>
    cases h
    exact Or.inl rfl
  | replay k t =>
    cases h
    exact Or.inr rfl

namespace Client

/-- What an event tells a subscription, if it is the success of a subscribe request or of a replay,
and the link that it comes on. -/
def confirmed? (id : Nat) (past : List Event) : Event → Option (Nat × InitialReply)
  | .terminal generation f => do
    let p ← answered past generation f
    let (k, topic) ← p.purpose.subscription?
    if k = id then (answerTo topic f).toOption.map (generation, ·) else none
  | _ => none

/-- What a subscription was told last, and on which link. -/
def lastReply (id : Nat) : List Event → Option (Nat × InitialReply)
  | [] => none
  | e :: past => (confirmed? id past e).or (lastReply id past)

variable {config : FrameConfig} {c : Client} {past : List Event}

theorem lastReply_cons_of_none {id : Nat} {e : Event} (h : confirmed? id past e = none) :
    lastReply id (e :: past) = lastReply id past := by
  rw [lastReply, h, Option.none_or]

theorem lastReply_cons_of_some {id : Nat} {e : Event} {x : Nat × InitialReply}
    (h : confirmed? id past e = some x) : lastReply id (e :: past) = some x := by
  rw [lastReply, h, Option.some_or]

theorem isCurrent_of_link {link : ActiveLink} (hl : c.link = some link) (g : Nat) :
    c.isCurrent g = decide (link.generation = g) := by
  simp [isCurrent, hl]

theorem isCurrent_refuse (c : Client) (g n k : Nat) : (c.refuse g n).isCurrent k = c.isCurrent k := by
  cases hl : c.link with
  | none => simp [isCurrent, Client.refuse, hl]
  | some link =>
    by_cases he : link.generation = g <;> simp [isCurrent, Client.refuse, hl, he, ActiveLink.limit]

theorem traced_lost (h : Traced config c past) {g : Nat} (hg : .lost g ∈ past) {link : ActiveLink}
    (hl : c.link = some link) : g < link.generation := by
  induction h generalizing link with
  | start => cases hg
  | skip _ ih => exact ih hg hl
  | refuse _ _ _ ih =>
    obtain ⟨old, ho, he, -⟩ := link_refuse hl
    rw [he]
    exact ih hg ho
  | next ht hn ih =>
    cases hn with
    | lost | shut => cases hl
    | opened hc hno =>
      cases hl
      have old := traced_generation_le ht (by simpa using hg) (show (Event.lost g).generation? = _ from rfl)
      exact Nat.lt_succ_of_le old
    | subscribed hs | requested hs | replayed hs =>
      cases hl
      have behind := ih (by simpa using hg) hs.current
      exact behind
    | greeted ho hr =>
      cases hl
      have behind := ih (by simpa using hg) ho
      exact behind
    | _ => exact ih (by simpa using hg) hl

theorem terminal_of_confirmed {id g : Nat} {e : Event} {reply : InitialReply}
    (h : confirmed? id past e = some (g, reply)) : ∃ f, e = .terminal g f := by
  cases e with
  | terminal k f =>
    obtain ⟨p, -, h⟩ := Option.bind_eq_some_iff.mp h
    obtain ⟨⟨m, topic⟩, -, h⟩ := Option.bind_eq_some_iff.mp h
    simp only at h
    split at h
    next =>
      obtain ⟨r, -, he⟩ := Option.map_eq_some_iff.mp h
      cases he
      exact ⟨f, rfl⟩
    next => cases h
  | _ => cases h

theorem terminal_of_lastReply {id g : Nat} {reply : InitialReply}
    (h : lastReply id past = some (g, reply)) : ∃ f, .terminal g f ∈ past := by
  induction past with
  | nil => cases h
  | cons e past ih =>
    cases hc : confirmed? id past e with
    | none =>
      rw [lastReply_cons_of_none hc] at h
      exact (ih h).imp fun _ => List.mem_cons_of_mem _
    | some x =>
      rw [lastReply_cons_of_some hc] at h
      cases h
      obtain ⟨f, rfl⟩ := terminal_of_confirmed hc
      exact ⟨f, List.mem_cons_self⟩

section

variable {link : ActiveLink} {f : Frame} {p : Pending Purpose} {id : Nat}

theorem confirmed?_stray (h : Traced config c past) (hl : c.link = some link)
    (hp : c.correlator.pending.find? f.sequence = none) :
    confirmed? id past (.terminal link.generation f) = none := by
  rw [← traced_answered h hl] at hp
  simp [confirmed?, hp]

theorem confirmed?_answer (h : Traced config c past) (hl : c.link = some link)
    (hp : c.correlator.pending.find? f.sequence = some p) {k : Nat} {topic : Topic}
    (hq : p.purpose.subscription? = some (k, topic)) :
    confirmed? id past (.terminal link.generation f) =
      if k = id then (answerTo topic f).toOption.map (link.generation, ·) else none := by
  rw [← traced_answered h hl] at hp
  simp [confirmed?, hp, hq]

theorem confirmed?_failure (h : Traced config c past) (hl : c.link = some link)
    (hp : c.correlator.pending.find? f.sequence = some p)
    (fails : ∀ k topic, p.purpose.subscription? = some (k, topic) → ∃ e, answerTo topic f = .error e) :
    confirmed? id past (.terminal link.generation f) = none := by
  cases hq : p.purpose.subscription? with
  | none =>
    rw [← traced_answered h hl] at hp
    simp [confirmed?, hp, hq]
  | some sub =>
    obtain ⟨e, he⟩ := fails sub.1 sub.2 hq
    rw [confirmed?_answer h hl hp hq, he]
    simp [Except.toOption]

end

/-- A subscription takes pushes on the link on which it was confirmed last, and in the way it was told
there. -/
structure Bound (c : Client) (past : List Event) (id : Nat) (s : Subscribed) (reply : InitialReply) :
    Prop where
  last : lastReply id past = some (s.generation, reply)
  suits : ∃ body, InitialReply.decode s.topic body = .ok reply
  route : c.routes.find? id =
    some ⟨s.topic, if c.isCurrent s.generation then some (bindingOf reply) else none⟩

theorem exists_decode {topic : Topic} {f : Frame} {reply : InitialReply}
    (h : answerTo topic f = .ok reply) : ∃ body, InitialReply.decode topic body = .ok reply := by
  unfold answerTo at h
  cases ha : answerOf f with
  | error e =>
    rw [ha] at h
    cases h
  | ok body =>
    rw [ha] at h
    exact ⟨body, h⟩

theorem traced_bound (h : Traced config c past) {id : Nat} {s : Subscribed}
    (hs : c.registry.find? id = some s) : ∃ reply, Bound c past id s reply := by
  induction h generalizing s with
  | start => cases hs
  | skip _ ih =>
    obtain ⟨reply, hb⟩ := ih hs
    exact ⟨reply, hb.last, hb.suits, hb.route⟩
  | @refuse c past g n _ ih =>
    obtain ⟨reply, hb⟩ := ih hs
    exact ⟨reply, hb.last, hb.suits, by rw [isCurrent_refuse]; exact hb.route⟩
  | @next c past e after ht hn ih =>
    have keep : ∀ {after : Client} {e}, after.routes.find? id = c.routes.find? id →
        (∀ g, after.isCurrent g = c.isCurrent g) → confirmed? id past e = none →
        c.registry.find? id = some s → ∃ reply, Bound after (e :: past) id s reply := by
      intro after e hr hg he hs
      obtain ⟨reply, hb⟩ := ih hs
      exact ⟨reply, by rw [lastReply_cons_of_none he]; exact hb.last, hb.suits, by
        rw [hr, hg]; exact hb.route⟩
    have erased : ∀ {k e} {after : Client}, after.routes = c.routes.erase k →
        (c.registry.erase k).find? id = some s → (∀ g, after.isCurrent g = c.isCurrent g) →
        (id ≠ k → confirmed? id past e = none) → ∃ reply, Bound after (e :: past) id s reply := by
      intro k e after hr hs hg he
      rw [Table.find?_erase] at hs
      split at hs
      next => cases hs
      next hk => exact keep (by rw [hr, Table.find?_erase, if_neg hk]) hg (he hk) hs
    cases hn with
    | lost hl =>
      obtain ⟨reply, hb⟩ := ih hs
      refine ⟨reply, ?_, hb.suits, ?_⟩
      · rw [lastReply_cons_of_none rfl]
        exact hb.last
      · rw [Table.find?_map, hb.route]
        rfl
    | opened hc hl =>
      obtain ⟨reply, hb⟩ := ih hs
      have old := (traced_made ht hs).2
      have before : c.isCurrent s.generation = false := by simp [isCurrent, hl]
      refine ⟨reply, ?_, hb.suits, ?_⟩
      · rw [lastReply_cons_of_none rfl]
        exact hb.last
      · have new : c.generation + 1 ≠ s.generation := by omega
        have hr := hb.route
        rw [before] at hr
        simpa [isCurrent, new] using hr
    | shut hc => cases hs
    | subscribed hsend | requested hsend | replayed hsend =>
      exact keep rfl (fun g => by simp [isCurrent, sentOn, hsend.current, ActiveLink.spend]) rfl hs
    | greeted hl hr => exact keep rfl (fun g => by simp [isCurrent, Client.greeted, hl]) rfl hs
    | unsent | unsubscribed | dropped | abandoned | denied =>
      exact erased rfl hs (fun _ => rfl) fun _ => rfl
    | late hl hp hq | failed hl hp hq =>
      refine erased rfl hs (fun _ => rfl) fun hk => ?_
      rw [confirmed?_answer ht hl hp (by rw [hq]; rfl), if_neg (Ne.symm hk)]
    | stray hl hp => exact keep rfl (fun _ => rfl) (confirmed?_stray ht hl hp) hs
    | replied hl hp call fails =>
      refine keep rfl (fun _ => rfl) (confirmed?_failure ht hl hp fun k topic ho => ?_) hs
      rcases Purpose.eq_of_subscription ho with hq | hq
      · exact fails k topic hq
      · simp [hq, Purpose.isCall] at call
    | lapsed hl hp hq gone =>
      refine keep rfl (fun _ => rfl) ?_ hs
      rw [confirmed?_answer ht hl hp (by rw [hq]; rfl), if_neg]
      rintro rfl
      simp [Table.contains, hs] at gone
    | @granted link f p k topic reply hl hp hq ha there =>
      rw [Table.find?_insert] at hs
      have told := @confirmed?_answer config c past link f p id ht hl hp k topic (by rw [hq]; rfl)
      by_cases hk : id = k
      · subst hk
        rw [if_pos rfl] at hs
        cases hs
        rw [if_pos rfl, ha] at told
        refine ⟨reply, lastReply_cons_of_some told, exists_decode ha, ?_⟩
        rw [Table.find?_insert, if_pos rfl]
        simp [isCurrent, hl]
      · rw [if_neg hk] at hs
        rw [if_neg (Ne.symm hk)] at told
        exact keep (by rw [Table.find?_insert, if_neg hk]) (fun _ => rfl) told hs
    | @restored link f p k topic reply hl hp hq there ha =>
      rw [Table.find?_adjust] at hs
      have told := @confirmed?_answer config c past link f p id ht hl hp k topic (by rw [hq]; rfl)
      by_cases hk : id = k
      · subst hk
        rw [if_pos rfl] at hs
        obtain ⟨old, ho, rfl⟩ := Option.map_eq_some_iff.mp hs
        rw [if_pos rfl, ha] at told
        obtain ⟨reply', hb⟩ := ih ho
        refine ⟨reply, lastReply_cons_of_some told, ?_, ?_⟩
        · have hm := waiting_subset_requests ((traced_waiting ht).mp hp).1
          rw [traced_replay_topic ht hm hq ho]
          exact exists_decode ha
        · rw [Table.find?_adjust, if_pos rfl, hb.route]
          simp [isCurrent, hl]
      · rw [if_neg hk] at hs
        rw [if_neg (Ne.symm hk)] at told
        exact keep (by rw [Table.find?_adjust, if_neg hk]) (fun _ => rfl) told hs
    | pushed hl he =>
      refine keep ?_ (fun _ => rfl) rfl hs
      simp only [route, Table.find?_filter]
      cases c.routes.find? id with
      | none => rfl
      | some r => simp [Option.filter, traced_handled ht hs]
    | _ => exact keep rfl (fun _ => rfl) rfl hs

/-- A stream is interrupted as long as its route is unbound. -/
theorem traced_unbound (h : Traced config c past) {id : Nat} {r : Route} {handle : Handle}
    (hr : c.routes.find? id = some r) (hh : c.handles.find? id = some handle) :
    handle.interrupted = r.binding.isNone := by
  induction h generalizing r handle with
  | start => cases hr
  | skip _ ih => exact ih hr hh
  | refuse _ _ _ ih => exact ih hr hh
  | @next c past e after ht hn ih =>
    have adjusted : ∀ {k : Nat} {f : Handle → Handle}, c.routes.find? id = some r →
        (c.handles.adjust k f).find? id = some handle →
        (id = k → ∀ h, (f h).interrupted = h.interrupted) → handle.interrupted = r.binding.isNone := by
      intro k f hr hh keeps
      rw [Table.find?_adjust] at hh
      split at hh
      next he =>
        obtain ⟨old, ho, rfl⟩ := Option.map_eq_some_iff.mp hh
        rw [keeps he]
        exact ih hr ho
      next => exact ih hr hh
    have erased : ∀ {k : Nat}, (c.routes.erase k).find? id = some r →
        c.routes.find? id = some r ∧ id ≠ k := by
      intro k hr
      rw [Table.find?_erase] at hr
      split at hr
      next => cases hr
      next hne => exact ⟨hr, hne⟩
    cases hn with
    | lost hl =>
      rw [Table.find?_map] at hr hh
      obtain ⟨old, ho, rfl⟩ := Option.map_eq_some_iff.mp hr
      obtain ⟨before, -, rfl⟩ := Option.map_eq_some_iff.mp hh
      simp [Table.contains, ho]
    | shut hc => cases hr
    | subscribed hsend =>
      obtain ⟨s, hs, -⟩ := exists_registered ht hr
      obtain ⟨p, hp, hq⟩ := traced_registered_request ht hs
      have below := traced_id_lt ht hp hq
      rw [Table.find?_insert, if_neg (by omega)] at hh
      exact ih hr hh
    | unsent | failed =>
      obtain ⟨hr, hne⟩ := erased hr
      split at hh
      next => exact adjusted hr hh fun he => absurd he hne
      next => exact ih hr hh
    | late | unsubscribed => exact ih (erased hr).1 hh
    | abandoned | denied | dropped =>
      obtain ⟨hr, hne⟩ := erased hr
      simp only [release, detach, Table.find?_erase, if_neg hne] at hh
      exact ih hr hh
    | granted hl hp hq ha there =>
      rw [Table.find?_insert] at hr
      split at hr
      next hk =>
        cases hr
        rw [Table.find?_adjust, if_pos hk] at hh
        obtain ⟨old, -, rfl⟩ := Option.map_eq_some_iff.mp hh
        rfl
      next hk => exact adjusted hr hh fun he => absurd he hk
    | restored hl hp hq there ha =>
      rw [Table.find?_adjust] at hr
      split at hr
      next hk =>
        subst hk
        obtain ⟨old, ho, rfl⟩ := Option.map_eq_some_iff.mp hr
        rw [if_pos (by rw [Table.contains, ho]; rfl), Table.find?_adjust, if_pos rfl] at hh
        obtain ⟨before, -, rfl⟩ := Option.map_eq_some_iff.mp hh
        rfl
      next hk =>
        split at hh
        next => exact adjusted hr hh fun he => absurd he hk
        next => exact ih hr hh
    | pushed hl he =>
      simp only [route, Table.find?_map, Table.find?_filter] at hr hh
      obtain ⟨old, ho, rfl⟩ := Option.map_eq_some_iff.mp hh
      rw [← ih (Option.filter_eq_some_iff.mp hr).1 ho]
      split <;> rfl
    | handed | received => exact adjusted hr hh fun _ _ => rfl
    | _ => exact ih hr hh

theorem traced_interrupted (h : Traced config c past) {id : Nat} {s : Subscribed} {handle : Handle}
    (hs : c.registry.find? id = some s) (hh : c.handles.find? id = some handle) :
    handle.interrupted = !c.isCurrent s.generation := by
  obtain ⟨reply, hb⟩ := traced_bound h hs
  rw [traced_unbound h hb.route hh]
  cases c.isCurrent s.generation <;> rfl

end Client

end Telemux
