import Telemux.Proofs.Calls

namespace Telemux

theorem Purpose.eq_subscribe_of_handle {p : Purpose} {id : Nat} (h : p.handle? = some id) :
    ∃ topic, p = .subscribe id topic := by
  cases p with
  | subscribe i topic =>
    cases h
    exact ⟨topic, rfl⟩
  | _ => cases h

namespace Client

variable {config : FrameConfig} {c : Client} {past : List Event}

theorem traced_id_lt (h : Traced config c past) {p : Pending Purpose} {id : Nat} {topic : Topic}
    (hp : p ∈ requests past) (hq : p.purpose = .subscribe id topic) : id < c.nextId := by
  induction h with
  | start => cases hp
  | skip _ ih => exact Nat.lt_succ_of_lt (ih hp)
  | refuse _ _ _ ih => exact ih hp
  | next ht hn ih =>
    cases hn with
    | subscribed hs =>
      rcases List.mem_cons.mp hp with rfl | hp
      · cases hq
        exact Nat.lt_succ_self _
      · exact Nat.lt_succ_of_lt (ih hp)
    | requested hs | replayed hs =>
      rcases List.mem_cons.mp hp with rfl | hp
      · cases hq
      · exact ih hp
    | _ => exact ih hp

theorem eq_of_subscribe (h : Traced config c past) {p q : Pending Purpose} {id : Nat} {t u : Topic}
    (hp : p ∈ requests past) (hq : q ∈ requests past) (ht : p.purpose = .subscribe id t)
    (hu : q.purpose = .subscribe id u) : p = q := by
  induction h with
  | start => cases hp
  | skip _ ih => exact ih hp hq
  | refuse _ _ _ ih => exact ih hp hq
  | next h hn ih =>
    cases hn with
    | subscribed hs =>
      rcases List.mem_cons.mp hp with new | old <;> rcases List.mem_cons.mp hq with new' | old'
      · rw [new, new']
      · rw [new] at ht
        cases ht
        have := traced_id_lt h old' hu
        omega
      · rw [new'] at hu
        cases hu
        have := traced_id_lt h old ht
        omega
      · exact ih old old'
    | requested hs | replayed hs =>
      rcases List.mem_cons.mp hp with rfl | hp
      · cases ht
      · rcases List.mem_cons.mp hq with rfl | hq
        · cases hu
        · exact ih hp hq
    | _ => exact ih hp hq

theorem traced_body (h : Traced config c past) {p : Pending Purpose} {body : RequestBody} {id : Nat}
    {topic : Topic} (hp : .sent p body ∈ past)
    (hq : p.purpose = .subscribe id topic ∨ p.purpose = .replay id topic) :
    body = topic.requestBody := by
  induction h with
  | start => cases hp
  | skip _ ih => exact ih hp
  | refuse _ _ _ ih => exact ih hp
  | next _ hn ih =>
    rcases List.mem_cons.mp hp with rfl | hp
    · cases hn with
      | subscribed hs | replayed hs =>
        rcases hq with hq | hq <;> cases hq
        rfl
      | requested hs => rcases hq with hq | hq <;> cases hq
    · exact ih hp

theorem traced_call_sent (h : Traced config c past) {s : Nat} {call : Call}
    (hc : c.calls.find? s = some call) :
    ∃ p body later earlier, past = later ++ .sent p body :: earlier ∧ p.sequence = s ∧
      p.purpose.isCall = true ∧ departed s later = false ∧
      call = ⟨p.purpose.handle?, (verdict p later).map (outcomeOf p.purpose)⟩ := by
  obtain ⟨p, hp, rfl, hq⟩ := traced_call_request h hc
  obtain ⟨later, body, earlier, hs⟩ := exists_sent_of_mem_requests hp
  have same := (traced_call h hs hq).symm.trans hc
  unfold callOf at same
  split at same
  next => cases same
  next hd => exact ⟨p, body, later, earlier, hs, rfl, hq, by simpa using hd, (Option.some.inj same).symm⟩

theorem eq_of_handle (h : Traced config c past) {s t id : Nat} {call other : Call}
    (hs : c.calls.find? s = some call) (ht : c.calls.find? t = some other)
    (hi : call.handle = some id) (hj : other.handle = some id) : s = t := by
  obtain ⟨p, body, later, earlier, hp, rfl, -, -, rfl⟩ := traced_call_sent h hs
  obtain ⟨q, body', later', earlier', hq, rfl, -, -, rfl⟩ := traced_call_sent h ht
  obtain ⟨topic, ho⟩ := Purpose.eq_subscribe_of_handle hi
  obtain ⟨topic', ho'⟩ := Purpose.eq_subscribe_of_handle hj
  rw [eq_of_subscribe h (mem_requests_of_sent hp) (mem_requests_of_sent hq) ho ho']

/-- How a subscription came to be: the answer to its subscribe call was a success. -/
def Made (past : List Event) (id : Nat) (topic : Topic) (generation : Nat) : Prop :=
  ∃ p later earlier f reply, past = later ++ .sent p topic.requestBody :: earlier ∧
    p.purpose = .subscribe id topic ∧ p.generation ≤ generation ∧
    verdict p later = some (.answered f) ∧ answerTo topic f = .ok reply

theorem Made.cons {id g g' : Nat} {topic : Topic} (h : Made past id topic g) (hg : g ≤ g')
    (e : Event) : Made (e :: past) id topic g' := by
  obtain ⟨p, later, earlier, f, reply, hs, hq, hp, hv, ha⟩ := h
  exact ⟨p, e :: later, earlier, f, reply, by rw [hs]; rfl, hq, Nat.le_trans hp hg,
    verdict_append [e] hv, ha⟩

theorem made_of_answer (h : Traced config c past) {link : ActiveLink} (hl : c.link = some link)
    {f : Frame} {p : Pending Purpose} (hp : c.correlator.pending.find? f.sequence = some p) {id : Nat}
    {topic : Topic} (hq : p.purpose = .subscribe id topic) {reply : InitialReply}
    (ha : answerTo topic f = .ok reply) :
    Made (.terminal link.generation f :: past) id topic link.generation := by
  obtain ⟨hw, hf⟩ := (traced_waiting h).mp hp
  obtain ⟨later, body, earlier, hsent⟩ := exists_sent_of_mem_requests (waiting_subset_requests hw)
  have hbody := traced_body h (hsent ▸ List.mem_append_right _ List.mem_cons_self) (Or.inl hq)
  subst hbody
  obtain ⟨link', hl', hg⟩ := traced_waiting_link h hw
  cases hl.symm.trans hl'
  have hv := (traced_mem_waiting h hsent).mp hw
  refine ⟨p, _ :: later, earlier, f, reply, by rw [hsent]; rfl, hq, Nat.le_of_eq hg, ?_, ha⟩
  rw [verdict_cons, hv]
  simp [settles, hg, hf]

/-- What is registered was made by a subscribe call, and confirmed since on no later link than the
one in use. -/
theorem traced_made (h : Traced config c past) {id : Nat} {s : Subscribed}
    (hs : c.registry.find? id = some s) :
    Made past id s.topic s.generation ∧ s.generation ≤ c.generation := by
  induction h generalizing s with
  | start => cases hs
  | skip _ ih => exact ih hs
  | refuse _ _ _ ih => exact ih hs
  | @next c past e after ht hn ih =>
    have hlink := (traced_link ht).2
    have grows := (happens_generation ht hn).1
    rcases registry_happens hn hs with
      ⟨old, ho, htopic, -, same⟩ | ⟨link, f, p, reply, hl, rfl, hp, hq, ha, -, hg⟩
    · obtain ⟨made, below⟩ := ih ho
      rcases same with rfl | ⟨link, hl, hg⟩
      · exact ⟨made.cons (Nat.le_refl _) e, Nat.le_trans below grows⟩
      · have newest : s.generation = c.generation := hg.trans (hlink link hl)
        rw [htopic, newest]
        exact ⟨made.cons below e, grows⟩
    · rw [hg]
      exact ⟨made_of_answer ht hl hp hq ha, hlink link hl ▸ grows⟩

theorem traced_registered_request (h : Traced config c past) {id : Nat} {s : Subscribed}
    (hs : c.registry.find? id = some s) : ∃ p ∈ requests past, p.purpose = .subscribe id s.topic := by
  obtain ⟨⟨p, later, earlier, f, reply, hsent, hq, -⟩, -⟩ := traced_made h hs
  exact ⟨p, mem_requests_of_sent hsent, hq⟩

theorem traced_replay_topic (h : Traced config c past) {p : Pending Purpose} {id : Nat} {topic : Topic}
    (hp : p ∈ requests past) (hq : p.purpose = .replay id topic) {s : Subscribed}
    (hs : c.registry.find? id = some s) : s.topic = topic := by
  obtain ⟨q, hm, ho⟩ := traced_registered_request h hs
  obtain ⟨later, body, earlier, rfl⟩ := exists_sent_of_mem_requests hp
  obtain ⟨after, ht⟩ := traced_append h
  obtain ⟨before, _, hb, hn⟩ := traced_cons ht
  cases hn with
  | replayed hsend hr hid hg first =>
    cases hq
    obtain ⟨r, hm', ho'⟩ := traced_registered_request hb hid
    have same := eq_of_subscribe h hm (mem_requests_append later (mem_requests_cons _ hm')) ho ho'
    rw [same, ho'] at ho
    cases ho
    rfl
  | subscribed | requested => cases hq

theorem traced_replays_once (h : Traced config c past) :
    (requests past).Pairwise fun p q => ∀ id t u, p.purpose = .replay id t → q.purpose = .replay id u →
      p.generation ≠ q.generation := by
  induction h with
  | start => exact .nil
  | skip _ ih => exact ih
  | refuse _ _ _ ih => exact ih
  | next ht hn ih =>
    cases hn with
    | replayed hs hr hid hg first =>
      refine List.pairwise_cons.mpr ⟨fun q hq id t u hp ho he => ?_, ih⟩
      cases hp
      obtain ⟨body, hb⟩ := mem_requests.mp hq
      exact first q body u hb ho he.symm
    | subscribed | requested =>
      refine List.pairwise_cons.mpr ⟨fun q _ id t u hp => ?_, ih⟩
      cases hp
    | _ => exact ih

theorem traced_replay_later (h : Traced config c past) {p q : Pending Purpose} {id : Nat} {t u : Topic}
    (hp : p ∈ requests past) (hq : q ∈ requests past) (ho : p.purpose = .subscribe id t)
    (hr : q.purpose = .replay id u) : p.generation < q.generation := by
  obtain ⟨later, body, earlier, rfl⟩ := exists_sent_of_mem_requests hq
  obtain ⟨after, ht⟩ := traced_append h
  obtain ⟨before, _, hb, hn⟩ := traced_cons ht
  cases hn with
  | replayed hs _ hid hg first =>
    cases hr
    obtain ⟨⟨r, since, older, f, reply, hsent, hro, hle, -⟩, -⟩ := traced_made hb hid
    have hm := mem_requests_of_sent hsent
    rw [eq_of_subscribe h hp (mem_requests_append later (mem_requests_cons _ hm)) ho hro]
    exact Nat.lt_of_le_of_lt hle hg
  | subscribed | requested => cases hr

theorem traced_unmade (h : Traced config c past) {p : Pending Purpose} {id : Nat} {topic : Topic}
    (hp : p ∈ waiting past) (hq : p.purpose = .subscribe id topic) :
    c.registry.find? id = none := by
  refine Option.eq_none_iff_forall_ne_some.mpr fun s hs => ?_
  obtain ⟨⟨q, later, earlier, f, reply, hsent, ho, -, hv, -⟩, -⟩ := traced_made h hs
  have same := eq_of_subscribe h (mem_requests_of_sent hsent) (waiting_subset_requests hp) ho hq
  subst same
  rw [(traced_mem_waiting h hsent).mp hp] at hv
  cases hv

theorem traced_denied (h : Traced config c past) {s id : Nat} {e : ClientError}
    (hc : c.calls.find? s = some ⟨some id, some (.error e)⟩) : c.registry.find? id = none := by
  refine Option.eq_none_iff_forall_ne_some.mpr fun sub hs => ?_
  obtain ⟨⟨q, later, earlier, f, reply, hsent, ho, -, hv, ha⟩, -⟩ := traced_made h hs
  obtain ⟨p, body, later', earlier', hp, rfl, hq, -, hcall⟩ := traced_call_sent h hc
  obtain ⟨hi, hout⟩ := Call.mk.inj hcall
  obtain ⟨topic, hpo⟩ := Purpose.eq_subscribe_of_handle hi.symm
  have same := eq_of_subscribe h (mem_requests_of_sent hp) (mem_requests_of_sent hsent) hpo ho
  subst same
  have hcall' := traced_call h hsent hq
  rw [hc, callOf] at hcall'
  split at hcall'
  next => cases hcall'
  next => simp [hv, ho, outcomeOf, ha, Except.map] at hcall'

end Client

end Telemux
