import Mathlib.Data.List.Nodup
import Telemux.Proofs.Origins
import Telemux.Proofs.Traced

namespace Telemux.Client

/-- The requests that went out, latest first. -/
def requests (past : List Event) : List (Pending Purpose) :=
  past.filterMap fun
    | .sent p _ => some p
    | _ => none

theorem mem_requests {past : List Event} {p : Pending Purpose} :
    p ∈ requests past ↔ ∃ body, .sent p body ∈ past := by
  unfold requests
  rw [List.mem_filterMap]
  constructor
  · rintro ⟨e, he, hp⟩
    cases e with
    | sent q body =>
      cases hp
      exact ⟨body, he⟩
    | _ => cases hp
  · rintro ⟨body, hb⟩
    exact ⟨_, hb, rfl⟩

theorem requests_append (later earlier : List Event) :
    requests (later ++ earlier) = requests later ++ requests earlier :=
  List.filterMap_append

theorem mem_requests_cons {past : List Event} {p : Pending Purpose} (e : Event)
    (h : p ∈ requests past) : p ∈ requests (e :: past) := by
  obtain ⟨body, hb⟩ := mem_requests.mp h
  exact mem_requests.mpr ⟨body, List.mem_cons_of_mem _ hb⟩

theorem mem_requests_append {earlier : List Event} {p : Pending Purpose} (later : List Event)
    (h : p ∈ requests earlier) : p ∈ requests (later ++ earlier) := by
  rw [requests_append]
  exact List.mem_append_right _ h

theorem waiting_subset_requests {past : List Event} {p : Pending Purpose} (h : p ∈ waiting past) :
    p ∈ requests past := by
  induction past with
  | nil => cases h
  | cons e past ih =>
    cases e with
    | sent q body =>
      rcases List.mem_cons.mp h with rfl | h
      · exact List.mem_cons_self
      · exact List.mem_cons_of_mem _ (ih h)
    | terminal | lost => exact ih (List.mem_filter.mp h).1
    | shut => cases h
    | _ => exact ih h

theorem not_waiting_of_answered {past : List Event} {g : Nat} {f : Frame} {p : Pending Purpose}
    (h : answered past g f = some p) : p ∉ waiting (.terminal g f :: past) := by
  have fits : p.generation = g ∧ p.sequence = f.sequence := by simpa using List.find?_some h
  intro hw
  have other := (List.mem_filter.mp hw).2
  simp [fits] at other

variable {config : FrameConfig} {c : Client} {past : List Event}

theorem traced_waiting_link (h : Traced config c past) {p : Pending Purpose} (hp : p ∈ waiting past) :
    ∃ link, c.link = some link ∧ p.generation = link.generation := by
  induction h with
  | start => cases hp
  | skip _ ih => exact ih hp
  | refuse g n _ ih =>
    obtain ⟨link, hl, hg⟩ := ih hp
    refine ⟨if link.generation = g then link.limit n else link, by simp [Client.refuse, hl], ?_⟩
    by_cases he : link.generation = g <;> simpa [he, ActiveLink.limit] using hg
  | @next c past e after ht hn ih =>
    cases hn with
    | @lost link hl =>
      obtain ⟨hw, hne⟩ := List.mem_filter.mp hp
      obtain ⟨old, ho, hg⟩ := ih hw
      cases hl.symm.trans ho
      simp [hg] at hne
    | opened hc hl =>
      obtain ⟨old, ho, -⟩ := ih hp
      simp [hl] at ho
    | shut hc => cases hp
    | subscribed hs | requested hs | replayed hs =>
      rcases List.mem_cons.mp hp with rfl | hp
      · exact ⟨_, rfl, rfl⟩
      · obtain ⟨old, ho, hg⟩ := ih hp
        cases hs.current.symm.trans ho
        exact ⟨_, rfl, hg⟩
    | greeted hl hr =>
      obtain ⟨old, ho, hg⟩ := ih hp
      cases hl.symm.trans ho
      exact ⟨_, rfl, hg⟩
    | stray | replied | granted | late | lapsed | failed | restored =>
      exact ih (List.mem_filter.mp hp).1
    | _ => exact ih hp

theorem traced_sequence_lt (h : Traced config c past) {p : Pending Purpose}
    (hp : p ∈ requests past) : p.sequence < c.correlator.next := by
  induction h with
  | start => cases hp
  | skip _ ih => exact ih hp
  | refuse _ _ _ ih => exact ih hp
  | next ht hn ih =>
    cases hn with
    | subscribed hs | requested hs | replayed hs =>
      rcases List.mem_cons.mp hp with rfl | hp
      · exact Nat.lt_succ_self _
      · exact Nat.lt_succ_of_lt (ih hp)
    | _ => exact ih hp

theorem traced_sequences (h : Traced config c past) :
    (requests past).Pairwise fun p q => q.sequence < p.sequence := by
  induction h with
  | start => exact .nil
  | skip _ ih => exact ih
  | refuse _ _ _ ih => exact ih
  | next ht hn ih =>
    cases hn with
    | subscribed hs | requested hs | replayed hs =>
      exact List.pairwise_cons.mpr ⟨fun q hq => traced_sequence_lt ht hq, ih⟩
    | _ => exact ih

theorem eq_of_sequence (h : Traced config c past) {p q : Pending Purpose} (hp : p ∈ requests past)
    (hq : q ∈ requests past) (he : p.sequence = q.sequence) : p = q :=
  List.inj_on_of_nodup_map (List.pairwise_map.mpr ((traced_sequences h).imp Nat.ne_of_gt)) hp hq he

/-- The client waits for exactly the requests that nothing has settled. -/
theorem traced_waiting (h : Traced config c past) {s : Nat} {p : Pending Purpose} :
    c.correlator.pending.find? s = some p ↔ p ∈ waiting past ∧ p.sequence = s := by
  induction h generalizing s p with
  | start => simp [Client.fresh, waiting]
  | skip _ ih => exact ih
  | refuse _ _ _ ih => exact ih
  | @next c past e after ht hn ih =>
    have same : ∀ link, c.link = some link → ∀ q ∈ waiting past, q.generation = link.generation := by
      intro link hl q hq
      obtain ⟨old, ho, hg⟩ := traced_waiting_link ht hq
      cases hl.symm.trans ho
      exact hg
    -- A terminal frame takes away what waits under its sequence.
    have take : ∀ link f, c.link = some link →
        ((c.correlator.without f.sequence).pending.find? s = some p ↔
          p ∈ waiting (.terminal link.generation f :: past) ∧ p.sequence = s) := by
      intro link f hl
      rw [Correlator.find?_without, waiting, List.mem_filter]
      by_cases hs : s = f.sequence
      · have : ∀ hp : p ∈ waiting past, p.generation = link.generation := same link hl p
        simp only [hs, if_true, reduceCtorEq, decide_eq_true_eq, false_iff]
        rintro ⟨⟨hp, hno⟩, he⟩
        exact hno ⟨this hp, he⟩
      · simp only [hs, if_false, ih, decide_eq_true_eq]
        constructor
        · rintro ⟨hp, he⟩
          exact ⟨⟨hp, fun hb => hs (he.symm.trans hb.2)⟩, he⟩
        · rintro ⟨⟨hp, -⟩, he⟩
          exact ⟨hp, he⟩
    have fresh : ∀ (q : Pending Purpose) (body : RequestBody), q.sequence = c.correlator.next →
        ((if s = c.correlator.next then some q else c.correlator.pending.find? s) = some p ↔
          p ∈ waiting (.sent q body :: past) ∧ p.sequence = s) := by
      intro q body hq
      rw [waiting, List.mem_cons]
      by_cases hs : s = c.correlator.next
      · simp only [hs, if_true, Option.some.injEq]
        constructor
        · rintro rfl
          exact ⟨Or.inl rfl, hq⟩
        · rintro ⟨rfl | hp, he⟩
          · rfl
          · have := traced_sequence_lt ht (waiting_subset_requests hp)
            omega
      · simp only [hs, if_false, ih]
        constructor
        · rintro ⟨hp, he⟩
          exact ⟨Or.inr hp, he⟩
        · rintro ⟨rfl | hp, he⟩
          · omega
          · exact ⟨hp, he⟩
    cases hn with
    | @lost link hl =>
      have drained : c.correlator.pending.filter (fun _ p => link.generation < p.generation) = .empty := by
        refine Table.ext_find? fun k => ?_
        rw [Table.find?_filter, Table.find?_empty]
        cases hk : c.correlator.pending.find? k with
        | none => rfl
        | some q => simp [same link hl q (ih.mp hk).1]
      have empty : ¬ p ∈ waiting (.lost link.generation :: past) := by
        rw [waiting, List.mem_filter]
        rintro ⟨hp, hne⟩
        simp [same link hl p hp] at hne
      simp [Correlator.drain, drained, empty]
    | shut hc => simp [waiting]
    | subscribed hs | requested hs | replayed hs =>
      simp only [sentOn, Correlator.find?_register]
      exact fresh _ _ rfl
    | @stray link f hl hp =>
      have same : c.correlator.pending.find? s =
          (c.correlator.without f.sequence).pending.find? s := by
        rw [Correlator.find?_without]
        by_cases hs : s = f.sequence <;> simp [hs, hp]
      rw [same]
      exact take link f hl
    | replied hl | granted hl | late hl | lapsed hl | failed hl | restored hl => exact take _ _ hl
    | _ => exact ih

theorem traced_answered (h : Traced config c past) {link : ActiveLink} (hl : c.link = some link)
    (f : Frame) : answered past link.generation f = c.correlator.pending.find? f.sequence := by
  refine Option.ext fun p => ?_
  rw [traced_waiting h]
  constructor
  · intro hp
    have hm := List.mem_of_find?_eq_some hp
    have he := List.find?_some hp
    simp only [decide_eq_true_eq] at he
    exact ⟨hm, he.2⟩
  · rintro ⟨hm, he⟩
    have there : (answered past link.generation f).isSome = true := by
      obtain ⟨old, ho, hg⟩ := traced_waiting_link h hm
      cases hl.symm.trans ho
      rw [answered, List.find?_isSome]
      exact ⟨p, hm, by simp [hg, he]⟩
    obtain ⟨q, hq⟩ := Option.isSome_iff_exists.mp there
    have hqm := List.mem_of_find?_eq_some hq
    have hqe := List.find?_some hq
    simp only [decide_eq_true_eq] at hqe
    rw [hq, eq_of_sequence h (waiting_subset_requests hqm) (waiting_subset_requests hm)
      (hqe.2.trans he.symm)]

end Telemux.Client
