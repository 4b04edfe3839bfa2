import Telemux.Proofs.Waiting

namespace Telemux.Client

theorem mem_requests_of_sent {past later earlier : List Event} {p : Pending Purpose}
    {body : RequestBody} (hs : past = later ++ .sent p body :: earlier) : p ∈ requests past :=
  mem_requests.mpr ⟨body, hs ▸ List.mem_append_right _ List.mem_cons_self⟩

/-- What one event means for a request that waits. -/
def settles (p : Pending Purpose) : Event → Option Verdict
  | .terminal generation f =>
    if generation = p.generation ∧ f.sequence = p.sequence then some (.answered f) else none
  | .lost generation => if generation = p.generation then some .lost else none
  | .shut => some .shut
  | _ => none

/-- What settled a request first, among what has happened since it went out. -/
def verdict (p : Pending Purpose) (since : List Event) : Option Verdict :=
  since.reverse.findSome? (settles p)

@[simp] theorem verdict_nil (p : Pending Purpose) : verdict p [] = none := rfl

theorem verdict_cons (p : Pending Purpose) (e : Event) (since : List Event) :
    verdict p (e :: since) = (verdict p since).or (settles p e) := by
  simp [verdict, List.findSome?_append]

theorem verdict_append {p : Pending Purpose} {since : List Event} {v : Verdict} (newer : List Event)
    (h : verdict p since = some v) : verdict p (newer ++ since) = some v := by
  induction newer with
  | nil => exact h
  | cons e newer ih =>
    rw [List.cons_append, verdict_cons, ih]
    rfl

/-- Whether the caller has left, or has fetched the outcome. -/
def departed (sequence : Nat) (since : List Event) : Bool :=
  since.any fun
    | .cancelled s => s = sequence
    | .fetched s _ => s = sequence
    | _ => false

/-- The call behind a request, by what has happened since the request went out. -/
def callOf (p : Pending Purpose) (since : List Event) : Option Call :=
  if departed p.sequence since then none
  else some ⟨p.purpose.handle?, (verdict p since).map (outcomeOf p.purpose)⟩

theorem mem_waiting_iff {p : Pending Purpose} {body : RequestBody} {later earlier : List Event}
    (once : p ∉ requests later) :
    p ∈ waiting (later ++ .sent p body :: earlier) ↔ verdict p later = none := by
  induction later with
  | nil => simp [waiting]
  | cons e later ih =>
    rw [verdict_cons, Option.or_eq_none_iff]
    cases e with
    | sent q body =>
      obtain ⟨hne, once⟩ := not_or.mp (mt List.mem_cons.mpr once)
      simp [waiting, settles, hne, ih once]
    | terminal g f =>
      rw [← ih once, List.cons_append, waiting, List.mem_filter]
      by_cases h : g = p.generation ∧ f.sequence = p.sequence
      · simp [settles, h]
      · have hne : ¬(p.generation = g ∧ p.sequence = f.sequence) := fun hb => h ⟨hb.1.symm, hb.2.symm⟩
        simp [settles, h, hne]
    | lost g =>
      rw [← ih once, List.cons_append, waiting, List.mem_filter]
      by_cases h : g = p.generation
      · simp [settles, h]
      · simp [settles, h, Ne.symm h]
    | shut => simp [waiting, settles]
    | _ =>
      have := ih once
      simpa [waiting, settles] using this

variable {config : FrameConfig} {c : Client} {past : List Event}

theorem not_mem_requests_later (h : Traced config c past) {p : Pending Purpose} {body : RequestBody}
    {later earlier : List Event} (hs : past = later ++ .sent p body :: earlier) :
    p ∉ requests later := by
  intro hp
  have sorted := traced_sequences h
  rw [hs, requests_append] at sorted
  have := (List.pairwise_append.mp sorted).2.2 p hp p List.mem_cons_self
  omega

theorem traced_mem_waiting (h : Traced config c past) {p : Pending Purpose} {body : RequestBody}
    {later earlier : List Event} (hs : past = later ++ .sent p body :: earlier) :
    p ∈ waiting past ↔ verdict p later = none := by
  have once := not_mem_requests_later h hs
  rw [hs]
  exact mem_waiting_iff once

/-- A drain that takes all that waits fails exactly the calls that nothing has settled yet. -/
theorem any_drained_iff (h : Traced config c past) {p : Pending Purpose} {body : RequestBody}
    {later earlier : List Event} (hs : past = later ++ .sent p body :: earlier)
    (hq : p.purpose.isCall = true) {ps : List (Pending Purpose)} (all : ∀ q, q ∈ ps ↔ q ∈ waiting past) :
    (ps.any fun q => q.purpose.isCall && q.sequence = p.sequence) = true ↔
      verdict p later = none := by
  rw [← traced_mem_waiting h hs, List.any_eq_true]
  constructor
  · rintro ⟨q, hm, he⟩
    simp only [Bool.and_eq_true, decide_eq_true_eq] at he
    have hw := (all q).mp hm
    rwa [← eq_of_sequence h (waiting_subset_requests hw) (mem_requests_of_sent hs) he.2]
  · intro hw
    exact ⟨p, (all p).mpr hw, by simp [hq]⟩

theorem mem_upTo_iff_waiting (h : Traced config c past) {link : ActiveLink} (hl : c.link = some link)
    (q : Pending Purpose) : q ∈ c.correlator.upTo link.generation ↔ q ∈ waiting past := by
  rw [Correlator.mem_upTo]
  constructor
  · rintro ⟨⟨s, hq⟩, -⟩
    exact ((traced_waiting h).mp hq).1
  · intro hq
    obtain ⟨old, ho, hg⟩ := traced_waiting_link h hq
    cases hl.symm.trans ho
    exact ⟨⟨q.sequence, (traced_waiting h).mpr ⟨hq, rfl⟩⟩, Nat.le_of_eq hg⟩

theorem mem_pending_iff_waiting (h : Traced config c past) (q : Pending Purpose) :
    q ∈ c.correlator.pending.entries.map Prod.snd ↔ q ∈ waiting past := by
  rw [List.mem_map]
  constructor
  · rintro ⟨⟨s, r⟩, hr, rfl⟩
    exact ((traced_waiting h).mp (Table.mem_entries_iff.mp hr)).1
  · intro hq
    exact ⟨(q.sequence, q), Table.mem_entries_iff.mpr ((traced_waiting h).mpr ⟨hq, rfl⟩), rfl⟩

/-- A terminal frame takes away the request that waits under its sequence, whatever the frame says. -/
theorem correlator_of_terminal {g : Nat} {f : Frame} {after : Client}
    (hn : Happens past c (.terminal g f) after) :
    after.correlator = c.correlator.without f.sequence := by
  cases hn with
  | stray hl free => exact (Correlator.without_of_absent free).symm
  | _ => rfl

/-- A terminal frame reaches the call whose request waits under its sequence, and no other. -/
theorem find?_calls_of_terminal {g s : Nat} {f : Frame} {after : Client}
    (hn : Happens past c (.terminal g f) after) (h : Traced config c past) :
    after.calls.find? s =
      match c.correlator.pending.find? f.sequence with
      | some q =>
        if s = f.sequence ∧ q.purpose.isCall = true then
          (c.calls.find? s).map fun call =>
            { call with outcome := some (outcomeOf q.purpose (.answered f)) }
        else c.calls.find? s
      | none => c.calls.find? s := by
  have key : ∀ q, c.correlator.pending.find? f.sequence = some q → q.sequence = f.sequence :=
    fun q hq => ((traced_waiting h).mp hq).2
  cases hn with
  | stray hl hp => rw [hp]
  | replied hl hp call fails =>
    rw [hp]
    simp only [Table.find?_adjust, key _ hp, call, and_true]
  | granted hl hp hq ha there =>
    rw [hp]
    simp [Table.find?_adjust, key _ hp, hq, ha, outcomeOf, Purpose.isCall, Except.map]
  | late hl hp hq ha gone =>
    rw [hp]
    rw [key _ hp] at gone
    have absent : c.calls.find? f.sequence = none := by simpa [Table.contains] using gone
    by_cases hs : s = f.sequence <;> simp [hs, absent]
  | lapsed hl hp hq | failed hl hp hq | restored hl hp hq =>
    rw [hp]
    simp [hq, Purpose.isCall]

theorem departed_cons {sequence : Nat} {e : Event} (since : List Event)
    (hd : departed sequence [e] = false) :
    departed sequence (e :: since) = departed sequence since := by
  simp only [departed, List.any_cons, List.any_nil, Bool.or_false] at hd ⊢
  rw [hd, Bool.false_or]

theorem callOf_cons {p : Pending Purpose} {e : Event} {since : List Event}
    (hv : verdict p since = none → settles p e = none) (hd : departed p.sequence [e] = false) :
    callOf p (e :: since) = callOf p since := by
  have same : (verdict p since).or (settles p e) = verdict p since := by
    cases h : verdict p since with
    | none => simpa using hv h
    | some v => rfl
  simp only [callOf, verdict_cons, departed_cons since hd, same]

theorem callOf_settled {p : Pending Purpose} {e : Event} {since : List Event} {v : Verdict}
    (hs : settles p e = some v) (hv : verdict p since = none) (hd : departed p.sequence [e] = false) :
    callOf p (e :: since) =
      (callOf p since).map fun call => { call with outcome := some (outcomeOf p.purpose v) } := by
  cases ht : departed p.sequence since <;>
    simp [callOf, verdict_cons, departed_cons since hd, hs, hv, ht]

section

variable {p : Pending Purpose} {body : RequestBody} {later earlier : List Event} {e : Event}

theorem find?_failCalls_of_call (h : Traced config c past) (hs : past = later ++ .sent p body :: earlier)
    (hq : p.purpose.isCall = true) (old : c.calls.find? p.sequence = callOf p later)
    {v : Verdict} {err : ClientError} {ps : List (Pending Purpose)}
    (all : ∀ q, q ∈ ps ↔ q ∈ waiting past)
    (hv : verdict p later = none → settles p e = some v) (ho : outcomeOf p.purpose v = .error err)
    (hd : departed p.sequence [e] = false) :
    (failCalls c.calls err ps).find? p.sequence = callOf p (e :: later) := by
  rw [find?_failCalls, old]
  cases hw : verdict p later with
  | none =>
    simp only [(any_drained_iff h hs hq all).mpr hw, if_true]
    rw [callOf_settled (hv hw) hw hd, ho]
  | some w =>
    have no : (ps.any fun q => q.purpose.isCall && q.sequence = p.sequence) = false := by
      rw [← Bool.not_eq_true, any_drained_iff h hs hq all, hw]
      simp
    simp only [no, Bool.false_eq_true, if_false, Option.map_id']
    exact (callOf_cons (by simp [hw]) hd).symm

theorem find?_erase_of_call (old : c.calls.find? p.sequence = callOf p later) {s : Nat}
    (hv : settles p e = none) (hd : departed p.sequence [e] = decide (s = p.sequence)) :
    (c.calls.erase s).find? p.sequence = callOf p (e :: later) := by
  rw [Table.find?_erase, old]
  by_cases he : s = p.sequence
  · have gone : departed p.sequence (e :: later) = true := by
      simp only [departed, List.any_cons, List.any_nil, Bool.or_false] at hd ⊢
      rw [hd]
      simp [he]
    simp [callOf, he, gone]
  · rw [if_neg (Ne.symm he)]
    exact (callOf_cons (fun _ => hv) (by simpa [he] using hd)).symm

theorem find?_terminal_of_call (h : Traced config c past) (hs : past = later ++ .sent p body :: earlier)
    (hq : p.purpose.isCall = true) (old : c.calls.find? p.sequence = callOf p later)
    {link : ActiveLink} {f : Frame} {after : Client} (hl : c.link = some link)
    (hn : Happens past c (.terminal link.generation f) after) :
    after.calls.find? p.sequence = callOf p (.terminal link.generation f :: later) := by
  have mem := mem_requests_of_sent hs
  rw [find?_calls_of_terminal hn h, old]
  by_cases hf : f.sequence = p.sequence
  · cases hw : verdict p later with
    | none =>
      have hp := (traced_mem_waiting h hs).mpr hw
      obtain ⟨link', hl', hg⟩ := traced_waiting_link h hp
      cases hl.symm.trans hl'
      rw [hf, (traced_waiting h).mpr ⟨hp, rfl⟩]
      simp only [hq, and_self, if_true]
      exact (callOf_settled (by simp [settles, hg, hf]) hw rfl).symm
    | some v =>
      have gone : c.correlator.pending.find? f.sequence = none := by
        refine Option.eq_none_iff_forall_ne_some.mpr fun q hp => ?_
        obtain ⟨hm, he⟩ := (traced_waiting h).mp hp
        have := eq_of_sequence h (waiting_subset_requests hm) mem (he.trans hf)
        subst this
        rw [(traced_mem_waiting h hs).mp hm] at hw
        cases hw
      rw [gone]
      exact (callOf_cons (by simp [hw]) rfl).symm
  · rw [callOf_cons (fun _ => by simp [settles, hf]) rfl]
    cases c.correlator.pending.find? f.sequence with
    | none => rfl
    | some q => simp [Ne.symm hf]

/-- A call is what its history makes of it. -/
theorem traced_call (h : Traced config c past) (hs : past = later ++ .sent p body :: earlier)
    (hq : p.purpose.isCall = true) : c.calls.find? p.sequence = callOf p later := by
  induction h generalizing later with
  | start => simp at hs
  | skip _ ih => exact ih hs
  | refuse _ _ _ ih => exact ih hs
  | @next c past e after ht hn ih =>
    cases later with
    | nil =>
      obtain ⟨rfl, rfl⟩ := List.cons.inj hs
      cases hn with
      | subscribed | requested => simp [Table.find?_insert, callOf, departed, Purpose.handle?]
      | replayed => simp [Purpose.isCall] at hq
    | cons first later =>
      obtain ⟨rfl, hrest⟩ := List.cons.inj hs
      have old := ih hrest
      have happened := hn
      cases hn with
      | @lost link hl =>
        refine find?_failCalls_of_call (v := .lost) ht hrest hq old (mem_upTo_iff_waiting ht hl)
          (fun hw => ?_) (by cases p.purpose <;> rfl) rfl
        obtain ⟨link', hl', hg⟩ := traced_waiting_link ht ((traced_mem_waiting ht hrest).mpr hw)
        cases hl.symm.trans hl'
        simp [settles, hg]
      | shut hc =>
        exact find?_failCalls_of_call (v := .shut) ht hrest hq old (mem_pending_iff_waiting ht)
          (fun _ => rfl) (by cases p.purpose <;> rfl) rfl
      | subscribed | requested =>
        have below := traced_sequence_lt ht (mem_requests_of_sent hrest)
        rw [callOf_cons (fun _ => rfl) rfl, ← old]
        simp only [Table.find?_insert]
        exact if_neg (by omega)
      | cancelled | abandoned | returned | handed | denied =>
        exact find?_erase_of_call old rfl (by simp [departed])
      | stray hl | replied hl | granted hl | late hl | lapsed hl | failed hl | restored hl =>
        exact find?_terminal_of_call ht hrest hq old hl happened
      | _ => exact old.trans (callOf_cons (fun _ => rfl) rfl).symm

theorem exists_sent_of_mem_requests {past : List Event} {p : Pending Purpose}
    (h : p ∈ requests past) : ∃ later body earlier, past = later ++ .sent p body :: earlier := by
  obtain ⟨body, hb⟩ := mem_requests.mp h
  obtain ⟨later, earlier, hs⟩ := List.append_of_mem hb
  exact ⟨later, body, earlier, hs⟩

theorem traced_call_request (h : Traced config c past) {s : Nat} {call : Call}
    (hc : c.calls.find? s = some call) :
    ∃ p ∈ requests past, p.sequence = s ∧ p.purpose.isCall = true := by
  induction h generalizing call with
  | start => cases hc
  | skip _ ih => exact ih hc
  | refuse _ _ _ ih => exact ih hc
  | next ht hn ih =>
    rcases call_happens hn hc with ⟨old, ho, -, -⟩ | ⟨p, body, rfl, hs, hq, -, -⟩
    · obtain ⟨p, hp, hr⟩ := ih ho
      exact ⟨p, mem_requests_cons _ hp, hr⟩
    · exact ⟨p, List.mem_cons_self, hs, hq⟩

theorem happens_fetched {s : Nat} {o : Outcome} {after : Client}
    (hn : Happens past c (.fetched s o) after) : ∃ h, c.calls.find? s = some ⟨h, some o⟩ := by
  cases hn with
  | returned hs | handed hs | denied hs => exact ⟨_, hs⟩

/-- What is fetched is what settled the request, and nothing was fetched before. -/
theorem traced_fetched {o : Outcome}
    (h : Traced config c (.fetched p.sequence o :: (later ++ .sent p body :: earlier)))
    (hq : p.purpose.isCall = true) :
    departed p.sequence later = false ∧ (verdict p later).map (outcomeOf p.purpose) = some o := by
  obtain ⟨before, _, ht, hn⟩ := traced_cons h
  obtain ⟨handle, hc⟩ := happens_fetched hn
  rw [traced_call ht rfl hq, callOf] at hc
  split at hc
  next => cases hc
  next hd => exact ⟨by simpa using hd, by simpa using congrArg (Option.bind · Call.outcome) hc⟩

theorem not_waiting_of_fetched (h : Traced config c past) (hs : past = later ++ .sent p body :: earlier)
    (hq : p.purpose.isCall = true) {o : Outcome} (ho : .fetched p.sequence o ∈ later) :
    p ∉ waiting past := by
  rw [traced_mem_waiting h hs]
  obtain ⟨newer, older, rfl⟩ := List.append_of_mem ho
  rw [hs, List.append_assoc] at h
  obtain ⟨after, ht⟩ := traced_append h
  obtain ⟨v, hv, -⟩ := Option.map_eq_some_iff.mp (traced_fetched ht hq).2
  have kept := verdict_append (newer ++ [.fetched p.sequence o]) hv
  rw [List.append_assoc, List.singleton_append] at kept
  rw [kept]
  simp

theorem not_waiting_later {newer : List Event} (h : Traced config c (newer ++ past))
    (hp : p ∈ requests past) (hw : p ∉ waiting past) : p ∉ waiting (newer ++ past) := by
  obtain ⟨before, hb⟩ := traced_append h
  obtain ⟨later, body, earlier, rfl⟩ := exists_sent_of_mem_requests hp
  rw [traced_mem_waiting hb rfl] at hw
  obtain ⟨v, hv⟩ := Option.ne_none_iff_exists'.mp hw
  rw [← List.append_assoc] at h ⊢
  rw [traced_mem_waiting h rfl, verdict_append newer hv]
  simp

end

end Telemux.Client
