import Mathlib.Data.List.Nodup
import Mathlib.Data.List.Range
import Telemux.Proofs.Operation
import Telemux.Proofs.Transcript

namespace Telemux

namespace Table

variable {α : Type} {t : Table α} {k : Nat} {v : α}

theorem nodup_entries (t : Table α) : t.entries.Nodup :=
  t.sorted.imp fun less same => Nat.ne_of_lt less (congrArg Prod.fst same)

theorem perm_insert (fresh : t.find? k = none) :
    (t.insert k v).entries.Perm ((k, v) :: t.entries) := by
  have absent : (k, v) ∉ t.entries := by
    rw [mem_entries_iff, fresh]
    exact fun h => by cases h
  refine (List.perm_ext_iff_of_nodup (nodup_entries _) (t.nodup_entries.cons absent)).mpr ?_
  rintro ⟨m, x⟩
  rw [mem_entries_iff, find?_insert, List.mem_cons, mem_entries_iff, Prod.mk.injEq]
  by_cases same : m = k
  · simp [same, fresh, eq_comm]
  · simp [same]

theorem perm_erase (there : t.find? k = some v) :
    t.entries.Perm ((k, v) :: (t.erase k).entries) := by
  have absent : (k, v) ∉ (t.erase k).entries := by
    rw [mem_entries_iff, find?_erase, if_pos rfl]
    exact fun h => by cases h
  refine (List.perm_ext_iff_of_nodup t.nodup_entries ((nodup_entries _).cons absent)).mpr ?_
  rintro ⟨m, x⟩
  rw [mem_entries_iff, List.mem_cons, mem_entries_iff, find?_erase, Prod.mk.injEq]
  by_cases same : m = k
  · simp [same, there, eq_comm]
  · simp [same]

end Table

namespace Correlator

open scoped List

inductive Action (α : Type) where
  | register (generation : Nat) (purpose : α)
  | take (sequence : Nat)
  | drain (generation : Nat)

inductive Answer (α : Type) where
  | sequence (s : Nat)
  | taken (request : Option (Pending α))
  | drained (requests : List (Pending α))

variable {α : Type}

def act (c : Correlator α) : Action α → Correlator α × Answer α
  | .register generation purpose => (c.register generation purpose, .sequence c.next)
  | .take s =>
    match c.take s with
    | some (p, rest) => (rest, .taken (some p))
    | none => (c, .taken none)
  | .drain generation => ((c.drain generation).2, .drained (c.drain generation).1)

/-- The request that is registered in an exchange, under the sequence that is handed out for it. -/
def registeredIn : Action α × Answer α → Option (Pending α)
  | (.register generation purpose, .sequence s) => some ⟨s, generation, purpose⟩
  | _ => none

def takenIn : Action α × Answer α → Option (Pending α)
  | (.take _, .taken request) => request
  | _ => none

def drainedIn : Action α × Answer α → List (Pending α)
  | (.drain _, .drained requests) => requests
  | _ => []

def registered (past : List (Action α × Answer α)) : List (Pending α) :=
  past.filterMap registeredIn

def taken (past : List (Action α × Answer α)) : List (Pending α) :=
  past.filterMap takenIn

def drained (past : List (Action α × Answer α)) : List (Pending α) :=
  past.flatMap drainedIn

def waiting (c : Correlator α) : List (Pending α) :=
  c.pending.entries.map Prod.snd

def history (actions : List (Action α)) : List (Action α × Answer α) :=
  transcript act {} actions

def after (actions : List (Action α)) : Correlator α :=
  reached act {} actions

variable {c : Correlator α} {past : List (Action α × Answer α)} {p : Pending α} {s : Nat}

theorem mem_waiting : p ∈ c.waiting ↔ ∃ s, c.pending.find? s = some p := by
  rw [waiting, List.mem_map]
  constructor
  · rintro ⟨⟨s, q⟩, there, rfl⟩
    exact ⟨s, Table.mem_entries_iff.mp there⟩
  · rintro ⟨s, found⟩
    exact ⟨(s, p), Table.mem_entries_iff.mpr found, rfl⟩

theorem waiting_register (generation : Nat) (purpose : α) (fresh : c.pending.find? c.next = none) :
    (c.register generation purpose).waiting.Perm (⟨c.next, generation, purpose⟩ :: c.waiting) :=
  (Table.perm_insert fresh).map Prod.snd

theorem waiting_without (found : c.pending.find? s = some p) :
    c.waiting.Perm (p :: (c.without s).waiting) :=
  (Table.perm_erase found).map Prod.snd

theorem waiting_drain (c : Correlator α) (generation : Nat) :
    (c.drain generation).2.waiting = c.waiting.filter fun p => !decide (p.generation ≤ generation) := by
  simp only [waiting, drain, Table.filter, List.filter_map, Function.comp_def, ← Nat.not_le, decide_not]

theorem find?_drain (c : Correlator α) (generation s : Nat) : (c.drain generation).2.pending.find? s =
    (c.pending.find? s).filter fun p => generation < p.generation :=
  Table.find?_filter _ _ _

theorem perm_drain (c : Correlator α) (generation : Nat) :
    ((c.drain generation).1 ++ (c.drain generation).2.waiting).Perm c.waiting := by
  rw [waiting_drain]
  exact List.filter_append_perm _ _

theorem act_take (c : Correlator α) (s : Nat) :
    c.act (.take s) = (c.without s, .taken (c.pending.find? s)) := by
  cases found : c.pending.find? s with
  | some p => simp [act, take, found, without]
  | none => simp [act, take, found, without_of_absent found]

/-- What a run has come to: each request that was registered was taken, was drained or waits. -/
structure Accounted (past : List (Action α × Answer α)) (c : Correlator α) : Prop where
  next : c.next = (registered past).length + 1
  numbered : (registered past).map (·.sequence) = List.range' 1 (registered past).length
  stored : ∀ s p, c.pending.find? s = some p → p.sequence = s
  account : (taken past ++ drained past ++ c.waiting).Perm (registered past)

theorem registered_concat (w : Action α × Answer α) :
    registered (past ++ [w]) = registered past ++ (registeredIn w).toList :=
  filterMap_concat _ _ _

theorem taken_concat (w : Action α × Answer α) : taken (past ++ [w]) = taken past ++ (takenIn w).toList :=
  filterMap_concat _ _ _

theorem drained_concat (w : Action α × Answer α) : drained (past ++ [w]) = drained past ++ drainedIn w := by
  rw [drained, List.flatMap_append, List.flatMap_singleton]
  rfl

/-- What was registered has a sequence in front of the next one. -/
theorem Accounted.lt_next (h : Accounted past c) (hp : p ∈ registered past) : p.sequence < c.next := by
  have numbered : p.sequence ∈ List.range' 1 (registered past).length :=
    h.numbered ▸ List.mem_map_of_mem hp
  rw [List.mem_range'_1] at numbered
  rw [h.next]
  omega

theorem Accounted.registered_of_waiting (h : Accounted past c) (hp : p ∈ c.waiting) : p ∈ registered past :=
  h.account.subset (List.mem_append_right _ hp)

theorem Accounted.fresh (h : Accounted past c) : c.pending.find? c.next = none := by
  refine Option.eq_none_iff_forall_not_mem.mpr fun p found => ?_
  have less := h.lt_next (h.registered_of_waiting (mem_waiting.mpr ⟨_, found⟩))
  rw [h.stored _ _ found] at less
  exact Nat.lt_irrefl _ less

theorem Accounted.register (h : Accounted past c) (generation : Nat) (purpose : α) :
    Accounted (past ++ [(.register generation purpose, .sequence c.next)]) (c.register generation purpose) := by
  have registers : registered (past ++ [(.register generation purpose, .sequence c.next)]) =
      registered past ++ [⟨c.next, generation, purpose⟩] := registered_concat _
  have takes : taken (past ++ [(.register generation purpose, .sequence c.next)]) = taken past :=
    (taken_concat _).trans (List.append_nil _)
  have drains : drained (past ++ [(.register generation purpose, .sequence c.next)]) = drained past :=
    (drained_concat _).trans (List.append_nil _)
  refine ⟨?_, ?_, ?_, ?_⟩
  · rw [registers, List.length_append]
    exact congrArg (· + 1) h.next
  · rw [registers, List.map_append, h.numbered, List.length_append, List.length_singleton,
      List.range'_1_concat, List.map_singleton, h.next, Nat.add_comm 1]
  · intro s p found
    rw [find?_register] at found
    split at found
    next here =>
      cases found
      exact here.symm
    next => exact h.stored s p found
  · rw [registers, takes, drains]
    calc taken past ++ drained past ++ (c.register generation purpose).waiting
      _ ~ taken past ++ drained past ++ ⟨c.next, generation, purpose⟩ :: c.waiting :=
        (waiting_register generation purpose h.fresh).append_left _
      _ ~ ⟨c.next, generation, purpose⟩ :: (taken past ++ drained past ++ c.waiting) := List.perm_middle
      _ ~ ⟨c.next, generation, purpose⟩ :: registered past := h.account.cons _
      _ ~ registered past ++ [⟨c.next, generation, purpose⟩] := (List.perm_append_singleton _ _).symm

theorem Accounted.take (h : Accounted past c) (s : Nat) :
    Accounted (past ++ [(.take s, .taken (c.pending.find? s))]) (c.without s) := by
  have registers : registered (past ++ [(.take s, .taken (c.pending.find? s))]) = registered past :=
    (registered_concat _).trans (List.append_nil _)
  have drains : drained (past ++ [(.take s, .taken (c.pending.find? s))]) = drained past :=
    (drained_concat _).trans (List.append_nil _)
  have stored : ∀ t p, (c.without s).pending.find? t = some p → p.sequence = t := by
    intro t p found
    rw [find?_without] at found
    split at found
    next => cases found
    next => exact h.stored t p found
  refine ⟨registers ▸ h.next, registers ▸ h.numbered, stored, ?_⟩
  rw [registers, drains, taken_concat]
  cases found : c.pending.find? s with
  | none =>
    rw [without_of_absent found]
    exact (List.append_nil (taken past)).symm ▸ h.account
  | some p =>
    calc taken past ++ [p] ++ drained past ++ (c.without s).waiting
      _ = taken past ++ p :: (drained past ++ (c.without s).waiting) := by simp
      _ ~ p :: (taken past ++ (drained past ++ (c.without s).waiting)) := List.perm_middle
      _ = p :: (taken past ++ drained past ++ (c.without s).waiting) := by simp
      _ ~ taken past ++ drained past ++ p :: (c.without s).waiting := List.perm_middle.symm
      _ ~ taken past ++ drained past ++ c.waiting := (waiting_without found).symm.append_left _
      _ ~ registered past := h.account

theorem Accounted.drain (h : Accounted past c) (generation : Nat) :
    Accounted (past ++ [(.drain generation, .drained (c.drain generation).1)]) (c.drain generation).2 := by
  have registers : registered (past ++ [(.drain generation, .drained (c.drain generation).1)]) = registered past :=
    (registered_concat _).trans (List.append_nil _)
  have takes : taken (past ++ [(.drain generation, .drained (c.drain generation).1)]) = taken past :=
    (taken_concat _).trans (List.append_nil _)
  have stored : ∀ t p, (c.drain generation).2.pending.find? t = some p → p.sequence = t := by
    intro t p found
    rw [find?_drain, Option.filter_eq_some_iff] at found
    exact h.stored t p found.1
  refine ⟨registers ▸ h.next, registers ▸ h.numbered, stored, ?_⟩
  rw [registers, takes, drained_concat]
  calc taken past ++ (drained past ++ (c.drain generation).1) ++ (c.drain generation).2.waiting
    _ = taken past ++ drained past ++ ((c.drain generation).1 ++ (c.drain generation).2.waiting) := by simp
    _ ~ taken past ++ drained past ++ c.waiting := (perm_drain c generation).append_left _
    _ ~ registered past := h.account

theorem Accounted.step (h : Accounted past c) (a : Action α) :
    Accounted (past ++ [(a, (c.act a).2)]) (c.act a).1 := by
  cases a with
  | register generation purpose => exact h.register generation purpose
  | take s =>
    rw [act_take]
    exact h.take s
  | drain generation => exact h.drain generation

theorem accounted_run (actions : List (Action α)) : Accounted (history actions) (after actions) := by
  have start : Accounted ([] : List (Action α × Answer α)) {} :=
    ⟨rfl, rfl, fun _ _ found => (by cases found), .refl _⟩
  exact reached_induction start (fun past c a h => h.step a) actions

theorem Accounted.once (h : Accounted past c) :
    ((taken past ++ drained past ++ c.waiting).map (·.sequence)).Nodup := by
  rw [(h.account.map _).nodup_iff, h.numbered]
  exact List.nodup_range'

theorem Accounted.find?_of_waiting (h : Accounted past c) (hp : p ∈ c.waiting) :
    c.pending.find? p.sequence = some p := by
  obtain ⟨s, found⟩ := mem_waiting.mp hp
  rwa [h.stored s p found]

theorem Accounted.sorted (h : Accounted past c) :
    c.waiting.Pairwise fun p q => p.sequence < q.sequence := by
  refine List.pairwise_map.mpr (c.pending.sorted.imp_of_mem fun hx hy less => ?_)
  rwa [h.stored _ _ (Table.mem_entries_iff.mp hx), h.stored _ _ (Table.mem_entries_iff.mp hy)]

/-- Requests that wait under sequences of their own are found one after the other. -/
theorem takeEach_of_waiting {ps : List (Pending α)} (distinct : (ps.map (·.sequence)).Nodup)
    (there : ∀ p ∈ ps, c.pending.find? p.sequence = some p) :
    c.takeEach (ps.map (·.sequence)) =
      (ps, { c with pending := c.pending.filter fun s _ => s ∉ ps.map (·.sequence) }) := by
  induction ps generalizing c with
  | nil =>
    refine Prod.ext rfl (ext_find? rfl fun k => ?_)
    rw [List.map_nil, takeEach, Table.find?_filter]
    cases c.pending.find? k <;> simp [Option.filter]
  | cons p ps ih =>
    obtain ⟨apart, rest⟩ := List.nodup_cons.mp distinct
    have found : c.take p.sequence = some (p, c.without p.sequence) := by
      simp [Correlator.take, there p List.mem_cons_self, without]
    have later : ∀ q ∈ ps, (c.without p.sequence).pending.find? q.sequence = some q := by
      intro q hq
      rw [find?_without, if_neg fun same => apart (List.mem_map.mpr ⟨q, hq, same⟩)]
      exact there q (List.mem_cons_of_mem _ hq)
    rw [List.map_cons, takeEach, found]
    simp only [ih rest later]
    refine Prod.ext rfl (ext_find? rfl fun k => ?_)
    rw [Table.find?_filter, find?_without, Table.find?_filter]
    by_cases same : k = p.sequence
    · cases c.pending.find? k <;> simp [same]
    · simp [same]

theorem Accounted.eq_of_sequence (h : Accounted past c) {q : Pending α} (hp : p ∈ c.waiting)
    (hq : q ∈ c.waiting) (same : p.sequence = q.sequence) : p = q := by
  have found := h.find?_of_waiting hp
  rw [same, h.find?_of_waiting hq] at found
  exact (Option.some.inj found).symm

theorem Accounted.mergeSort_eq (h : Accounted past c) {generation : Nat} {ps : List (Pending α)}
    (all : ps ~ c.upTo generation) :
    ps.mergeSort (fun p q => p.sequence ≤ q.sequence) = c.upTo generation := by
  have perm : ps.mergeSort (fun p q => p.sequence ≤ q.sequence) ~ c.upTo generation :=
    (List.mergeSort_perm _ _).trans all
  have sorted : (ps.mergeSort fun p q => p.sequence ≤ q.sequence).Pairwise
      fun p q => decide (p.sequence ≤ q.sequence) = true := by
    refine List.pairwise_mergeSort (fun p q r pq qr => ?_) (fun p q => ?_) ps
    · exact decide_eq_true (Nat.le_trans (of_decide_eq_true pq) (of_decide_eq_true qr))
    · simpa using Nat.le_total p.sequence q.sequence
  have ascending : (c.upTo generation).Pairwise fun p q => decide (p.sequence ≤ q.sequence) = true :=
    (h.sorted.filter _).imp fun less => decide_eq_true (Nat.le_of_lt less)
  refine List.Perm.eq_of_pairwise (fun p q hp hq pq qp => ?_) sorted ascending perm
  have waits : ∀ r ∈ c.upTo generation, r ∈ c.waiting := fun r hr => (List.mem_filter.mp hr).1
  exact h.eq_of_sequence (waits p (perm.subset hp)) (waits q hq)
    (Nat.le_antisymm (of_decide_eq_true pq) (of_decide_eq_true qp))

theorem Accounted.mem_sequences (h : Accounted past c) {generation : Nat} {order : List (Pending α)}
    (all : order ~ c.waiting) (found : c.pending.find? s = some p) :
    s ∈ (order.filter (·.generation ≤ generation)).map (·.sequence) ↔ p.generation ≤ generation := by
  have waits : p ∈ c.waiting := mem_waiting.mpr ⟨s, found⟩
  have key : p.sequence = s := h.stored s p found
  simp only [List.mem_map, List.mem_filter, decide_eq_true_eq]
  constructor
  · rintro ⟨q, ⟨hq, below⟩, same⟩
    rwa [h.eq_of_sequence waits (all.subset hq) (key.trans same.symm)]
  · exact fun below => ⟨p, ⟨all.symm.subset waits, below⟩, key⟩

/-- In whatever order the requests are come upon, the same ones are drained, in the same order. -/
theorem Accounted.drainThrough_eq (h : Accounted past c) (generation : Nat) {order : List (Pending α)}
    (all : order ~ c.waiting) : c.drainThrough order generation = c.drain generation := by
  have distinct : ((order.filter (·.generation ≤ generation)).map (·.sequence)).Nodup := by
    have waiting : (order.map (·.sequence)).Nodup :=
      (all.map _).nodup_iff.mpr (List.pairwise_map.mpr (h.sorted.imp Nat.ne_of_lt))
    exact waiting.sublist (List.filter_sublist.map _)
  have there : ∀ p ∈ order.filter (·.generation ≤ generation), c.pending.find? p.sequence = some p :=
    fun p hp => h.find?_of_waiting (all.subset (List.mem_filter.mp hp).1)
  rw [drainThrough, takeEach_of_waiting distinct there]
  refine Prod.ext (h.mergeSort_eq (all.filter _)) (ext_find? rfl fun k => ?_)
  rw [Table.find?_filter, find?_drain]
  cases found : c.pending.find? k with
  | none => rfl
  | some p => simp only [Option.filter, h.mem_sequences all found, decide_not, ← Nat.not_le]

/-- A request waits just if it was registered and neither taken nor drained. -/
theorem Accounted.waiting_iff (h : Accounted past c) :
    p ∈ c.waiting ↔ p ∈ registered past ∧ p ∉ taken past ∧ p ∉ drained past := by
  have apart : ∀ q ∈ taken past ++ drained past, q ∉ c.waiting := by
    have distinct : (taken past ++ drained past ++ c.waiting).Nodup := h.once.of_map
    exact fun q hq waits => (List.nodup_append.mp distinct).2.2 q hq q waits rfl
  constructor
  · intro waits
    exact ⟨h.registered_of_waiting waits, fun gone => apart p (List.mem_append_left _ gone) waits,
      fun gone => apart p (List.mem_append_right _ gone) waits⟩
  · rintro ⟨known, untaken, undrained⟩
    have somewhere := h.account.symm.subset known
    simpa [untaken, undrained] using somewhere

theorem Accounted.takes (h : Accounted past c) (s : Nat) : c.pending.find? s = some p ↔
    p ∈ registered past ∧ p.sequence = s ∧ p ∉ taken past ∧ p ∉ drained past := by
  constructor
  · intro found
    obtain ⟨known, gone⟩ := h.waiting_iff.mp (mem_waiting.mpr ⟨s, found⟩)
    exact ⟨known, h.stored s p found, gone⟩
  · rintro ⟨known, rfl, gone⟩
    exact h.find?_of_waiting (h.waiting_iff.mpr ⟨known, gone⟩)

theorem Accounted.waiting_without_iff (h : Accounted past c) (s : Nat) :
    p ∈ (c.without s).waiting ↔ p ∈ c.waiting ∧ p.sequence ≠ s := by
  rw [mem_waiting, mem_waiting]
  simp only [find?_without]
  constructor
  · rintro ⟨t, found⟩
    split at found
    next => cases found
    next other => exact ⟨⟨t, found⟩, h.stored t p found ▸ other⟩
  · rintro ⟨⟨t, found⟩, other⟩
    exact ⟨t, by rw [if_neg (h.stored t p found ▸ other), found]⟩

/-- What a correlator keeps to after any actions. -/
structure Ledger (actions : List (Action α)) : Prop where
  numbered : (registered (history actions)).map (·.sequence) =
    List.range' 1 (registered (history actions)).length
  stored : ∀ s p, (after actions).pending.find? s = some p → p.sequence = s
  account : taken (history actions) ++ drained (history actions) ++ (after actions).waiting ~
    registered (history actions)
  once : ((taken (history actions) ++ drained (history actions) ++ (after actions).waiting).map
    (·.sequence)).Nodup
  takes : ∀ s, ∃ request, ((after actions).act (.take s)).2 = .taken request ∧
    (∀ p, request = some p ↔ p ∈ registered (history actions) ∧ p.sequence = s ∧
      p ∉ taken (history actions) ∧ p ∉ drained (history actions)) ∧
        ∀ p, p ∈ ((after actions).act (.take s)).1.waiting ↔ p ∈ (after actions).waiting ∧ p.sequence ≠ s
  drains : ∀ generation, ∃ requests, ((after actions).act (.drain generation)).2 = .drained requests ∧
    (requests.Pairwise fun p q => p.sequence < q.sequence) ∧
      (∀ p, p ∈ requests ↔ p ∈ (after actions).waiting ∧ p.generation ≤ generation) ∧
        ∀ p, p ∈ ((after actions).act (.drain generation)).1.waiting ↔
          p ∈ (after actions).waiting ∧ generation < p.generation
  anyOrder : ∀ generation order, order ~ (after actions).waiting →
    (after actions).drainThrough order generation = (after actions).drain generation

/-- Whatever a correlator is asked, the sequences that it has handed out are those that were taken, those
that were drained and those that wait, each once. A request is taken just if it waits, and draining takes
those that wait up to some generation, in the order of their sequences. -/
theorem ledger_kept (actions : List (Action α)) : Ledger actions := by
  have h := accounted_run actions
  refine ⟨h.numbered, h.stored, h.account, h.once, fun s => ?_, fun generation => ?_,
    fun generation order all => h.drainThrough_eq generation all⟩
  · rw [act_take]
    exact ⟨_, rfl, fun p => h.takes s, fun p => h.waiting_without_iff s⟩
  · refine ⟨(after actions).upTo generation, rfl, h.sorted.filter _, fun p => ?_, fun p => ?_⟩
    · rw [upTo, List.mem_filter, decide_eq_true_eq]
      rfl
    · show p ∈ ((after actions).drain generation).2.waiting ↔ _
      rw [waiting_drain, List.mem_filter]
      simp

/-- Draining passes over what was taken before and leaves what belongs to a later link. -/
example : taken (history [.register 1 'a', .register 2 'b', .register 1 'c', .take 1, .drain 1, .take 3]) =
    [⟨1, 1, 'a'⟩] ∧
      drained (history [.register 1 'a', .register 2 'b', .register 1 'c', .take 1, .drain 1]) =
        [⟨3, 1, 'c'⟩] := by
  decide +kernel

end Correlator

end Telemux
