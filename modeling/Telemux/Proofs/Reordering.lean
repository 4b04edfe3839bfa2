import Telemux.Proofs.Outdated
import Telemux.Proofs.Pending

namespace Telemux

/-- What a client keeps about a subscription. -/
structure Cell where
  route : Option Route
  registered : Option Subscribed
  handle : Option Handle

namespace Cell

/-- What the answer to its subscribe request makes of a subscription, which is given up at once when
nobody calls for it any more. -/
def made (x : Cell) (topic : Topic) (generation : Nat) (called : Bool) :
    Except ClientError InitialReply → Cell
  | .error _ => x
  | .ok reply =>
    if called then
      { route := some ⟨topic, some (Client.bindingOf reply)⟩
        registered := some ⟨topic, generation⟩
        handle := x.handle.map fun h => { h with interrupted := false } }
    else { x with route := none, registered := none }

/-- What the answer to a replay makes of a subscription, unless that is over. -/
def restored (x : Cell) (generation : Nat) (answer : Except ClientError InitialReply) : Cell :=
  match x.registered, answer with
  | none, _ => x
  | some _, .error e =>
    { route := none
      registered := none
      handle := if x.route.isSome then x.handle.map fun h => { h with queue := h.queue ++ [.error e] }
        else x.handle }
  | some s, .ok reply =>
    { route := x.route.map fun r => { r with binding := some (Client.bindingOf reply) }
      registered := some { s with generation }
      handle := if x.route.isSome then x.handle.map fun h => { h with interrupted := false }
        else x.handle }

/-- What a terminal frame makes of the subscription that the answered request is about. -/
def answered (x : Cell) (generation : Nat) (called : Bool) (f : Frame) : Purpose → Cell
  | .request => x
  | .subscribe _ topic => x.made topic generation called (Client.answerTo topic f)
  | .replay _ topic => x.restored generation (Client.answerTo topic f)

end Cell

namespace Client

def cell (c : Client) (id : Nat) : Cell :=
  ⟨c.routes.find? id, c.registry.find? id, c.handles.find? id⟩

/-- A client without all that a terminal frame can change. -/
def besides (c : Client) : Client :=
  { c with
    correlator := {}
    routes := .empty
    registry := .empty
    handles := .empty
    calls := .empty }

variable {config : FrameConfig} {c d : Client} {past : List Event}

theorem eq_of_cells (besides : c.besides = d.besides) (correlator : c.correlator = d.correlator)
    (calls : ∀ s, c.calls.find? s = d.calls.find? s) (cells : ∀ id, c.cell id = d.cell id) : c = d := by
  have routes : c.routes = d.routes := Table.ext_find? fun id => congrArg Cell.route (cells id)
  have registry : c.registry = d.registry := Table.ext_find? fun id => congrArg Cell.registered (cells id)
  have handles : c.handles = d.handles := Table.ext_find? fun id => congrArg Cell.handle (cells id)
  have same : c.calls = d.calls := Table.ext_find? calls
  obtain ⟨_, _, _, _, _, _, _, _, _, _, _, _, _, _⟩ := c
  obtain ⟨_, _, _, _, _, _, _, _, _, _, _, _, _, _⟩ := d
  simp only [Client.besides, Client.mk.injEq] at besides
  simp only [Client.mk.injEq]
  tauto

/-- What a client makes of the answer to a request that waits: it changes the call of the request and
the subscription that the request is about, and nothing else. -/
structure Completed (c after : Client) (generation : Nat) (f : Frame) (purpose : Purpose) : Prop where
  besides : after.besides = c.besides
  correlator : after.correlator = c.correlator.without f.sequence
  calls : ∀ s, after.calls.find? s =
    if s = f.sequence ∧ purpose.isCall = true then
      (c.calls.find? s).map fun call =>
        { call with outcome := some (outcomeOf purpose (.answered f)) }
    else c.calls.find? s
  own : ∀ id topic, purpose.subscription? = some (id, topic) →
    after.cell id = (c.cell id).answered generation (c.calls.contains f.sequence) f purpose
  others : ∀ id, (∀ topic, purpose.subscription? ≠ some (id, topic)) → after.cell id = c.cell id

section

variable {g : Nat} {f : Frame} {after : Client} {p : Pending Purpose}

/-- A terminal frame changes only the subscription that the answered request is about. -/
theorem cell_of_terminal (hn : Happens past c (.terminal g f) after)
    (hp : c.correlator.pending.find? f.sequence = some p) (hs : p.sequence = f.sequence) (i : Nat) :
    after.cell i =
      if (p.purpose.subscription?.map Prod.fst) = some i then
        (c.cell i).answered g (c.calls.contains f.sequence) f p.purpose
      else c.cell i := by
  cases hn with
  | stray hl free => cases hp.symm.trans free
  | replied hl found call fails =>
    cases hp.symm.trans found
    cases hq : p.purpose with
    | request => rfl
    | replay id topic => simp [hq, Purpose.isCall] at call
    | subscribe id topic =>
      obtain ⟨e, he⟩ := fails id topic hq
      simp only [Cell.answered, he, Cell.made, ite_self]
      rfl
  | @granted link _ _ id topic reply hl found hq ha there =>
    cases hp.symm.trans found
    rw [hs] at there
    by_cases hi : i = id
    · simp [hq, Purpose.subscription?, Cell.answered, Cell.made, ha, there, hi, cell,
        Table.find?_insert, Table.find?_adjust]
    · simp [hq, Purpose.subscription?, hi, Ne.symm hi, cell, Table.find?_insert, Table.find?_adjust]
  | @late link _ _ id topic reply hl found hq ha gone =>
    cases hp.symm.trans found
    rw [hs] at gone
    by_cases hi : i = id
    · simp [hq, Purpose.subscription?, Cell.answered, Cell.made, ha, gone, hi, cell, Table.find?_erase]
    · simp [hq, Purpose.subscription?, hi, Ne.symm hi, cell, Table.find?_erase]
  | @lapsed link _ _ id topic hl found hq gone =>
    cases hp.symm.trans found
    have absent : c.registry.find? i = none ∨ i ≠ id := by
      by_cases hi : i = id
      · exact Or.inl (by simpa [Table.contains, hi] using gone)
      · exact Or.inr hi
    rcases absent with absent | hi
    · simp [hq, Cell.answered, Cell.restored, cell, absent]
    · simp [hq, Purpose.subscription?, Ne.symm hi, cell]
  | @failed link _ _ id topic e hl found hq there ha =>
    cases hp.symm.trans found
    obtain ⟨s, hreg⟩ := Option.isSome_iff_exists.mp there
    by_cases hi : i = id
    · subst hi
      cases hr : c.routes.find? i <;>
      simp [hq, Purpose.subscription?, Cell.answered, Cell.restored, ha, cell, hreg, Table.contains, hr,
        Table.find?_erase, Table.find?_adjust]
    · cases hr : c.routes.find? id <;>
      simp [hq, Purpose.subscription?, hi, Ne.symm hi, cell, Table.contains, hr, Table.find?_erase,
        Table.find?_adjust]
  | @restored link _ _ id topic reply hl found hq there ha =>
    cases hp.symm.trans found
    obtain ⟨s, hreg⟩ := Option.isSome_iff_exists.mp there
    by_cases hi : i = id
    · subst hi
      cases hr : c.routes.find? i <;>
      simp [hq, Purpose.subscription?, Cell.answered, Cell.restored, ha, cell, hreg, Table.contains, hr,
        Table.find?_adjust]
    · cases hr : c.routes.find? id <;>
      simp [hq, Purpose.subscription?, hi, Ne.symm hi, cell, Table.contains, hr, Table.find?_adjust]

theorem besides_of_terminal (hn : Happens past c (.terminal g f) after) : after.besides = c.besides := by
  cases hn <;> rfl

theorem completed_of_terminal (h : Traced config c past) (hn : Happens past c (.terminal g f) after)
    (hp : c.correlator.pending.find? f.sequence = some p) : Completed c after g f p.purpose := by
  have cells := cell_of_terminal hn hp ((traced_waiting h).mp hp).2
  refine ⟨besides_of_terminal hn, correlator_of_terminal hn, fun s => ?_, fun id topic hq => ?_,
    fun id hq => ?_⟩
  · rw [find?_calls_of_terminal hn h, hp]
  · rw [cells, if_pos (by rw [hq]; rfl)]
  · rw [cells, if_neg]
    intro about
    obtain ⟨⟨i, topic⟩, hi, rfl⟩ := Option.map_eq_some_iff.mp about
    exact hq topic hi

end

/-- The client after a terminal frame on its link. -/
def heeding (c : Client) (generation : Nat) (f : Frame) : Client :=
  c.complete generation f.sequence (answerOf f)

section

variable {link : ActiveLink} {f k : Frame} {p q : Pending Purpose}

theorem heeding_of_absent {g : Nat} (hp : c.correlator.pending.find? f.sequence = none) :
    c.heeding g f = c := by
  simp [heeding, complete, Correlator.take, hp]

theorem Completed.contains {after : Client} {g s : Nat} {purpose : Purpose}
    (h : Completed c after g f purpose) : after.calls.contains s = c.calls.contains s := by
  rw [Table.contains, h.calls]
  split
  next => exact Option.isSome_map
  next => rfl

/-- Answers to different requests about different subscriptions do not get in each other's way. -/
theorem eq_of_completed {g : Nat} {purpose other : Purpose} {c₁ c₂ d₁ d₂ : Client}
    (first : Completed c c₁ g f purpose) (second : Completed c₁ c₂ g k other)
    (first' : Completed c d₁ g k other) (second' : Completed d₁ d₂ g f purpose)
    (apart : f.sequence ≠ k.sequence)
    (distinct : ∀ id t u, purpose.subscription? = some (id, t) → other.subscription? ≠ some (id, u)) :
    c₂ = d₂ := by
  refine eq_of_cells ?_ ?_ (fun s => ?_) fun id => ?_
  · rw [second.besides, first.besides, second'.besides, first'.besides]
  · rw [second.correlator, first.correlator, second'.correlator, first'.correlator,
      Correlator.without_comm]
  · rw [second.calls, first.calls, second'.calls, first'.calls]
    by_cases hs : s = f.sequence
    · simp [hs, apart]
    · simp [hs]
  · by_cases about : ∃ t, purpose.subscription? = some (id, t)
    · obtain ⟨t, ht⟩ := about
      have free := fun u => distinct id t u ht
      rw [second.others id free, first.own id t ht, second'.own id t ht, first'.others id free,
        first'.contains]
    · have free := fun t ht => about ⟨t, ht⟩
      rw [second'.others id free]
      by_cases about' : ∃ u, other.subscription? = some (id, u)
      · obtain ⟨u, hu⟩ := about'
        rw [second.own id u hu, first'.own id u hu, first.others id free, first.contains]
      · have free' := fun u hu => about' ⟨u, hu⟩
        rw [second.others id free', first'.others id free', first.others id free]

theorem traced_heeding (h : Traced config c past) (hl : c.link = some link) (f : Frame) :
    Traced config (c.heeding link.generation f) (.terminal link.generation f :: past) :=
  h.next (happens_complete hl)

theorem link_heeding (hl : c.link = some link) (f : Frame) :
    (c.heeding link.generation f).link = some link := by
  have hn : Happens [] c _ (c.heeding link.generation f) := happens_complete hl
  exact (congrArg Client.link (besides_of_terminal hn)).trans hl

theorem find?_pending_heeding (hl : c.link = some link) {s : Nat} (other : s ≠ f.sequence) :
    (c.heeding link.generation f).correlator.pending.find? s = c.correlator.pending.find? s := by
  have hn : Happens [] c _ (c.heeding link.generation f) := happens_complete hl
  rw [correlator_of_terminal hn, Correlator.find?_without, if_neg other]

theorem completed_heeding (h : Traced config c past) (hl : c.link = some link)
    (hp : c.correlator.pending.find? f.sequence = some p) :
    Completed c (c.heeding link.generation f) link.generation f p.purpose :=
  completed_of_terminal h (happens_complete hl) hp

/-- Two requests that wait are not about the same subscription. -/
theorem subscription_ne (h : Traced config c past) {s t : Nat}
    (hp : c.correlator.pending.find? s = some p) (hq : c.correlator.pending.find? t = some q)
    (apart : s ≠ t) {id : Nat} {topic other : Topic} (ho : p.purpose.subscription? = some (id, topic)) :
    q.purpose.subscription? ≠ some (id, other) := by
  intro hr
  obtain ⟨hw, rfl⟩ := (traced_waiting h).mp hp
  obtain ⟨hw', rfl⟩ := (traced_waiting h).mp hq
  exact apart (by rw [eq_of_subscription h hw hw' ho hr])

theorem heeding_comm (h : Traced config c past) (hl : c.link = some link)
    (apart : f.sequence ≠ k.sequence) :
    (c.heeding link.generation f).heeding link.generation k =
      (c.heeding link.generation k).heeding link.generation f := by
  have unread : (c.heeding link.generation f).correlator.pending.find? k.sequence = _ :=
    find?_pending_heeding hl apart.symm
  have unread' : (c.heeding link.generation k).correlator.pending.find? f.sequence = _ :=
    find?_pending_heeding hl apart
  cases hp : c.correlator.pending.find? f.sequence with
  | none => rw [heeding_of_absent hp, heeding_of_absent (unread'.trans hp)]
  | some p =>
    cases hq : c.correlator.pending.find? k.sequence with
    | none => rw [heeding_of_absent hq, heeding_of_absent (unread.trans hq)]
    | some q =>
      refine eq_of_completed (completed_heeding h hl hp)
        (completed_heeding (traced_heeding h hl f) (link_heeding hl f) (unread.trans hq))
        (completed_heeding h hl hq)
        (completed_heeding (traced_heeding h hl k) (link_heeding hl k) (unread'.trans hp))
        apart fun id t u ht => subscription_ne h hp hq apart ht

end

/-- A text that carries a terminal frame. -/
structure Bears (config : FrameConfig) (text : String) (f : Frame) : Prop where
  reads : Frame.decode config text = .ok f
  terminal : f.kind.isTerminal = true

theorem message_of_bears (h : Traced config c past) {link : ActiveLink} (hl : c.link = some link)
    {text : String} {f : Frame} (bears : Bears config text f) :
    c.message link.generation text = c.heeding link.generation f :=
  message_of_terminal hl (traced_config h ▸ bears.reads) bears.terminal

theorem message_comm (h : Traced config c past) {g : Nat} {text other : String} {f k : Frame}
    (bears : Bears config text f) (bears' : Bears config other k) (apart : f.sequence ≠ k.sequence) :
    (c.message g text).message g other = (c.message g other).message g text := by
  cases hg : c.isCurrent g with
  | false => simp only [message_of_not_current hg]
  | true =>
    obtain ⟨link, hl, rfl⟩ := isCurrent_iff.mp hg
    rw [message_of_bears h hl bears, message_of_bears h hl bears',
      message_of_bears (traced_heeding h hl f) (link_heeding hl f) bears',
      message_of_bears (traced_heeding h hl k) (link_heeding hl k) bears, heeding_comm h hl apart]

/-- The answers of a link, in the order in which they come. -/
def answering (generation : Nat) (answers : List (String × Frame)) : List Step :=
  answers.map fun a => .message generation a.1

theorem run_answering_perm (h : Traced config c past) {g : Nat} {answers others : List (String × Frame)}
    (perm : answers.Perm others) (bear : ∀ a ∈ answers, Bears config a.1 a.2)
    (apart : (answers.map (·.2.sequence)).Nodup) :
    c.run (answering g answers) = c.run (answering g others) := by
  induction perm generalizing c past with
  | nil => rfl
  | cons a _ ih =>
    exact ih (lasting_step (lasting_traced config) h (.message g a.1))
      (fun b hb => bear b (List.mem_cons_of_mem _ hb)) (List.nodup_cons.mp apart).2
  | swap a b rest =>
    have two := message_comm (g := g) h (bear b List.mem_cons_self)
      (bear a (List.mem_cons_of_mem _ List.mem_cons_self))
      fun he => (List.nodup_cons.mp apart).1 (List.mem_cons.mpr (Or.inl he))
    exact congrArg (Client.run · (answering g rest)) two
  | trans half _ first second =>
    exact (first h bear apart).trans (second h (fun a ha => bear a (half.mem_iff.mpr ha))
      ((half.map _).nodup_iff.mp apart))

/-- What the answer to a request that waits has made of its call and of its subscription, and that
nothing else has touched them. -/
structure Settled (c after : Client) (generation : Nat) (f : Frame) (p : Pending Purpose) : Prop where
  gone : after.correlator.pending.find? f.sequence = none
  call : after.calls.find? f.sequence =
    if p.purpose.isCall = true then
      (c.calls.find? f.sequence).map fun call =>
        { call with outcome := some (outcomeOf p.purpose (.answered f)) }
    else c.calls.find? f.sequence
  cell : ∀ id topic, p.purpose.subscription? = some (id, topic) →
    after.cell id = (c.cell id).answered generation (c.calls.contains f.sequence) f p.purpose

section

variable {link : ActiveLink} {f k : Frame} {p : Pending Purpose}

theorem Completed.settled {after : Client} {g : Nat} (h : Completed c after g f p.purpose) :
    Settled c after g f p := by
  refine ⟨?_, ?_, h.own⟩
  · rw [h.correlator, Correlator.find?_without, if_pos rfl]
  · rw [h.calls]
    simp only [true_and]

/-- An answer leaves alone what another request waits for. -/
theorem spares_heeding (h : Traced config c past) (hl : c.link = some link)
    (hp : c.correlator.pending.find? f.sequence = some p) (apart : f.sequence ≠ k.sequence) :
    (c.heeding link.generation k).calls.find? f.sequence = c.calls.find? f.sequence ∧
      ∀ id topic, p.purpose.subscription? = some (id, topic) →
        (c.heeding link.generation k).cell id = c.cell id := by
  cases hq : c.correlator.pending.find? k.sequence with
  | none => simp [heeding_of_absent hq]
  | some q =>
    have done := completed_heeding h hl hq
    refine ⟨?_, fun id t ht => done.others id fun u => subscription_ne h hp hq apart ht⟩
    rw [done.calls, if_neg fun both => apart both.1]

end

/-- What a request waits for stays as it is while the answers to others come in. -/
structure Spared (c after : Client) (link : ActiveLink) (sequence : Nat) (p : Pending Purpose) : Prop where
  link : after.link = some link
  pending : after.correlator.pending.find? sequence = some p
  call : after.calls.find? sequence = c.calls.find? sequence
  cell : ∀ id topic, p.purpose.subscription? = some (id, topic) → after.cell id = c.cell id

theorem spared_run (h : Traced config c past) {link : ActiveLink} (hl : c.link = some link)
    {answers : List (String × Frame)} (bear : ∀ a ∈ answers, Bears config a.1 a.2) {f : Frame}
    {p : Pending Purpose} (hp : c.correlator.pending.find? f.sequence = some p)
    (others : ∀ a ∈ answers, f.sequence ≠ a.2.sequence) :
    Spared c (c.run (answering link.generation answers)) link f.sequence p := by
  induction answers generalizing c past with
  | nil => exact ⟨hl, hp, rfl, fun _ _ _ => rfl⟩
  | cons a rest ih =>
    have apart := others a List.mem_cons_self
    obtain ⟨call, cell⟩ := spares_heeding h hl hp apart
    have later := ih (traced_heeding h hl a.2) (link_heeding hl a.2)
      (fun b hb => bear b (List.mem_cons_of_mem _ hb)) ((find?_pending_heeding hl apart).trans hp)
      fun b hb => others b (List.mem_cons_of_mem _ hb)
    have first : c.run (answering link.generation (a :: rest)) =
        (c.heeding link.generation a.2).run (answering link.generation rest) :=
      congrArg (Client.run · _) (message_of_bears h hl (bear a List.mem_cons_self))
    rw [first]
    exact ⟨later.link, later.pending, later.call.trans call,
      fun id topic ho => (later.cell id topic ho).trans (cell id topic ho)⟩

/-- Whatever comes first, each answer may as well come last. -/
theorem settled_of_answering (h : Traced config c past) {link : ActiveLink} (hl : c.link = some link)
    {answers : List (String × Frame)} (bear : ∀ a ∈ answers, Bears config a.1 a.2)
    (apart : (answers.map (·.2.sequence)).Nodup) {a : String × Frame} (ha : a ∈ answers)
    {p : Pending Purpose} (hp : c.correlator.pending.find? a.2.sequence = some p) :
    Settled c (c.run (answering link.generation answers)) link.generation a.2 p := by
  obtain ⟨front, back, rfl⟩ := List.append_of_mem ha
  have perm : (front ++ a :: back).Perm ((front ++ back) ++ [a]) :=
    List.perm_middle.trans (List.perm_append_singleton _ _).symm
  have kept : ∀ b ∈ front ++ back, Bears config b.1 b.2 := fun b hb =>
    bear b (perm.mem_iff.mpr (List.mem_append_left _ hb))
  have others : ∀ b ∈ front ++ back, a.2.sequence ≠ b.2.sequence := by
    intro b hb same
    rw [List.map_append, List.map_cons, List.nodup_middle, ← List.map_append] at apart
    exact (List.nodup_cons.mp apart).1 (same ▸ List.mem_map_of_mem hb)
  have spared := spared_run h hl kept hp others
  have before := lasting_run (lasting_traced config) h (answering link.generation (front ++ back))
  have last : c.run (answering link.generation (front ++ back ++ [a])) =
      (c.run (answering link.generation (front ++ back))).heeding link.generation a.2 := by
    rw [answering, List.map_append, run, List.foldl_append]
    exact message_of_bears before spared.link (bear a ha)
  have settled := (completed_heeding before spared.link spared.pending).settled
  rw [run_answering_perm h perm bear apart, last]
  refine ⟨settled.gone, ?_, fun id topic ho => ?_⟩
  · rw [settled.call, spared.call]
  · rw [settled.cell id topic ho, spared.cell id topic ho, Table.contains, spared.call]
    rfl

/-- In every run, answers to different requests may come in any order: the client ends up the same, with
the same outcomes for its calls and the same items on its handles. Each of them does to its call and to
its subscription what it would have done alone. -/
theorem answers_in_any_order (config : FrameConfig) (steps : List Step) :
    (∀ g text other f k, Bears config text f → Bears config other k → f.sequence ≠ k.sequence →
      (((fresh config).run steps).message g text).message g other =
        (((fresh config).run steps).message g other).message g text) ∧
    (∀ g answers others, answers.Perm others → (∀ a ∈ answers, Bears config a.1 a.2) →
      (answers.map (·.2.sequence)).Nodup →
      ((fresh config).run steps).run (answering g answers) =
        ((fresh config).run steps).run (answering g others)) ∧
    ∀ g answers, ((fresh config).run steps).isCurrent g = true →
      (∀ a ∈ answers, Bears config a.1 a.2) → (answers.map (·.2.sequence)).Nodup →
      ∀ a ∈ answers, ∀ p, ((fresh config).run steps).correlator.pending.find? a.2.sequence = some p →
        Settled ((fresh config).run steps) (((fresh config).run steps).run (answering g answers)) g a.2 p := by
  have h := traced_run config steps
  refine ⟨fun g text other f k bears bears' apart => message_comm h bears bears' apart,
    fun g answers others perm bear apart => run_answering_perm h perm bear apart, ?_⟩
  intro g answers hg bear apart a ha p hp
  obtain ⟨link, hl, rfl⟩ := isCurrent_iff.mp hg
  exact settled_of_answering h hl bear apart ha hp

/-- On its second link a client restores a subscription, and it has left another one and asked for
something else. -/
def crowded : List Step :=
  [.attach none, .subscribe .events, .message 1 "[1,2,1,\x7b\x7d]", .attach none,
    .message 2 "[1,4,0,\x7b\"dt\":\"CONNECTION_INFO\",\"data\":\x7b\x7d\x7d]", .subscribe .time, .cancel 3,
    .request ⟨"links", "list", none⟩]

def crowdedAnswers : List (String × Frame) :=
  [("[1,3,2,\x7b\"et\":\"Gone\"\x7d]", ⟨1, .exception, 2, .object [("et", .string "Gone")]⟩),
    ("[1,2,3,\x7b\x7d]", ⟨1, .reply, 3, .object []⟩), ("[1,2,4,\x7b\x7d]", ⟨1, .reply, 4, .object []⟩)]

theorem crowded_in_any_order :
    ((fresh {}).run crowded).run (answering 2 crowdedAnswers) =
        ((fresh {}).run crowded).run (answering 2 crowdedAnswers.reverse) ∧
      Settled ((fresh {}).run crowded) (((fresh {}).run crowded).run (answering 2 crowdedAnswers)) 2
        ⟨1, .exception, 2, .object [("et", .string "Gone")]⟩ ⟨2, 2, .replay 1 .events⟩ ∧
      ((((fresh {}).run crowded).run (answering 2 crowdedAnswers.reverse)).handles.find? 1).map
        (·.queue) = some [.error (.serverException "Gone" "")] := by
  have bear : ∀ a ∈ crowdedAnswers, Bears {} a.1 a.2 := by
    refine List.forall_mem_cons.mpr ⟨⟨?_, rfl⟩, List.forall_mem_cons.mpr ⟨⟨?_, rfl⟩,
      List.forall_mem_singleton.mpr ⟨?_, rfl⟩⟩⟩
    all_goals decide +kernel
  obtain ⟨-, any, each⟩ := answers_in_any_order {} crowded
  exact ⟨any 2 _ _ crowdedAnswers.reverse_perm.symm bear (by decide),
    each 2 _ (by decide +kernel) bear (by decide) _ List.mem_cons_self _ (by decide +kernel),
    by decide +kernel⟩

end Client

end Telemux
