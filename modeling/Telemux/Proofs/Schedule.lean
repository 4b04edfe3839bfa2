import Telemux.Proofs.Standing

namespace Telemux

/-- What happens to the task of a link and, beside it, to the link. -/
inductive TaskEvent where
  | started (queue : List Inbound)
  | queued (item : Inbound)
  | left
  | took (item : Inbound)
  | exhausted
  | displaced
  | detached
  | stopped
  deriving DecidableEq

/-- What can become of the task of one link, and of the use of that link: what has happened, latest
first, the task, and whether the link is the one in use. -/
inductive Life : List TaskEvent → LinkTask → Bool → Prop
  | started (queue : List Inbound) : Life [.started queue] ⟨queue, true, none⟩ true
  | queued {past queue inUse} (item : Inbound) : Life past ⟨queue, true, none⟩ inUse →
    Life (.queued item :: past) ⟨queue ++ [item], true, none⟩ inUse
  | left {past queue ended inUse} : Life past ⟨queue, true, ended⟩ inUse →
    Life (.left :: past) ⟨queue, false, ended⟩ inUse
  | took {past item rest attended inUse} (goes : item.isClosed = false) :
    Life past ⟨item :: rest, attended, none⟩ inUse →
    Life (.took item :: past) ⟨rest, attended, none⟩ inUse
  | closed {past reason rest attended inUse} :
    Life past ⟨.closed reason :: rest, attended, none⟩ inUse →
    Life (.took (.closed reason) :: past) ⟨rest, attended, some reason⟩ false
  | exhausted {past inUse} : Life past ⟨[], false, none⟩ inUse →
    Life (.exhausted :: past) ⟨[], false, some .unannounced⟩ false
  | displaced {past task} : Life past task true → Life (.displaced :: past) task false
  | detached {past task} : Life past task true → Life (.detached :: past) task false
  | stopped {past queue attended} : Life past ⟨queue, attended, none⟩ false →
    Life (.stopped :: past) ⟨queue, attended, some .here⟩ false

namespace Hub

/-- What can happen to a client and the tasks of its links. The tasks may be scheduled in any order. -/
inductive Step where
  | call (s : { s : Client.Step // s.isLinked = false })
  | attach (queue : List Inbound) (room : Option Nat)
  | word (generation : Nat) (item : Inbound)
  | leave (generation : Nat)
  | handle (generation : Nat)
  | stop (generation : Nat)
  deriving DecidableEq

/-- The other side of a link can put words on the queue of its task until it leaves or the task has
ended. -/
def step (h : Hub) : Step → Hub
  | .call s => { h with client := h.client.step s }
  | .attach queue room => (h.attachLink queue room).1
  | .word generation item =>
    if (h.tasks.find? generation).any (·.attended) then h.push generation item else h
  | .leave generation =>
    { h with tasks := h.tasks.adjust generation fun t => { t with attended := false } }
  | .handle generation => h.handle generation
  | .stop generation => h.stop generation

def run (h : Hub) (steps : List Step) : Hub :=
  steps.foldl step h

/-- What a step does to the tasks, in order, with the generations of their links. -/
def events (h : Hub) : Step → List (Nat × TaskEvent)
  | .call s =>
    if s.val = .close ∧ h.client.closed = false then
      h.client.standing.inUse.toList.map (·, .detached)
    else []
  | .attach queue _ =>
    if h.client.closed then []
    else h.client.standing.inUse.toList.map (·, .displaced) ++
      [(h.client.generation + 1, .started queue)]
  | .word generation item =>
    match h.tasks.find? generation with
    | some ⟨_, true, none⟩ => [(generation, .queued item)]
    | _ => []
  | .leave generation =>
    match h.tasks.find? generation with
    | some ⟨_, true, _⟩ => [(generation, .left)]
    | _ => []
  | .handle generation =>
    match h.tasks.find? generation with
    | some ⟨item :: _, _, none⟩ => [(generation, .took item)]
    | some ⟨[], false, none⟩ => [(generation, .exhausted)]
    | _ => []
  | .stop generation =>
    match h.tasks.find? generation with
    | some ⟨_, _, none⟩ => if h.client.isCurrent generation then [] else [(generation, .stopped)]
    | _ => []

/-- What has happened to the tasks after some steps, latest first. -/
def recount (h : Hub) (past : List (Nat × TaskEvent)) : List Step → List (Nat × TaskEvent)
  | [] => past
  | s :: rest => (h.step s).recount ((h.events s).reverse ++ past) rest

def history (config : FrameConfig) (steps : List Step) : List (Nat × TaskEvent) :=
  (fresh config).recount [] steps

/-- The part of a history that is about one link. -/
def log (generation : Nat) (past : List (Nat × TaskEvent)) : List TaskEvent :=
  past.filterMap fun e => if e.1 = generation then some e.2 else none

theorem find?_adjust_of_find {tasks : Table LinkTask} {g : Nat} {task : LinkTask}
    (hg : tasks.find? g = some task) (f : LinkTask → LinkTask) (k : Nat) :
    (tasks.adjust g f).find? k = if k = g then some (f task) else tasks.find? k := by
  rw [Table.find?_adjust]
  split
  next same =>
    rw [same, hg]
    rfl
  next => rfl

variable {config : FrameConfig} {h after : Hub} {past es : List (Nat × TaskEvent)}

theorem log_append (g : Nat) (newer older : List (Nat × TaskEvent)) :
    log g (newer ++ older) = log g newer ++ log g older :=
  List.filterMap_append

theorem log_self (g : Nat) (e : TaskEvent) : log g [(g, e)] = [e] := by
  simp [log]

theorem log_other {g k : Nat} (other : k ≠ g) (e : TaskEvent) : log k [(g, e)] = [] := by
  simp [log, other.symm]

/-- The task of each link goes on as it may, and there is no new one. -/
def Advances (h after : Hub) (es : List (Nat × TaskEvent)) : Prop :=
  ∀ g, match h.tasks.find? g, after.tasks.find? g with
    | none, none => log g es = []
    | some old, some new => ∀ past, Life past old (h.client.isCurrent g) →
      Life (log g es ++ past) new (after.client.isCurrent g)
    | _, _ => False

theorem Advances.same (tasks : ∀ g, after.tasks.find? g = h.tasks.find? g)
    (current : ∀ g, after.client.isCurrent g = h.client.isCurrent g) : Advances h after [] := by
  intro g
  rw [tasks g, current g]
  cases h.tasks.find? g with
  | none => rfl
  | some task => exact fun past alive => alive

theorem Advances.one {g : Nat} {old new : LinkTask} {e : TaskEvent} (ho : h.tasks.find? g = some old)
    (hn : ∀ k, after.tasks.find? k = if k = g then some new else h.tasks.find? k)
    (others : ∀ k, k ≠ g → after.client.isCurrent k = h.client.isCurrent k)
    (goes : ∀ past, Life past old (h.client.isCurrent g) →
      Life (e :: past) new (after.client.isCurrent g)) : Advances h after [(g, e)] := by
  intro k
  rw [hn k]
  by_cases same : k = g
  · subst same
    rw [ho, if_pos rfl, log_self]
    exact goes
  · rw [if_neg same, log_other same, others k same]
    cases h.tasks.find? k with
    | none => rfl
    | some task => exact fun past alive => alive

section

variable {heard : List Client.Event}

theorem advances_handle (ht : Client.Traced config h.client heard) (g : Nat) :
    Advances h (h.handle g) (h.events (.handle g)).reverse := by
  cases hg : h.tasks.find? g with
  | none =>
    simp only [handle, events, hg]
    exact .same (fun _ => rfl) fun _ => rfl
  | some task =>
    obtain ⟨queue, attended, ended⟩ := task
    have closing : ∀ k, k ≠ g → (h.client.closeLink g).isCurrent k = h.client.isCurrent k := by
      intro k other
      simp [Client.isCurrent_closeLink, other]
    have gone : (h.client.closeLink g).isCurrent g = false := by simp [Client.isCurrent_closeLink]
    cases ended with
    | some reason =>
      simp only [handle, events, hg]
      exact .same (fun _ => rfl) fun _ => rfl
    | none =>
      cases queue with
      | nil =>
        cases attended with
        | true =>
          simp only [handle, events, hg]
          exact .same (fun _ => rfl) fun _ => rfl
        | false =>
          simp only [handle, events, hg]
          refine .one hg (fun k => Table.find?_insert _ _ _ _) closing fun past alive => ?_
          rw [gone]
          exact .exhausted alive
      | cons item rest =>
        cases item with
        | opened =>
          simp only [handle, events, hg]
          exact .one hg (fun k => Table.find?_insert _ _ _ _) (fun _ _ => rfl) fun past alive =>
            .took rfl alive
        | message text =>
          have kept : ∀ k, (h.client.message g text).isCurrent k = h.client.isCurrent k :=
            Client.isCurrent_congr (Client.standing_step ht (s := .message g text) rfl)
          simp only [handle, events, hg]
          refine .one hg (fun k => Table.find?_insert _ _ _ _) (fun k _ => kept k) fun past alive => ?_
          rw [kept]
          exact .took rfl alive
        | closed reason =>
          simp only [handle, events, hg]
          refine .one hg (fun k => Table.find?_insert _ _ _ _) closing fun past alive => ?_
          rw [gone]
          exact .closed alive

theorem advances_stop (h : Hub) (g : Nat) : Advances h (h.stop g) (h.events (.stop g)).reverse := by
  cases hg : h.tasks.find? g with
  | none =>
    simp only [stop, events, hg]
    exact .same (fun _ => rfl) fun _ => rfl
  | some task =>
    obtain ⟨queue, attended, ended⟩ := task
    cases ended with
    | some reason =>
      simp only [stop, events, hg]
      exact .same (fun _ => rfl) fun _ => rfl
    | none =>
      cases current : h.client.isCurrent g with
      | true =>
        simp only [stop, events, hg, current, if_true]
        exact .same (fun _ => rfl) fun _ => rfl
      | false =>
        simp only [stop, events, hg, current, Bool.false_eq_true, if_false]
        refine .one hg (fun k => Table.find?_insert _ _ _ _) (fun _ _ => rfl) fun past alive => ?_
        rw [current] at alive ⊢
        exact .stopped alive

theorem advances_word (h : Hub) (g : Nat) (item : Inbound) :
    Advances h (h.step (.word g item)) (h.events (.word g item)).reverse := by
  cases hg : h.tasks.find? g with
  | none =>
    simp only [step, events, hg]
    exact .same (fun _ => rfl) fun _ => rfl
  | some task =>
    obtain ⟨queue, attended, ended⟩ := task
    cases attended with
    | false =>
      simp only [step, events, hg]
      exact .same (fun _ => rfl) fun _ => rfl
    | true =>
      cases ended with
      | some reason =>
        simp only [step, events, hg, push, isListening]
        exact .same (fun _ => rfl) fun _ => rfl
      | none =>
        have put : h.step (.word g item) = { h with
            tasks := h.tasks.adjust g fun t => { t with queue := t.queue ++ [item] } } := by
          simp [step, hg, push, isListening]
        rw [put]
        simp only [events, hg]
        exact .one hg (find?_adjust_of_find hg _) (fun _ _ => rfl) fun past alive => .queued item alive

theorem advances_leave (h : Hub) (g : Nat) :
    Advances h (h.step (.leave g)) (h.events (.leave g)).reverse := by
  cases hg : h.tasks.find? g with
  | none =>
    simp only [step, events, hg]
    refine .same (fun k => ?_) fun _ => rfl
    rw [Table.find?_adjust]
    split
    next same =>
      rw [same, hg]
      rfl
    next => rfl
  | some task =>
    obtain ⟨queue, attended, ended⟩ := task
    cases attended with
    | false =>
      simp only [step, events, hg]
      refine .same (fun k => ?_) fun _ => rfl
      rw [find?_adjust_of_find hg]
      split
      next same => rw [same, hg]
      next => rfl
    | true =>
      simp only [step, events, hg]
      exact .one hg (find?_adjust_of_find hg _) (fun _ _ => rfl) fun past alive => .left alive

/-- What is known of a hub after a run: its client has come about as clients do, its links are
numbered from one on and have a task each, and every task is in the middle of its life. -/
structure Lives (config : FrameConfig) (h : Hub) (past : List (Nat × TaskEvent)) : Prop where
  traced : ∃ heard, Client.Traced config h.client heard
  attached : ∀ g, h.tasks.contains g = true ↔ 1 ≤ g ∧ g ≤ h.client.generation
  served : ∀ g, h.client.isCurrent g = true → h.tasks.contains g = true
  unborn : ∀ g, h.tasks.find? g = none → log g past = []
  alive : ∀ g task, h.tasks.find? g = some task → Life (log g past) task (h.client.isCurrent g)

theorem lives_fresh (config : FrameConfig) : Lives config (fresh config) [] := by
  refine ⟨⟨[], .start⟩, fun g => ?_, fun g current => ?_, fun _ _ => rfl, fun g task found => ?_⟩
  · simp only [fresh, Table.contains, Table.find?_empty]
    constructor
    · intro some
      cases some
    · rintro ⟨low, high⟩
      have none : g ≤ 0 := high
      omega
  · cases current
  · cases found

theorem Advances.contains (advances : Advances h after es) (g : Nat) :
    after.tasks.contains g = h.tasks.contains g := by
  have advance := advances g
  unfold Table.contains
  cases ho : h.tasks.find? g with
  | none =>
    cases hn : after.tasks.find? g with
    | none => rfl
    | some new =>
      rw [ho, hn] at advance
      exact advance.elim
  | some old =>
    cases hn : after.tasks.find? g with
    | none =>
      rw [ho, hn] at advance
      exact advance.elim
    | some new => rfl

theorem Lives.next (lives : Lives config h past) (advances : Advances h after es)
    (traced : ∃ heard, Client.Traced config after.client heard)
    (generation : after.client.generation = h.client.generation)
    (used : ∀ g, after.client.isCurrent g = true → h.client.isCurrent g = true) :
    Lives config after (es ++ past) := by
  refine ⟨traced, fun g => ?_, fun g hg => ?_, fun g hg => ?_, fun g task hg => ?_⟩
  · rw [advances.contains, generation]
    exact lives.attached g
  · rw [advances.contains]
    exact lives.served g (used g hg)
  · have advance := advances g
    rw [hg] at advance
    cases ho : h.tasks.find? g with
    | none =>
      rw [ho] at advance
      rw [log_append, lives.unborn g ho, show log g es = [] from advance]
      rfl
    | some old =>
      rw [ho] at advance
      exact advance.elim
  · have advance := advances g
    rw [hg] at advance
    cases ho : h.tasks.find? g with
    | none =>
      rw [ho] at advance
      exact advance.elim
    | some old =>
      rw [ho] at advance
      rw [log_append]
      exact advance _ (lives.alive g old ho)

theorem Lives.quiet (lives : Lives config h past) (advances : Advances h after es)
    (same : after.client = h.client) : Lives config after (es ++ past) := by
  refine lives.next advances ?_ (congrArg _ same) fun g hg => by rwa [same] at hg
  rw [same]
  exact lives.traced

/-- A link is taken into use while there is none. -/
theorem Lives.begin (lives : Lives config h past) (free : h.client.standing.inUse = none) {g : Nat}
    (next : g = h.client.generation + 1) {queue : List Inbound} {closed : Bool}
    (standing : after.client.standing = ⟨some g, g, closed⟩)
    (tasks : after.tasks = h.tasks.insert g ⟨queue, true, none⟩)
    (traced : ∃ heard, Client.Traced config after.client heard) :
    Lives config after ((g, .started queue) :: past) := by
  have generation : after.client.generation = g := congrArg Client.Standing.generation standing
  have current : ∀ k, after.client.isCurrent k = decide (g = k) := by
    intro k
    rw [Client.isCurrent_eq, standing]
    simp
  have unused : ∀ k, h.client.isCurrent k = false := by
    intro k
    rw [Client.isCurrent_eq, free]
    rfl
  have new : h.tasks.find? g = none := by
    refine Option.not_isSome_iff_eq_none.mp fun there => ?_
    have old := ((lives.attached _).mp there).2
    omega
  have found : ∀ k, after.tasks.find? k =
      if k = g then some ⟨queue, true, none⟩ else h.tasks.find? k := by
    rw [tasks]
    exact fun k => Table.find?_insert _ _ _ _
  have told : ∀ k, log k ((g, TaskEvent.started queue) :: past) =
      log k [(g, .started queue)] ++ log k past := fun k => log_append k [_] past
  refine ⟨traced, fun k => ?_, fun k hk => ?_, fun k hk => ?_, fun k task hk => ?_⟩
  · have before := lives.attached k
    unfold Table.contains at before ⊢
    rw [found, generation]
    split
    next same => exact iff_of_true rfl ⟨by omega, by omega⟩
    next other =>
      rw [before]
      omega
  · rw [current] at hk
    rw [Table.contains, found, if_pos (of_decide_eq_true hk).symm]
    rfl
  · rw [found] at hk
    split at hk
    next => cases hk
    next other =>
      rw [told, log_other other, lives.unborn k hk]
      rfl
  · rw [found] at hk
    rw [told, current]
    split at hk
    next same =>
      subst same
      cases hk
      rw [log_self, lives.unborn _ new, decide_eq_true rfl]
      exact .started queue
    next other =>
      rw [log_other other, decide_eq_false (Ne.symm other), ← unused k]
      exact lives.alive k task hk

/-- The link in use goes out of use, and that is noted. -/
theorem Lives.out (lives : Lives config h past) {e : TaskEvent}
    (goes : ∀ {past task}, Life past task true → Life (e :: past) task false)
    (tasks : after.tasks = h.tasks) (traced : ∃ heard, Client.Traced config after.client heard)
    (generation : after.client.generation = h.client.generation)
    (unused : ∀ g, after.client.isCurrent g = false) :
    Lives config after ((h.client.standing.inUse.toList.map (·, e)).reverse ++ past) := by
  have used : ∀ g, after.client.isCurrent g = true → h.client.isCurrent g = true := by
    intro g hg
    rw [unused] at hg
    cases hg
  refine lives.next ?_ traced generation used
  cases inUse : h.client.standing.inUse with
  | none =>
    refine .same (fun _ => by rw [tasks]) fun g => ?_
    rw [unused, Client.isCurrent_eq, inUse]
    rfl
  | some g =>
    have current : ∀ k, h.client.isCurrent k = decide (g = k) := by
      intro k
      rw [Client.isCurrent_eq, inUse]
      simp
    obtain ⟨task, found⟩ := Option.isSome_iff_exists.mp (lives.served g (by simp [current]))
    have kept : ∀ k, after.tasks.find? k = if k = g then some task else h.tasks.find? k := by
      intro k
      rw [tasks]
      split
      next same => rw [same, found]
      next => rfl
    refine .one found kept (fun k other => ?_) fun past alive => ?_
    · rw [unused, current, decide_eq_false (Ne.symm other)]
    · rw [current, decide_eq_true rfl] at alive
      rw [unused]
      exact goes alive

theorem lives_of_call (lives : Lives config h past) (s : { s : Client.Step // s.isLinked = false }) :
    Lives config (h.step (.call s)) ((h.events (.call s)).reverse ++ past) := by
  obtain ⟨heard, ht⟩ := lives.traced
  obtain ⟨s, own⟩ := s
  have traced : ∃ heard, Client.Traced config (h.client.step s) heard :=
    ⟨_, Client.lasting_step (Client.lasting_traced config) ht s⟩
  by_cases closes : s = .close ∧ h.client.closed = false
  · have told : h.events (.call ⟨s, own⟩) = h.client.standing.inUse.toList.map (·, .detached) :=
      if_pos closes
    obtain ⟨rfl, -⟩ := closes
    have standing : (h.client.step .close).standing = ⟨none, h.client.generation, true⟩ :=
      Client.standing_close ht
    rw [told]
    refine lives.out .detached rfl traced (congrArg Client.Standing.generation standing) fun g => ?_
    have unused := Client.isCurrent_eq (h.client.step .close) g
    rw [standing] at unused
    exact unused
  · have nothing : h.events (.call ⟨s, own⟩) = [] := if_neg closes
    have standing : (h.client.step s).standing = h.client.standing := by
      by_cases close : s = .close
      · subst close
        have shut : h.client.closed = true := by simpa using closes
        exact congrArg Client.standing (if_pos shut)
      · refine Client.standing_step ht ?_
        cases s <;> first | rfl | exact absurd rfl close | cases own
    rw [nothing]
    exact lives.next (.same (fun _ => rfl) (Client.isCurrent_congr standing)) traced
      (congrArg Client.Standing.generation standing)
      fun g hg => (Client.isCurrent_congr standing g).symm.trans hg

theorem lives_of_attach (lives : Lives config h past) (queue : List Inbound) (room : Option Nat) :
    Lives config (h.step (.attach queue room)) ((h.events (.attach queue room)).reverse ++ past) := by
  obtain ⟨heard, ht⟩ := lives.traced
  cases hc : h.client.closed with
  | true =>
    have same : (h.step (.attach queue room)).client = h.client ∧
        (h.step (.attach queue room)).tasks = h.tasks := by
      simp [step, attachLink, Client.attach, hc]
    have nothing : h.events (.attach queue room) = [] := if_pos hc
    rw [nothing]
    exact lives.quiet (.same (fun _ => by rw [same.2]) fun _ => by rw [same.1]) same.1
  | false =>
    obtain ⟨standing, answer⟩ := Client.standing_attach hc room
    have attached : (h.step (.attach queue room)).client = (h.client.attach room).1 ∧
        (h.step (.attach queue room)).tasks =
          h.tasks.insert (h.client.generation + 1) ⟨queue, true, none⟩ := by
      have both : h.client.attach room = ((h.client.attach room).1, .ok (h.client.generation + 1)) :=
        Prod.ext rfl answer
      simp only [step, attachLink]
      rw [both]
      exact ⟨rfl, rfl⟩
    have told : (h.events (.attach queue room)).reverse = (h.client.generation + 1, .started queue) ::
        (h.client.standing.inUse.toList.map (·, TaskEvent.displaced)).reverse := by
      simp [events, hc]
    -- First the link in use goes, then the new one takes the free place.
    have cleared := Client.standing_cleared h.client
    have generation : h.client.cleared.generation = h.client.generation :=
      congrArg Client.Standing.generation cleared
    have without : Lives config { h with client := h.client.cleared } _ :=
      lives.out .displaced rfl (Client.traced_cleared ht) generation fun g => by
        have unused := Client.isCurrent_eq h.client.cleared g
        rw [cleared] at unused
        exact unused
    have traced : ∃ heard, Client.Traced config (h.client.attach room).1 heard :=
      ⟨_, Client.lasting_step (Client.lasting_traced config) ht (.attach room)⟩
    rw [told]
    have now := (congrArg Client.standing attached.1).trans standing
    refine without.begin (congrArg Client.Standing.inUse cleared) ?_ now attached.2 ?_
    · exact congrArg (· + 1) generation.symm
    · rw [attached.1]
      exact traced

theorem lives_of_handle (lives : Lives config h past) (g : Nat) :
    Lives config (h.handle g) ((h.events (.handle g)).reverse ++ past) := by
  obtain ⟨heard, ht⟩ := lives.traced
  have advances := advances_handle ht g
  have traced : ∀ s, ∃ heard, Client.Traced config (h.client.step s) heard :=
    fun s => ⟨_, Client.lasting_step (Client.lasting_traced config) ht s⟩
  rcases h.client_of_handle g with same | ⟨text, said⟩ | ended
  · exact lives.quiet advances same
  · have standing := Client.standing_step ht (s := .message g text) rfl
    refine lives.next advances (by rw [said]; exact traced _) ?_ fun k hk => ?_
    · rw [said]
      exact congrArg Client.Standing.generation standing
    · rwa [said, Client.isCurrent_congr standing] at hk
  · refine lives.next advances (by rw [ended]; exact traced _) ?_ fun k hk => ?_
    · rw [ended]
      exact (Client.standing_closeLink h.client g).1
    · rw [ended] at hk
      have left := (Client.isCurrent_closeLink h.client g k).symm.trans hk
      exact (Bool.and_eq_true_iff.mp left).1

theorem lives_step (lives : Lives config h past) (s : Step) :
    Lives config (h.step s) ((h.events s).reverse ++ past) := by
  cases s with
  | call s => exact lives_of_call lives s
  | attach queue room => exact lives_of_attach lives queue room
  | handle g => exact lives_of_handle lives g
  | stop g => exact lives.quiet (advances_stop h g) (h.client_stop g)
  | word g item =>
    have same : (h.step (.word g item)).client = h.client := by
      simp only [step, push]
      split
      next => split <;> rfl
      next => rfl
    exact lives.quiet (advances_word h g item) same
  | leave g => exact lives.quiet (advances_leave h g) rfl

/-- In every run, whatever the order of the tasks, each of them is in the middle of its life. -/
theorem lives_run (lives : Lives config h past) (steps : List Step) :
    Lives config (h.run steps) (h.recount past steps) := by
  induction steps generalizing h past with
  | nil => exact lives
  | cons s rest ih => exact ih (lives_step lives s)

end

end Hub

end Telemux
