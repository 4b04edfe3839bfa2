import Telemux.Proofs.Settling

namespace Telemux

/-- The reason with which a task ends in an event, if it does. -/
def TaskEvent.ending? : TaskEvent → Option CloseReason
  | .took (.closed reason) => some reason
  | .exhausted => some .unannounced
  | .stopped => some .here
  | _ => none

/-- Whether a link goes out of use in an event. -/
def TaskEvent.loses : TaskEvent → Bool
  | .took item => item.isClosed
  | .exhausted | .displaced | .detached => true
  | _ => false

/-- All that was ever queued for a task, in order. -/
def queuedIn : List TaskEvent → List Inbound
  | [] => []
  | .started queue :: past => queuedIn past ++ queue
  | .queued item :: past => queuedIn past ++ [item]
  | _ :: past => queuedIn past

/-- What a task has taken of it. -/
def takenIn : List TaskEvent → List Inbound
  | [] => []
  | .took item :: past => takenIn past ++ [item]
  | _ :: past => takenIn past

theorem took_of_mem_takenIn {past : List TaskEvent} {item : Inbound} (h : item ∈ takenIn past) :
    .took item ∈ past := by
  induction past with
  | nil => cases h
  | cons e past ih =>
    cases e with
    | took other =>
      rcases List.mem_append.mp h with old | new
      · exact List.mem_cons_of_mem _ (ih old)
      · rw [List.mem_singleton.mp new]
        exact List.mem_cons_self
    | _ => exact List.mem_cons_of_mem _ (ih h)

namespace Life

variable {past : List TaskEvent} {task : LinkTask} {inUse : Bool}

/-- A task takes what is queued for it in order. -/
theorem order (h : Life past task inUse) : queuedIn past = takenIn past ++ task.queue := by
  induction h with
  | started queue => rfl
  | @queued past queue inUse item _ ih =>
    show queuedIn past ++ [item] = takenIn past ++ (queue ++ [item])
    rw [ih, List.append_assoc]
  | @took past item rest attended inUse goes _ ih =>
    show queuedIn past = takenIn past ++ [item] ++ rest
    rw [ih, List.append_assoc]
    rfl
  | @closed past reason rest attended inUse _ ih =>
    show queuedIn past = takenIn past ++ [.closed reason] ++ rest
    rw [ih, List.append_assoc]
    rfl
  | left _ ih | exhausted _ ih | displaced _ ih | detached _ ih | stopped _ ih => exact ih

/-- The task of a link in use is running. -/
theorem running (h : Life past task inUse) (used : inUse = true) : task.ended = none := by
  induction h with
  | started | queued | took => rfl
  | left _ ih => exact ih used
  | closed | exhausted | displaced | detached | stopped => cases used

/-- A task ends at most once, and reports the reason of that. -/
theorem once (h : Life past task inUse) : past.filterMap TaskEvent.ending? = task.ended.toList := by
  induction h with
  | started => rfl
  | queued item _ ih => exact ih
  | left _ ih => exact ih
  | @took past item rest attended inUse goes _ ih =>
    cases item with
    | closed reason => cases goes
    | opened | message => exact ih
  | closed _ ih => exact congrArg (_ :: ·) ih
  | exhausted _ ih => exact congrArg (_ :: ·) ih
  | displaced _ ih => exact ih
  | detached _ ih => exact ih
  | stopped _ ih => exact congrArg (_ :: ·) ih

theorem ending?_of_running (h : Life past task inUse) (runs : task.ended = none) {e : TaskEvent}
    (he : e ∈ past) : e.ending? = none := by
  have nothing := h.once
  rw [runs] at nothing
  exact List.filterMap_eq_nil_iff.mp nothing e he

theorem open_of_running (h : Life past task inUse) (runs : task.ended = none) :
    ∀ item ∈ takenIn past, item.isClosed = false := by
  intro item taken
  have quiet := h.ending?_of_running runs (took_of_mem_takenIn taken)
  cases item with
  | closed reason => cases quiet
  | opened | message => rfl

/-- A link is out of use if, and only if, it was lost. -/
theorem lost (h : Life past task inUse) : inUse = false ↔ ∃ e ∈ past, e.loses = true := by
  induction h with
  | started queue => simp [TaskEvent.loses]
  | queued item _ ih => simpa [TaskEvent.loses] using ih
  | left _ ih => simpa [TaskEvent.loses] using ih
  | took goes _ ih => simpa [TaskEvent.loses, goes] using ih
  | closed | exhausted | displaced | detached => simp [TaskEvent.loses, Inbound.isClosed]
  | stopped _ ih => simpa [TaskEvent.loses] using ih

theorem left_of_unattended (h : Life past task inUse) (gone : task.attended = false) : .left ∈ past := by
  induction h with
  | started | queued => cases gone
  | left => exact List.mem_cons_self
  | exhausted _ ih => exact List.mem_cons_of_mem _ (ih rfl)
  | took _ _ ih | closed _ ih | displaced _ ih | detached _ ih | stopped _ ih =>
    exact List.mem_cons_of_mem _ (ih gone)

/-- A running task is stopped only when another link took the place of its own or the client closed. -/
theorem taken_away (h : Life past task false) (runs : task.ended = none) :
    .displaced ∈ past ∨ .detached ∈ past := by
  obtain ⟨e, he, loses⟩ := h.lost.mp rfl
  have quiet := h.ending?_of_running runs he
  cases e with
  | displaced => exact .inl he
  | detached => exact .inr he
  | took item =>
    cases item with
    | closed reason => cases quiet
    | opened | message => cases loses
  | exhausted => cases quiet
  | started | queued | left | stopped => cases loses

theorem stopped_after (h : Life past task inUse) {later earlier : List TaskEvent}
    (hs : past = later ++ .stopped :: earlier) : .displaced ∈ earlier ∨ .detached ∈ earlier := by
  induction h generalizing later with
  | started queue =>
    cases later with
    | nil => cases hs
    | cons e later => simp at hs
  | stopped alive ih =>
    cases later with
    | nil =>
      cases hs
      exact alive.taken_away rfl
    | cons e later => exact ih (List.cons.inj hs).2
  | queued _ _ ih | left _ ih | took _ _ ih | closed _ ih | exhausted _ ih | displaced _ ih
  | detached _ ih =>
    cases later with
    | nil => cases hs
    | cons e later => exact ih (List.cons.inj hs).2

/-- How a task has come to report a reason. -/
inductive Ended (past : List TaskEvent) (queue : List Inbound) : CloseReason → Prop
  | closed {front : List Inbound} {reason : CloseReason} (taken : takenIn past = front ++ [.closed reason])
    (first : ∀ item ∈ front, item.isClosed = false) : Ended past queue reason
  | exhausted (exhausted : .exhausted ∈ past) (left : .left ∈ past) (empty : queue = [])
    (unannounced : ∀ item ∈ queuedIn past, item.isClosed = false) : Ended past queue .unannounced
  | stopped (stopped : .stopped ∈ past) (unannounced : ∀ item ∈ takenIn past, item.isClosed = false) :
    Ended past queue .here

theorem ended (h : Life past task inUse) {reason : CloseReason} (ends : task.ended = some reason) :
    Ended past task.queue reason := by
  induction h with
  | started | queued | took => cases ends
  | closed alive =>
    cases ends
    exact .closed rfl (alive.open_of_running rfl)
  | @exhausted past inUse alive =>
    cases ends
    have all : queuedIn past = takenIn past ++ [] := alive.order
    rw [List.append_nil] at all
    refine .exhausted List.mem_cons_self (List.mem_cons_of_mem _ (alive.left_of_unattended rfl)) rfl ?_
    exact fun item hi => alive.open_of_running rfl item (all ▸ hi)
  | stopped alive =>
    cases ends
    exact .stopped List.mem_cons_self (alive.open_of_running rfl)
  | displaced alive | detached alive =>
    rw [alive.running rfl] at ends
    cases ends
  | left _ ih =>
    cases ih ends with
    | closed taken first => exact .closed taken first
    | exhausted exhausted left empty unannounced =>
      exact .exhausted (List.mem_cons_of_mem _ exhausted) List.mem_cons_self empty unannounced
    | stopped stopped unannounced => exact .stopped (List.mem_cons_of_mem _ stopped) unannounced

end Life

/-- What is known of a task: what it has taken is what was queued first, it ends at most once, its link is
out of use exactly when it was lost, the reason that it reports is that of its end, and it was only
stopped when its link was taken away. -/
structure TaskFate (past : List TaskEvent) (task : LinkTask) (inUse : Bool) : Prop where
  order : queuedIn past = takenIn past ++ task.queue
  once : past.filterMap TaskEvent.ending? = task.ended.toList
  lost : inUse = false ↔ ∃ e ∈ past, e.loses = true
  reason : ∀ reason, task.ended = some reason → Life.Ended past task.queue reason
  stopped : ∀ later earlier, past = later ++ .stopped :: earlier → .displaced ∈ earlier ∨ .detached ∈ earlier

theorem Life.fate {past : List TaskEvent} {task : LinkTask} {inUse : Bool} (h : Life past task inUse) :
    TaskFate past task inUse where
  order := h.order
  once := h.once
  lost := h.lost
  reason _ ends := h.ended ends
  stopped _ _ hs := h.stopped_after hs

/-- What is queued up to the first word that the link has closed. -/
def untilClosed : List Inbound → List Inbound
  | [] => []
  | item :: rest => if item.isClosed then [item] else item :: untilClosed rest

theorem untilClosed_append {front : List Inbound} (closes : ∃ item ∈ front, item.isClosed = true)
    (behind : List Inbound) : untilClosed (front ++ behind) = untilClosed front := by
  induction front with
  | nil =>
    obtain ⟨item, hi, -⟩ := closes
    cases hi
  | cons item rest ih =>
    simp only [List.cons_append, untilClosed]
    split
    next => rfl
    next goes =>
      obtain ⟨other, ho, closed⟩ := closes
      rcases List.mem_cons.mp ho with rfl | later
      · exact absurd closed goes
      · rw [ih ⟨other, later, closed⟩]

theorem untilClosed_eq_nil {xs : List Inbound} (h : untilClosed xs = []) : xs = [] := by
  cases xs with
  | nil => rfl
  | cons x xs =>
    unfold untilClosed at h
    split at h <;> cases h

theorem exists_of_untilClosed {x : Inbound} {xs ys : List Inbound}
    (same : untilClosed (x :: xs) = untilClosed ys) :
    ∃ rest, ys = x :: rest ∧ (x.isClosed = false → untilClosed xs = untilClosed rest) := by
  cases ys with
  | nil => cases untilClosed_eq_nil same
  | cons y ys =>
    have first : x = y := by
      simp only [untilClosed] at same
      split at same <;> split at same <;> exact (List.cons.inj same).1
    subst first
    refine ⟨ys, rfl, fun goes => ?_⟩
    simpa [untilClosed, goes] using same

theorem untilClosed_congr {xs ys : List Inbound} (same : untilClosed xs = untilClosed ys)
    (behind : List Inbound) : untilClosed (xs ++ behind) = untilClosed (ys ++ behind) := by
  induction xs generalizing ys with
  | nil => rw [untilClosed_eq_nil same.symm]
  | cons x xs ih =>
    obtain ⟨rest, rfl, later⟩ := exists_of_untilClosed same
    simp only [List.cons_append, untilClosed]
    split
    next => rfl
    next goes => rw [ih (later (by simpa using goes))]

/-- Two tasks differ at most in what is queued behind the first word that the link has closed, or at all
once they have ended. -/
structure LinkTask.Alike (t u : LinkTask) : Prop where
  attended : t.attended = u.attended
  ended : t.ended = u.ended
  queue : t.ended = none → untilClosed t.queue = untilClosed u.queue

namespace Hub

/-- Two hubs whose tasks are alike. -/
structure Alike (h k : Hub) : Prop where
  client : h.client = k.client
  lines : h.lines = k.lines
  tasks : ∀ g, Option.Rel LinkTask.Alike (h.tasks.find? g) (k.tasks.find? g)

variable {h k : Hub} {g : Nat}

theorem Alike.refl (h : Hub) : h.Alike h := by
  refine ⟨rfl, rfl, fun g => ?_⟩
  cases h.tasks.find? g with
  | none => exact .none
  | some task => exact .some ⟨rfl, rfl, fun _ => rfl⟩

theorem Alike.find? (alike : h.Alike k) (g : Nat) :
    h.tasks.find? g = none ∧ k.tasks.find? g = none ∨
      ∃ queue queue' attended ended, h.tasks.find? g = some ⟨queue, attended, ended⟩ ∧
        k.tasks.find? g = some ⟨queue', attended, ended⟩ ∧
          (ended = none → untilClosed queue = untilClosed queue') := by
  have both := alike.tasks g
  cases hg : h.tasks.find? g with
  | none =>
    cases hk : k.tasks.find? g with
    | none => exact .inl ⟨rfl, rfl⟩
    | some u =>
      rw [hg, hk] at both
      cases both
  | some t =>
    cases hk : k.tasks.find? g with
    | none =>
      rw [hg, hk] at both
      cases both
    | some u =>
      rw [hg, hk] at both
      cases both with
      | some same =>
        obtain ⟨queue, attended, ended⟩ := t
        obtain ⟨queue', attended', ended'⟩ := u
        obtain ⟨attends, ends, ahead⟩ := same
        cases attends
        cases ends
        exact .inr ⟨queue, queue', attended, ended, rfl, rfl, ahead⟩

/-- Alike hubs stay so when the tasks of one link change alike. -/
theorem Alike.set {after after' : Hub} (alike : h.Alike k) (g : Nat) (t u : LinkTask) (same : t.Alike u)
    (client : after.client = after'.client) (lines : after.lines = after'.lines)
    (first : ∀ i, after.tasks.find? i = if i = g then some t else h.tasks.find? i)
    (second : ∀ i, after'.tasks.find? i = if i = g then some u else k.tasks.find? i) :
    after.Alike after' := by
  refine ⟨client, lines, fun i => ?_⟩
  rw [first, second]
  split
  next => exact .some same
  next => exact alike.tasks i

theorem alike_handle (alike : h.Alike k) (g : Nat) : (h.handle g).Alike (k.handle g) := by
  have client := alike.client
  have lines := alike.lines
  rcases alike.find? g with ⟨hg, hk⟩ | ⟨queue, queue', attended, ended, hg, hk, ahead⟩
  · simpa [handle, hg, hk] using alike
  · cases ended with
    | some reason => simpa [handle, hg, hk] using alike
    | none =>
      have ahead := ahead rfl
      cases queue with
      | nil =>
        cases untilClosed_eq_nil ahead.symm
        cases attended with
        | true => simpa [handle, hg, hk] using alike
        | false =>
          refine alike.set g ⟨[], false, some .unannounced⟩ _ ⟨rfl, rfl, fun _ => rfl⟩ ?_ ?_ ?_ ?_
          all_goals simp [handle, hg, hk, client, lines, Table.find?_insert]
      | cons item rest =>
        obtain ⟨rest', rfl, later⟩ := exists_of_untilClosed ahead
        cases item with
        | opened | message =>
          refine alike.set g ⟨rest, attended, none⟩ ⟨rest', attended, none⟩
            ⟨rfl, rfl, fun _ => later rfl⟩ ?_ ?_ ?_ ?_
          all_goals simp [handle, hg, hk, client, lines, Table.find?_insert]
        | closed reason =>
          refine alike.set g ⟨rest, attended, some reason⟩ ⟨rest', attended, some reason⟩
            ⟨rfl, rfl, fun running => by cases running⟩ ?_ ?_ ?_ ?_
          all_goals simp [handle, hg, hk, client, lines, Table.find?_insert]

theorem alike_stop (alike : h.Alike k) (g : Nat) : (h.stop g).Alike (k.stop g) := by
  have client := alike.client
  have lines := alike.lines
  rcases alike.find? g with ⟨hg, hk⟩ | ⟨queue, queue', attended, ended, hg, hk, ahead⟩
  · simpa [stop, hg, hk] using alike
  · cases ended with
    | some reason => simpa [stop, hg, hk] using alike
    | none =>
      cases current : k.client.isCurrent g with
      | true => simpa [stop, hg, hk, client, current] using alike
      | false =>
        refine alike.set g ⟨queue, attended, some .here⟩ ⟨queue', attended, some .here⟩
          ⟨rfl, rfl, fun running => by cases running⟩ ?_ ?_ ?_ ?_
        all_goals simp [stop, hg, hk, client, lines, current, Table.find?_insert]

theorem alike_word (alike : h.Alike k) (g : Nat) (item : Inbound) :
    (h.step (.word g item)).Alike (k.step (.word g item)) := by
  rcases alike.find? g with ⟨hg, hk⟩ | ⟨queue, queue', attended, ended, hg, hk, ahead⟩
  · simpa [step, hg, hk] using alike
  · cases attended with
    | false => simpa [step, hg, hk] using alike
    | true =>
      cases ended with
      | some reason => simpa [step, push, isListening, hg, hk] using alike
      | none =>
        refine alike.set g ⟨queue ++ [item], true, none⟩ ⟨queue' ++ [item], true, none⟩
          ⟨rfl, rfl, fun _ => untilClosed_congr (ahead rfl) [item]⟩ ?_ ?_ ?_ ?_
        all_goals simp [step, push, isListening, hg, hk, alike.client, alike.lines,
          find?_adjust_of_find hg, find?_adjust_of_find hk]

theorem alike_leave (alike : h.Alike k) (g : Nat) :
    (h.step (.leave g)).Alike (k.step (.leave g)) := by
  refine ⟨alike.client, alike.lines, fun i => ?_⟩
  simp only [step, Table.find?_adjust]
  rcases alike.find? i with ⟨hi, ki⟩ | ⟨queue, queue', attended, ended, hi, ki, ahead⟩
  · rw [hi, ki]
    split <;> exact .none
  · rw [hi, ki]
    split <;> exact .some ⟨rfl, rfl, ahead⟩

theorem alike_attach (alike : h.Alike k) {queue queue' : List Inbound} (room : Option Nat)
    (ahead : untilClosed queue = untilClosed queue') :
    (h.step (.attach queue room)).Alike (k.step (.attach queue' room)) := by
  simp only [step, attachLink, alike.client, alike.lines]
  split
  next => exact ⟨rfl, rfl, alike.tasks⟩
  next =>
    exact alike.set _ ⟨queue, true, none⟩ ⟨queue', true, none⟩ ⟨rfl, rfl, fun _ => ahead⟩ rfl rfl
      (fun i => Table.find?_insert _ _ _ _) fun i => Table.find?_insert _ _ _ _

theorem alike_step (alike : h.Alike k) (s : Step) : (h.step s).Alike (k.step s) := by
  cases s with
  | call s => exact ⟨congrArg (·.step s) alike.client, alike.lines, alike.tasks⟩
  | attach queue room => exact alike_attach alike room rfl
  | word g item => exact alike_word alike g item
  | leave g => exact alike_leave alike g
  | handle g => exact alike_handle alike g
  | stop g => exact alike_stop alike g

theorem alike_run (alike : h.Alike k) (steps : List Step) : (h.run steps).Alike (k.run steps) := by
  induction steps generalizing h k with
  | nil => exact alike
  | cons s rest ih => exact ih (alike_step alike s)

variable {config : FrameConfig} {past : List (Nat × TaskEvent)}

/-- What is queued for a task behind the word that its link has closed changes nothing. -/
theorem alike_behind (lives : Lives config h past) (g : Nat) (item : Inbound)
    (closes : ∃ word ∈ queuedIn (log g past), word.isClosed = true) :
    (h.step (.word g item)).Alike h := by
  cases hg : h.tasks.find? g with
  | none => simpa [step, hg] using Alike.refl h
  | some task =>
    have alive := lives.alive g task hg
    obtain ⟨queue, attended, ended⟩ := task
    cases attended with
    | false => simpa [step, hg] using Alike.refl h
    | true =>
      cases ended with
      | some reason => simpa [step, push, isListening, hg] using Alike.refl h
      | none =>
        -- A task that is still running has not taken that word, so it waits in the queue.
        have waits : ∃ word ∈ queue, word.isClosed = true := by
          obtain ⟨word, hw, closed⟩ := closes
          rw [alive.order] at hw
          rcases List.mem_append.mp hw with taken | waiting
          · rw [alive.open_of_running rfl word taken] at closed
            cases closed
          · exact ⟨word, waiting, closed⟩
        refine (Alike.refl h).set g ⟨queue ++ [item], true, none⟩ ⟨queue, true, none⟩
          ⟨rfl, rfl, fun _ => untilClosed_append waits [item]⟩ ?_ ?_ ?_ fun i => ?_
        · simp [step, push, isListening, hg]
        · simp [step, push, isListening, hg]
        · simp [step, push, isListening, hg, find?_adjust_of_find hg]
        · split
          next same => rw [same, hg]
          next => rfl

theorem alike_preclosed (h : Hub) (front behind : List Inbound) (reason : CloseReason)
    (room : Option Nat) : (h.step (.attach (front ++ .closed reason :: behind) room)).Alike
      (h.step (.attach (front ++ [.closed reason]) room)) := by
  refine alike_attach (Alike.refl h) room ?_
  have closes : ∃ item ∈ front ++ [.closed reason], item.isClosed = true :=
    ⟨.closed reason, by simp, rfl⟩
  rw [← untilClosed_append closes behind, List.append_assoc]
  rfl

/-- Two hubs with the same client and the same lines, whose tasks have come to the same ends. -/
def Agree (h k : Hub) : Prop :=
  h.client = k.client ∧ h.lines = k.lines ∧
    ∀ g, (h.tasks.find? g).map LinkTask.ended = (k.tasks.find? g).map LinkTask.ended

theorem Alike.agree (alike : h.Alike k) : h.Agree k := by
  refine ⟨alike.client, alike.lines, fun g => ?_⟩
  rcases alike.find? g with ⟨hg, hk⟩ | ⟨queue, queue', attended, ended, hg, hk, -⟩
  · rw [hg, hk]
  · rw [hg, hk]
    rfl

/-- The tasks of a client go with its links. Each link has one, which runs while the link is in use and,
once it has nothing more to do, only then. Left to themselves the tasks get there. How each of them
ends is its fate, and what is queued behind the word that its link has closed has no part in it. -/
structure FollowsLinks (h : Hub) (past : List (Nat × TaskEvent)) : Prop where
  attached : ∀ g, h.tasks.contains g = true ↔ 1 ≤ g ∧ g ≤ h.client.generation
  running : ∀ g, h.client.isCurrent g = true → ∃ task, h.tasks.find? g = some task ∧ task.ended = none
  finished : ∀ g task, h.tasks.find? g = some task → h.IdleAt g →
    (task.ended.isSome = true ↔ h.client.isCurrent g = false)
  fate : ∀ g task, h.tasks.find? g = some task → TaskFate (log g past) task (h.client.isCurrent g)
  settles : h.Settles h.settle ∧ h.settle.Idle
  behind : ∀ g item more, (∃ word ∈ queuedIn (log g past), word.isClosed = true) →
    ((h.step (.word g item)).run more).Agree (h.run more)
  preclosed : ∀ front behind reason room more,
    ((h.step (.attach (front ++ .closed reason :: behind) room)).run more).Agree
      ((h.step (.attach (front ++ [.closed reason]) room)).run more)

theorem finished_of_idle (lives : Lives config h past) {task : LinkTask}
    (hg : h.tasks.find? g = some task) (idle : h.IdleAt g) :
    task.ended.isSome = true ↔ h.client.isCurrent g = false := by
  constructor
  · intro ended
    by_contra used
    rw [(lives.alive g task hg).running (by simpa using used)] at ended
    cases ended
  · intro unused
    by_contra runs
    have used := (idleAt_iff.mp idle task hg (by simpa using runs)).2.2
    rw [unused] at used
    cases used

theorem tasks_follow_links (config : FrameConfig) (steps : List Step) :
    FollowsLinks ((fresh config).run steps) (history config steps) := by
  have lives := lives_run (lives_fresh config) steps
  refine ⟨lives.attached, fun g used => ?_, fun g task => finished_of_idle lives,
    fun g task hg => (lives.alive g task hg).fate, ⟨settles_settle _, idle_settle _⟩,
    fun g item more closes => ?_, fun front behind reason room more => ?_⟩
  · obtain ⟨task, hg⟩ := Option.isSome_iff_exists.mp (lives.served g used)
    exact ⟨task, hg, (lives.alive g task hg).running used⟩
  · exact (alike_run (alike_behind lives g item closes) more).agree
  · exact (alike_run (alike_preclosed _ front behind reason room) more).agree

/-- Four links: the first is closed by the other side, the second displaced, the third left without a
word and the fourth detached when the client closes. -/
def fourLinks : List Step :=
  [.attach [.opened] none, .word 1 (.closed ⟨some 1001, "bye"⟩), .word 1 (.message "late"),
    .handle 1, .handle 1, .handle 1, .attach [] none, .attach [.opened] none, .stop 2, .leave 3,
    .handle 3, .handle 3, .attach [.message "early"] (some 0), .call ⟨.close, rfl⟩, .stop 4]

theorem four_links_ended :
    (∀ link ∈ [(1, ⟨some 1001, "bye"⟩), (2, .here), (3, .unannounced), (4, .here)],
      (((fresh {}).run fourLinks).tasks.find? link.1).map LinkTask.ended = some (some link.2)) ∧
    FollowsLinks ((fresh {}).run fourLinks) (history {} fourLinks) :=
  ⟨by decide +kernel, tasks_follow_links {} fourLinks⟩

end Hub

end Telemux
