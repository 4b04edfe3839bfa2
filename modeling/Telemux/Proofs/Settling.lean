import Telemux.Proofs.Schedule

namespace Telemux

namespace Hub

variable {h : Hub} {g k : Nat}

/-- The task of a link has nothing to do. -/
def IdleAt (h : Hub) (g : Nat) : Prop :=
  h.handle g = h ∧ h.stop g = h

/-- Every task has handled all that there is for it. -/
def Idle (h : Hub) : Prop :=
  ∀ g, h.IdleAt g

theorem find?_handle_other (other : k ≠ g) : (h.handle g).tasks.find? k = h.tasks.find? k := by
  unfold handle
  split <;> simp [Table.find?_insert, other]

theorem find?_stop_other (other : k ≠ g) : (h.stop g).tasks.find? k = h.tasks.find? k := by
  unfold stop
  split
  next => split <;> simp [Table.find?_insert, other]
  next => rfl

/-- A task that has ended has nothing to do, and a running one only if its link is in use and there is
nothing in its queue, to which the other side can still add. -/
theorem idleAt_iff : h.IdleAt g ↔ ∀ task, h.tasks.find? g = some task → task.ended = none →
    task.queue = [] ∧ task.attended = true ∧ h.client.isCurrent g = true := by
  constructor
  · rintro ⟨handled, stopped⟩ ⟨queue, attended, ended⟩ hg runs
    cases runs
    have kept : (h.handle g).tasks.find? g = h.tasks.find? g := by rw [handled]
    have running : (h.stop g).tasks.find? g = h.tasks.find? g := by rw [stopped]
    cases queue with
    | nil =>
      cases attended with
      | false => simp [handle, hg, Table.find?_insert] at kept
      | true =>
        cases current : h.client.isCurrent g with
        | false => simp [stop, hg, current, Table.find?_insert] at running
        | true => exact ⟨rfl, rfl, rfl⟩
    | cons item rest => cases item <;> simp [handle, hg, Table.find?_insert] at kept
  · intro waits
    cases hg : h.tasks.find? g with
    | none => simp [IdleAt, handle, stop, hg]
    | some task =>
      obtain ⟨queue, attended, ended⟩ := task
      cases ended with
      | some reason => simp [IdleAt, handle, stop, hg]
      | none =>
        obtain ⟨empty, attends, current⟩ := waits _ hg rfl
        simp only at empty attends
        subst empty attends
        simp [IdleAt, handle, stop, hg, current]

/-- What is left to do for the task of a link, its own end included. -/
def duty (h : Hub) (g : Nat) : Nat :=
  match h.tasks.find? g with
  | some ⟨queue, _, none⟩ => queue.length + 1
  | _ => 0

theorem idleAt_of_duty (done : h.duty g = 0) : h.IdleAt g := by
  refine idleAt_iff.mpr fun task hg runs => ?_
  obtain ⟨queue, attended, ended⟩ := task
  cases runs
  simp [duty, hg] at done

/-- A task that is given its turn does something, or has nothing to do. -/
theorem duty_turn (busy : ¬h.IdleAt g) : ((h.stop g).handle g).duty g < h.duty g := by
  cases hg : h.tasks.find? g with
  | none => exact absurd (idleAt_of_duty (by simp [duty, hg])) busy
  | some task =>
    obtain ⟨queue, attended, ended⟩ := task
    cases ended with
    | some reason => exact absurd (idleAt_of_duty (by simp [duty, hg])) busy
    | none =>
      cases current : h.client.isCurrent g with
      | false => simp [stop, handle, duty, hg, current, Table.find?_insert]
      | true =>
        cases queue with
        | nil =>
          cases attended with
          | false => simp [stop, handle, duty, hg, current, Table.find?_insert]
          | true =>
            refine absurd (idleAt_iff.mpr fun task found _ => ?_) busy
            cases hg.symm.trans found
            exact ⟨rfl, rfl, current⟩
        | cons item rest =>
          cases item <;> simp [stop, handle, duty, hg, current, Table.find?_insert]

theorem handleMany_of_idle (idle : h.IdleAt g) (n : Nat) : h.handleMany g n = h := by
  induction n with
  | zero => rfl
  | succ n ih => rw [handleMany, idle.2, idle.1, ih]

theorem idleAt_handleMany {n : Nat} (enough : h.duty g ≤ n) : (h.handleMany g n).IdleAt g := by
  induction n generalizing h with
  | zero => exact idleAt_of_duty (Nat.le_zero.mp enough)
  | succ n ih =>
    by_cases idle : h.IdleAt g
    · rw [handleMany_of_idle idle]
      exact idle
    · have less := duty_turn idle
      exact ih (by omega)

theorem idleAt_settleTask (h : Hub) (g : Nat) : (h.settleTask g).IdleAt g := by
  unfold settleTask
  split
  next task hg =>
    refine idleAt_handleMany ?_
    obtain ⟨queue, attended, ended⟩ := task
    cases ended <;> simp [duty, hg]
  next hg => exact idleAt_of_duty (by simp [duty, hg])

/-- No task gives another one something to do. -/
theorem idleAt_turn_other (other : k ≠ g) (idle : h.IdleAt k) : ((h.stop g).handle g).IdleAt k := by
  have found : ((h.stop g).handle g).tasks.find? k = h.tasks.find? k :=
    (find?_handle_other other).trans (find?_stop_other other)
  refine idleAt_iff.mpr fun task hk runs => ?_
  rw [found] at hk
  obtain ⟨empty, attended, current⟩ := idleAt_iff.mp idle task hk runs
  have unused : h.client.isCurrent g = false := by
    obtain ⟨link, hl, rfl⟩ := Client.isCurrent_iff.mp current
    rw [Client.isCurrent_of_link hl, decide_eq_false other]
  rw [client_turn unused]
  exact ⟨empty, attended, current⟩

theorem idle_settle (h : Hub) : h.settle.Idle := by
  -- A task that has had its turns stays idle, whatever the tasks after it do.
  have each : ∀ (gs : List Nat) (h : Hub) (k : Nat), k ∈ gs ∨ h.IdleAt k →
      (gs.foldl settleTask h).IdleAt k := by
    intro gs
    induction gs with
    | nil => exact fun h k hk => hk.resolve_left List.not_mem_nil
    | cons g rest ih =>
      intro h k hk
      refine ih (h.settleTask g) k ?_
      by_cases same : k = g
      · exact .inr (same ▸ idleAt_settleTask h g)
      · rcases hk with hk | idle
        · exact .inl ((List.mem_cons.mp hk).resolve_left same)
        · exact .inr (settleTask_of_turns (P := (IdleAt · k)) (fun _ => idleAt_turn_other same) idle)
  intro k
  refine each _ h k ?_
  cases hk : h.tasks.contains k with
  | true => exact .inl (Table.mem_keys_iff.mpr hk)
  | false =>
    have absent : h.tasks.find? k = none := by simpa [Table.contains] using hk
    exact .inr (idleAt_of_duty (by simp [duty, absent]))

/-- Whether a step is a turn of a task. -/
def Step.isTurn : Step → Bool
  | .handle _ | .stop _ => true
  | _ => false

/-- One hub comes of another through turns of the tasks alone. -/
def Settles (h after : Hub) : Prop :=
  ∃ turns, (∀ s ∈ turns, Step.isTurn s = true) ∧ after = h.run turns

theorem Settles.refl (h : Hub) : h.Settles h :=
  ⟨[], nofun, rfl⟩

theorem Settles.trans {mid last : Hub} (sooner : h.Settles mid) (later : mid.Settles last) :
    h.Settles last := by
  obtain ⟨turns, all, rfl⟩ := sooner
  obtain ⟨more, all', rfl⟩ := later
  exact ⟨turns ++ more, fun s hs => (List.mem_append.mp hs).elim (all s) (all' s), List.foldl_append.symm⟩

theorem settles_settle (h : Hub) : h.Settles h.settle := by
  refine settle_of_turns (P := h.Settles) (fun g k sooner => ?_) (.refl h)
  have turn : k.Settles ((k.stop g).handle g) := ⟨[.stop g, .handle g], by simp [Step.isTurn], rfl⟩
  exact sooner.trans turn

end Hub

end Telemux
