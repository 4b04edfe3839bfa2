import Telemux.Client.Hub
import Telemux.Proofs.Binding

namespace Telemux

namespace Client

/-- The link that a step comes from. -/
def Step.link? : Step → Option Nat
  | .message generation _ | .linkClosed generation | .refuse generation _ => some generation
  | _ => none

/-- Word from a link that is not in use. -/
def isOutdated (c : Client) (s : Step) : Bool :=
  s.link?.any fun generation => !c.isCurrent generation

/-- The steps of a run that do not come from links out of use, each with the client that takes it. -/
def heeded (c : Client) : List Step → List (Client × Step)
  | [] => []
  | s :: rest => if c.isOutdated s then (c.step s).heeded rest else (c, s) :: (c.step s).heeded rest

variable {config : FrameConfig} {c : Client} {past : List Event}

theorem isOutdated_iff {s : Step} :
    c.isOutdated s = true ↔ ∃ g, s.link? = some g ∧ c.isCurrent g = false := by
  unfold isOutdated
  cases s.link? <;> simp

theorem message_of_not_current {g : Nat} (h : c.isCurrent g = false) (text : String) :
    c.message g text = c ∧ c.heard? g text = none := by
  unfold message heard?
  cases hl : c.link with
  | none => exact ⟨rfl, rfl⟩
  | some link =>
    have other : link.generation ≠ g := by simpa [isCurrent_of_link hl] using h
    simp only [if_neg other, and_self]

theorem refuse_of_not_current {g : Nat} (h : c.isCurrent g = false) (n : Nat) : c.refuse g n = c := by
  have same : (c.link.map fun link => if link.generation = g then link.limit n else link) = c.link := by
    cases hl : c.link with
    | none => rfl
    | some link =>
      have other : link.generation ≠ g := by simpa [isCurrent_of_link hl] using h
      simp [other]
  unfold refuse
  rw [same]

theorem step_of_outdated {s : Step} (h : c.isOutdated s = true) : c.step s = c ∧ c.events s = [] := by
  obtain ⟨g, hs, hg⟩ := isOutdated_iff.mp h
  cases s with
  | message k text =>
    cases hs
    obtain ⟨same, unheard⟩ := message_of_not_current hg text
    exact ⟨same, by simp only [events, unheard]⟩
  | linkClosed k =>
    cases hs
    exact ⟨closeLink_of_not_current hg, by simp [events, hg]⟩
  | refuse k n =>
    cases hs
    exact ⟨refuse_of_not_current hg n, rfl⟩
  | _ => cases hs

/-- However much comes from a link out of use, nothing changes and nothing happens. -/
theorem run_of_outdated {g : Nat} (h : c.isCurrent g = false) {word : List Step}
    (from_g : ∀ s ∈ word, s.link? = some g) : c.run word = c ∧ c.recount past word = past := by
  induction word with
  | nil => exact ⟨rfl, rfl⟩
  | cons s rest ih =>
    have outdated : c.isOutdated s = true :=
      isOutdated_iff.mpr ⟨g, from_g s List.mem_cons_self, h⟩
    obtain ⟨same, silent⟩ := step_of_outdated outdated
    have later := ih fun s hs => from_g s (List.mem_cons_of_mem _ hs)
    simp only [run, List.foldl_cons, recount, same, silent] at later ⊢
    exact later

/-- The steps that a run does not heed can be left out of it. -/
theorem run_heeded (c : Client) (past : List Event) (steps : List Step) :
    c.heeded ((c.heeded steps).map Prod.snd) = c.heeded steps ∧
      c.run ((c.heeded steps).map Prod.snd) = c.run steps ∧
      c.recount past ((c.heeded steps).map Prod.snd) = c.recount past steps := by
  induction steps generalizing c past with
  | nil => exact ⟨rfl, rfl, rfl⟩
  | cons s rest ih =>
    obtain ⟨fewer, ends, tells⟩ := ih (c.step s) ((c.events s).reverse ++ past)
    cases hs : c.isOutdated s with
    | true =>
      obtain ⟨same, silent⟩ := step_of_outdated hs
      simp only [heeded, hs, if_true, run, List.foldl_cons, recount, same, silent] at fewer ends tells ⊢
      exact ⟨fewer, ends, tells⟩
    | false =>
      simp only [heeded, hs, Bool.false_eq_true, if_false, List.map_cons, run, List.foldl_cons, recount,
        fewer]
      exact ⟨trivial, ends, tells⟩

theorem run_of_heeded {xs ys : List Step}
    (alike : (c.heeded xs).map Prod.snd = (c.heeded ys).map Prod.snd) (past : List Event) :
    c.heeded xs = c.heeded ys ∧ c.run xs = c.run ys ∧ c.recount past xs = c.recount past ys := by
  obtain ⟨fewer, ends, tells⟩ := run_heeded c past xs
  obtain ⟨fewer', ends', tells'⟩ := run_heeded c past ys
  rw [alike] at fewer ends tells
  exact ⟨fewer.symm.trans fewer', ends.symm.trans ends', tells.symm.trans tells'⟩

theorem closeLink_twice (c : Client) (g : Nat) : (c.closeLink g).closeLink g = c.closeLink g := by
  apply closeLink_of_not_current
  cases hg : c.isCurrent g with
  | false => rwa [closeLink_of_not_current hg]
  | true =>
    obtain ⟨link, hl, rfl⟩ := isCurrent_iff.mp hg
    rw [closeLink_eq hl]
    rfl

/-- Only the next generation can come into use. -/
theorem isCurrent_happens {e : Event} {after : Client} (hn : Happens past c e after) {g : Nat}
    (hg : after.isCurrent g = true) : c.isCurrent g = true ∨ g = c.generation + 1 := by
  cases hn with
  | lost | shut => cases hg
  | opened hc hl =>
    obtain ⟨link, hl', rfl⟩ := isCurrent_iff.mp hg
    cases hl'
    exact Or.inr rfl
  | subscribed hs | requested hs | replayed hs =>
    obtain ⟨link, hl', rfl⟩ := isCurrent_iff.mp hg
    cases hl'
    exact Or.inl (isCurrent_iff.mpr ⟨_, hs.current, rfl⟩)
  | greeted hl hr =>
    obtain ⟨link, hl', rfl⟩ := isCurrent_iff.mp hg
    cases hl'
    exact Or.inl (isCurrent_iff.mpr ⟨_, hl, rfl⟩)
  | _ => exact Or.inl hg

theorem not_current_again (h : Traced config c past) {g : Nat} (old : g ≤ c.generation)
    (hg : c.isCurrent g = false) (more : List Step) : (c.run more).isCurrent g = false := by
  have lasting : Lasting config fun c' past' => Traced config c' past' ∧ g ≤ c'.generation ∧
      c'.isCurrent g = false := by
    refine ⟨And.left, fun h => ⟨h.1.skip, h.2⟩, fun h k n => ⟨h.1.refuse k n, h.2.1, ?_⟩, ?_⟩
    · rw [isCurrent_refuse]
      exact h.2.2
    · intro c' past' e after ⟨ht, hold, hno⟩ hn
      refine ⟨ht.next hn, Nat.le_trans hold (happens_generation ht hn).1, Bool.eq_false_iff.mpr ?_⟩
      intro again
      rcases isCurrent_happens hn again with before | new
      · simp [hno] at before
      · omega
  exact (lasting_run lasting ⟨h, old, hg⟩ more).2.2

theorem generation_le_run (h : Traced config c past) (more : List Step) :
    c.generation ≤ (c.run more).generation := by
  have lasting : Lasting config fun c' past' => Traced config c' past' ∧
      c.generation ≤ c'.generation := by
    refine ⟨And.left, fun h => ⟨h.1.skip, h.2⟩, fun h k n => ⟨h.1.refuse k n, h.2⟩, ?_⟩
    intro c' past' e after ⟨ht, grown⟩ hn
    exact ⟨ht.next hn, Nat.le_trans grown (happens_generation ht hn).1⟩
  exact (lasting_run lasting ⟨h, Nat.le_refl _⟩ more).2

theorem closed_close (c : Client) : c.close.closed = true := by
  unfold close
  split
  next hc => exact hc
  next => rfl

theorem not_current_of_closed (h : Traced config c past) (hc : c.closed = true) (g : Nat)
    (more : List Step) : (c.run more).isCurrent g = false := by
  have lasting : Lasting config fun c' past' => Traced config c' past' ∧ c'.closed = true := by
    refine ⟨And.left, fun h => ⟨h.1.skip, h.2⟩, fun h k n => ⟨h.1.refuse k n, h.2⟩, ?_⟩
    intro c' past' e after ⟨ht, closed⟩ hn
    refine ⟨ht.next hn, ?_⟩
    cases hn with
    | shut => rfl
    | _ => exact closed
  obtain ⟨ht, closed⟩ := lasting_run lasting ⟨h, hc⟩ more
  have gone := (traced_link ht).1 closed
  simp [isCurrent, gone]

end Client

namespace Hub

open Client

theorem client_stop (h : Hub) (g : Nat) : (h.stop g).client = h.client := by
  unfold stop
  split
  next => split <;> rfl
  next => rfl

/-- What a task does to the client is a step of the client. -/
theorem client_of_handle (h : Hub) (g : Nat) : (h.handle g).client = h.client ∨
    (∃ text, (h.handle g).client = h.client.step (.message g text)) ∨
    (h.handle g).client = h.client.step (.linkClosed g) := by
  unfold handle
  split
  next => exact .inl rfl
  next text _ _ _ => exact .inr (.inl ⟨text, rfl⟩)
  next => exact .inr (.inr rfl)
  next => exact .inr (.inr rfl)
  next => exact .inl rfl

theorem client_handle {h : Hub} {g : Nat} (hg : h.client.isCurrent g = false) :
    (h.handle g).client = h.client := by
  rcases h.client_of_handle g with same | ⟨text, said⟩ | ended
  · exact same
  · exact said.trans (message_of_not_current hg text).1
  · exact ended.trans (closeLink_of_not_current hg)

/-- The turn of a task: it is stopped if it has to be, and takes the next of what is queued. -/
theorem client_turn {h : Hub} {g : Nat} (hg : h.client.isCurrent g = false) :
    ((h.stop g).handle g).client = h.client := by
  have stopped := h.client_stop g
  exact (client_handle (stopped ▸ hg)).trans stopped

section

variable {P : Hub → Prop} {h : Hub}

/-- What each turn of a task keeps is kept until the task has nothing more to do. -/
theorem settleTask_of_turns {g : Nat} (turn : ∀ h, P h → P ((h.stop g).handle g)) (start : P h) :
    P (h.settleTask g) := by
  have many : ∀ n h, P h → P (h.handleMany g n) := by
    intro n
    induction n with
    | zero => exact fun _ => id
    | succ n ih => exact fun h hp => ih _ (turn h hp)
  unfold settleTask
  split
  next => exact many _ h start
  next => exact start

theorem settle_of_turns (turn : ∀ g h, P h → P ((h.stop g).handle g)) (start : P h) : P h.settle := by
  have each : ∀ (gs : List Nat) h, P h → P (gs.foldl settleTask h) := by
    intro gs
    induction gs with
    | nil => exact fun _ => id
    | cons g rest ih => exact fun h hp => ih _ (settleTask_of_turns (turn g) hp)
  exact each _ h start

end

/-- The task of a link out of use leaves the client alone, whatever is queued for it. -/
theorem client_settleTask {h : Hub} {g : Nat} (hg : h.client.isCurrent g = false) :
    (h.settleTask g).client = h.client := by
  refine settleTask_of_turns (P := fun k => k.client = h.client) (fun k same => ?_) rfl
  rw [← same] at hg ⊢
  exact client_turn hg

end Hub

namespace Client

/-- A client heeds its link in use and no other. What comes from another link changes nothing, through
the task of the link as well, so that runs which differ in nothing else are the same; and a link that
has gone out of use stays so. -/
structure HeedsCurrent (c : Client) (past : List Event) : Prop where
  unchanged : ∀ g word, c.isCurrent g = false → (∀ s ∈ word, Step.link? s = some g) →
    c.run word = c ∧ c.recount past word = past
  tasks : ∀ h : Hub, h.client = c → ∀ g, c.isCurrent g = false → (h.settleTask g).client = c
  alike : ∀ xs ys, (c.heeded xs).map Prod.snd = (c.heeded ys).map Prod.snd →
    c.heeded xs = c.heeded ys ∧ c.run xs = c.run ys ∧ c.recount past xs = c.recount past ys
  twice : ∀ g, (c.closeLink g).closeLink g = c.closeLink g
  displaced : ∀ g more again, c.isCurrent g = true → (c.run more).isCurrent g = false →
    (c.run (more ++ again)).isCurrent g = false
  closed : ∀ g more, (c.close.run more).isCurrent g = false

/-- In every run, links that are not in use have no say. -/
theorem outdated_links_ignored (config : FrameConfig) (steps : List Step) :
    HeedsCurrent ((fresh config).run steps) (history config steps) := by
  have h := traced_run config steps
  generalize (fresh config).run steps = c at h ⊢
  generalize history config steps = past at h ⊢
  refine ⟨fun g word hg from_g => run_of_outdated hg from_g, ?_, fun xs ys alike => run_of_heeded alike past,
    closeLink_twice c, ?_, ?_⟩
  · intro hub same g hg
    subst same
    exact Hub.client_settleTask hg
  · intro g more again used gone
    obtain ⟨link, hl, rfl⟩ := isCurrent_iff.mp used
    have old : link.generation ≤ (c.run more).generation := by
      rw [(traced_link h).2 link hl]
      exact generation_le_run h more
    have ht := lasting_run (lasting_traced config) h more
    have later := not_current_again ht old gone again
    simpa [run] using later
  · intro g more
    have ht := lasting_step (lasting_traced config) h .close
    exact not_current_of_closed ht (closed_close c) g more

/-- A second link takes the place of the first one while requests wait. -/
def overtaking : List Step :=
  [.attach none, .subscribe .events, .attach none, .subscribe .time]

/-- The first link answers a request that waits on the second one, and then ends. -/
theorem overtaken_link_ignored :
    ((fresh {}).run overtaking).correlator.pending.contains 2 = true ∧
      ((fresh {}).run overtaking).run [.message 1 "[1,2,2,\x7b\x7d]", .linkClosed 1] =
        (fresh {}).run overtaking := by
  refine ⟨by decide +kernel, ?_⟩
  have heeds := outdated_links_ignored {} overtaking
  have displaced : ((fresh {}).run overtaking).isCurrent 1 = false := by decide +kernel
  exact (heeds.unchanged 1 _ displaced (by decide)).1

end Client

end Telemux
