import Telemux.Proofs.Outdated

namespace Telemux

namespace Client

/-- Whether a step is up to the links: one is taken into use, or the task of one hands on its word. -/
def Step.isLinked : Step → Bool
  | .attach _ | .message _ _ | .linkClosed _ => true
  | _ => false

/-- Where a client stands with its links: the one in use, the last one, and whether it takes more. -/
structure Standing where
  inUse : Option Nat
  generation : Nat
  closed : Bool

def standing (c : Client) : Standing :=
  ⟨c.link.map (·.generation), c.generation, c.closed⟩

/-- Whether an event changes where the client stands. -/
def Event.isTurn : Event → Bool
  | .opened _ | .lost _ | .shut => true
  | _ => false

variable {config : FrameConfig} {c d : Client} {past : List Event}

theorem isCurrent_eq (c : Client) (g : Nat) : c.isCurrent g = decide (c.standing.inUse = some g) := by
  unfold isCurrent standing
  cases c.link <;> simp

theorem isCurrent_congr (same : c.standing = d.standing) (g : Nat) : c.isCurrent g = d.isCurrent g := by
  rw [isCurrent_eq, isCurrent_eq, same]

theorem standing_happens {e : Event} {after : Client} (hn : Happens past c e after)
    (quiet : e.isTurn = false) : after.standing = c.standing := by
  cases hn with
  | lost | opened | shut => cases quiet
  | subscribed hs | requested hs | replayed hs =>
    simp [standing, sentOn, hs.current, ActiveLink.spend]
  | greeted hl => simp [standing, greeted, hl]
  | _ => rfl

theorem standing_refuse (c : Client) (g n : Nat) : (c.refuse g n).standing = c.standing := by
  cases hl : c.link with
  | none => simp [standing, Client.refuse, hl]
  | some link =>
    by_cases he : link.generation = g <;> simp [standing, Client.refuse, hl, he, ActiveLink.limit]

/-- Only three kinds of steps change where a client stands. -/
def Step.isTurn : Step → Bool
  | .attach _ | .linkClosed _ | .close => true
  | _ => false

theorem not_turn_of_mem_events {s : Step} (quiet : s.isTurn = false) {e : Event} (he : e ∈ c.events s) :
    e.isTurn = false := by
  cases s with
  | attach | linkClosed | close => cases quiet
  | subscribe topic | request body =>
    obtain ⟨link, -, rfl⟩ := mem_sending he
    rfl
  | cancel | collect | receive | unsubscribe | dropHandle =>
    simp only [events] at he
    split at he
    next =>
      cases List.mem_singleton.mp he
      rfl
    next => cases he
  | message generation text =>
    simp only [events] at he
    split at he
    next link f heard =>
      rcases mem_hearing he with rfl | ⟨-, event, -, rfl | ⟨info, -, he⟩⟩
      · rfl
      · rfl
      · unfold greeting at he
        split at he
        next => cases he
        next => rcases mem_replaying he with ⟨_, _, _, _, _, rfl⟩ | ⟨_, _, rfl⟩ <;> rfl
    next => cases he
  | refuse generation after => cases he

theorem standing_step (h : Traced config c past) {s : Step} (quiet : s.isTurn = false) :
    (c.step s).standing = c.standing := by
  have lasting : Lasting config fun c' past' => Traced config c' past' ∧
      ∃ newer, past' = newer ++ past ∧ ((∀ e ∈ newer, e.isTurn = false) → c'.standing = c.standing) := by
    refine ⟨And.left, fun h => ⟨h.1.skip, h.2⟩, fun h g n => ⟨h.1.refuse g n, ?_⟩, ?_⟩
    · obtain ⟨newer, hp, keeps⟩ := h.2
      exact ⟨newer, hp, fun quiet => (standing_refuse _ g n).trans (keeps quiet)⟩
    · rintro c' past' e after ⟨ht, newer, rfl, keeps⟩ hn
      refine ⟨ht.next hn, e :: newer, rfl, fun quiet => ?_⟩
      exact (standing_happens hn (quiet e List.mem_cons_self)).trans
        (keeps fun e he => quiet e (List.mem_cons_of_mem _ he))
  obtain ⟨-, newer, hs, keeps⟩ := lasting_step lasting ⟨h, [], rfl, fun _ => rfl⟩ s
  cases List.append_cancel_right hs
  exact keeps fun e he => not_turn_of_mem_events quiet (List.mem_reverse.mp he)

theorem isCurrent_closeLink (c : Client) (g k : Nat) :
    (c.closeLink g).isCurrent k = (c.isCurrent k && decide (k ≠ g)) := by
  cases hg : c.isCurrent g with
  | false =>
    rw [closeLink_of_not_current hg]
    by_cases same : k = g
    · simp [same, hg]
    · simp [same]
  | true =>
    obtain ⟨link, hl, rfl⟩ := isCurrent_iff.mp hg
    have gone : (c.closeLink link.generation).isCurrent k = false := by
      rw [closeLink_eq hl]
      rfl
    by_cases same : k = link.generation
    · rw [gone]
      simp [same]
    · rw [gone, isCurrent_of_link hl, decide_eq_false (Ne.symm same)]
      rfl

theorem standing_closeLink (c : Client) (g : Nat) :
    (c.closeLink g).generation = c.generation ∧ (c.closeLink g).closed = c.closed := by
  cases hg : c.isCurrent g with
  | false =>
    rw [closeLink_of_not_current hg]
    exact ⟨rfl, rfl⟩
  | true =>
    obtain ⟨link, hl, rfl⟩ := isCurrent_iff.mp hg
    rw [closeLink_eq hl]
    exact ⟨rfl, rfl⟩

/-- The client when the link in use, if any, has been closed. -/
def cleared (c : Client) : Client :=
  match c.link with
  | some link => c.closeLink link.generation
  | none => c

theorem standing_cleared (c : Client) : c.cleared.standing = ⟨none, c.generation, c.closed⟩ := by
  cases hl : c.link with
  | none => simp [cleared, standing, hl]
  | some link => simp only [cleared, hl, closeLink_eq hl, standing, Option.map_none]

theorem traced_cleared (h : Traced config c past) : ∃ heard, Traced config c.cleared heard := by
  unfold cleared
  cases c.link with
  | none => exact ⟨past, h⟩
  | some link => exact ⟨_, lasting_step (lasting_traced config) h (.linkClosed link.generation)⟩

theorem standing_attach (unclosed : c.closed = false) (room : Option Nat) :
    (c.attach room).1.standing = ⟨some (c.generation + 1), c.generation + 1, false⟩ ∧
      (c.attach room).2 = .ok (c.generation + 1) := by
  cases hl : c.link with
  | none => simp [attach, unclosed, hl, standing]
  | some link =>
    have kept := standing_closeLink c link.generation
    simp [attach, unclosed, hl, standing, kept]

theorem standing_close (h : Traced config c past) :
    c.close.standing = ⟨none, c.generation, true⟩ := by
  cases hc : c.closed with
  | true =>
    have unlinked := (traced_link h).1 hc
    simp [close, hc, standing, unlinked]
  | false =>
    rw [close_eq hc]
    rfl

end Client

end Telemux
