import Telemux.Proofs.Happens

namespace Telemux.Client

variable {past : List Event} {c after : Client} {e : Event} {id : Nat}

/-- The caller behind a request leaves, or fetches the outcome. -/
def Event.EndsCall (s : Nat) (e : Event) : Prop :=
  e = .cancelled s ∨ ∃ o, e = .fetched s o

/-- A call is as old as its request, and it keeps its handle until it ends. -/
theorem call_happens (hn : Happens past c e after) {s : Nat} {call : Call}
    (hc : after.calls.find? s = some call) :
    (∃ old, c.calls.find? s = some old ∧ call.handle = old.handle ∧ ¬e.EndsCall s) ∨
      ∃ p body, e = .sent p body ∧ p.sequence = s ∧ p.purpose.isCall = true ∧
        call.handle = p.purpose.handle? ∧ ∀ id, call.handle = some id → id = c.nextId := by
  have same : ∀ {f : Call → Call}, (c.calls.find? s).map f = some call →
      (∀ call, (f call).handle = call.handle) → ¬e.EndsCall s →
      ∃ old, c.calls.find? s = some old ∧ call.handle = old.handle ∧ ¬e.EndsCall s := by
    intro f he hf hends
    obtain ⟨old, ho, rfl⟩ := Option.map_eq_some_iff.mp he
    exact ⟨old, ho, hf old, hends⟩
  have adjusted : ∀ {k} {f : Call → Call}, (c.calls.adjust k f).find? s = some call →
      (∀ call, (f call).handle = call.handle) → ¬e.EndsCall s →
      ∃ old, c.calls.find? s = some old ∧ call.handle = old.handle ∧ ¬e.EndsCall s := by
    intro k f he hf hends
    rw [Table.find?_adjust] at he
    split at he
    next => exact same he hf hends
    next => exact ⟨call, he, rfl, hends⟩
  have erased : ∀ {k}, (c.calls.erase k).find? s = some call → (k ≠ s → ¬e.EndsCall s) →
      ∃ old, c.calls.find? s = some old ∧ call.handle = old.handle ∧ ¬e.EndsCall s := by
    intro k he hends
    rw [Table.find?_erase] at he
    split at he
    next => cases he
    next hne => exact ⟨call, he, rfl, hends (Ne.symm hne)⟩
  cases hn with
  | lost | shut =>
    rw [find?_failCalls] at hc
    refine Or.inl (same hc (fun call => ?_) (by simp [Event.EndsCall]))
    split <;> rfl
  | subscribed hs =>
    rw [Table.find?_insert] at hc
    split at hc
    next he =>
      cases hc
      refine Or.inr ⟨_, _, rfl, he.symm, rfl, rfl, fun id hi => ?_⟩
      cases hi
      rfl
    next => exact Or.inl ⟨call, hc, rfl, by simp [Event.EndsCall]⟩
  | requested hs =>
    rw [Table.find?_insert] at hc
    split at hc
    next he =>
      cases hc
      exact Or.inr ⟨_, _, rfl, he.symm, rfl, rfl, by simp⟩
    next => exact Or.inl ⟨call, hc, rfl, by simp [Event.EndsCall]⟩
  | replied | granted => exact Or.inl (adjusted hc (fun _ => rfl) (by simp [Event.EndsCall]))
  | cancelled | abandoned | returned | handed | denied =>
    exact Or.inl (erased hc fun hne => by simp [Event.EndsCall, hne])
  | _ => exact Or.inl ⟨call, hc, rfl, by simp [Event.EndsCall]⟩

/-- What hands a handle over to a caller. -/
def Hands (c : Client) (id : Nat) (e : Event) : Prop :=
  ∃ s answer, e = .fetched s (.ok answer) ∧ c.calls.find? s = some ⟨some id, some (.ok answer)⟩

theorem handle_happens (hn : Happens past c e after) {handle : Handle}
    (hh : after.handles.find? id = some handle) :
    (∃ old, c.handles.find? id = some old ∧ handle.topic = old.topic ∧
      (handle.held = old.held ∨ c.Hands id e)) ∨
    handle.held = false ∧ ∃ p body, e = .sent p body ∧ p.purpose = .subscribe id handle.topic := by
  have same : ∀ {f : Handle → Handle}, (c.handles.find? id).map f = some handle →
      (∀ h, (f h).topic = h.topic ∧ (f h).held = h.held) →
      ∃ old, c.handles.find? id = some old ∧ handle.topic = old.topic ∧
        (handle.held = old.held ∨ c.Hands id e) := by
    intro f he hf
    obtain ⟨old, ho, rfl⟩ := Option.map_eq_some_iff.mp he
    exact ⟨old, ho, (hf old).1, Or.inl (hf old).2⟩
  have adjusted : ∀ {k} {f : Handle → Handle}, (c.handles.adjust k f).find? id = some handle →
      (∀ h, (f h).topic = h.topic ∧ (f h).held = h.held) →
      ∃ old, c.handles.find? id = some old ∧ handle.topic = old.topic ∧
        (handle.held = old.held ∨ c.Hands id e) := by
    intro k f he hf
    rw [Table.find?_adjust] at he
    split at he
    next => exact same he hf
    next => exact ⟨handle, he, rfl, Or.inl rfl⟩
  cases hn with
  | lost hl =>
    rw [Table.find?_map] at hh
    exact Or.inl (same hh fun h => by split <;> exact ⟨rfl, rfl⟩)
  | pushed hl he =>
    simp only [route, Table.find?_map] at hh
    exact Or.inl (same hh fun h => by split <;> exact ⟨rfl, rfl⟩)
  | subscribed hs =>
    rw [Table.find?_insert] at hh
    split at hh
    next he =>
      cases hh
      exact Or.inr ⟨rfl, _, _, rfl, by rw [he]⟩
    next => exact Or.inl ⟨handle, hh, rfl, Or.inl rfl⟩
  | unsent | failed | restored =>
    split at hh
    next => exact Or.inl (adjusted hh fun _ => ⟨rfl, rfl⟩)
    next => exact Or.inl ⟨handle, hh, rfl, Or.inl rfl⟩
  | granted | received => exact Or.inl (adjusted hh fun _ => ⟨rfl, rfl⟩)
  | abandoned | denied | dropped =>
    simp only [release, detach, Table.find?_erase] at hh
    split at hh
    next => cases hh
    next => exact Or.inl ⟨handle, hh, rfl, Or.inl rfl⟩
  | @handed s k answer hs =>
    rw [Table.find?_adjust] at hh
    split at hh
    next he =>
      subst he
      obtain ⟨old, ho, rfl⟩ := Option.map_eq_some_iff.mp hh
      exact Or.inl ⟨old, ho, rfl, Or.inr ⟨s, answer, rfl, hs⟩⟩
    next => exact Or.inl ⟨handle, hh, rfl, Or.inl rfl⟩
  | _ => exact Or.inl ⟨handle, hh, rfl, Or.inl rfl⟩

/-- What takes a handle away: its call ends without it, or its holder drops it. -/
def Frees (c : Client) (id : Nat) (e : Event) : Prop :=
  (∃ s call, (e = .cancelled s ∨ ∃ err, e = .fetched s (.error err)) ∧
    c.calls.find? s = some call ∧ call.handle = some id) ∨
  e = .detached id ∧ (c.held? id).isSome = true

theorem handle_kept (hn : Happens past c e after) {old : Handle}
    (hh : c.handles.find? id = some old) :
    (∃ handle, after.handles.find? id = some handle ∧
      (handle.held = true → old.held = true ∨ c.Hands id e)) ∨ c.Frees id e := by
  have same : ∀ {f : Handle → Handle}, (∀ h, (f h).held = h.held) →
      ∃ handle, (c.handles.find? id).map f = some handle ∧
        (handle.held = true → old.held = true ∨ c.Hands id e) := by
    intro f hf
    exact ⟨f old, by rw [hh]; rfl, fun h => Or.inl (hf old ▸ h)⟩
  have adjusted : ∀ {k} {f : Handle → Handle}, (∀ h, (f h).held = h.held) →
      ∃ handle, (c.handles.adjust k f).find? id = some handle ∧
        (handle.held = true → old.held = true ∨ c.Hands id e) := by
    intro k f hf
    rw [Table.find?_adjust]
    split
    next => exact same hf
    next => exact ⟨old, hh, Or.inl⟩
  have erased : ∀ {k}, (id = k → c.Frees id e) →
      (∃ handle, (c.handles.erase k).find? id = some handle ∧
        (handle.held = true → old.held = true ∨ c.Hands id e)) ∨ c.Frees id e := by
    intro k hf
    rw [Table.find?_erase]
    split
    next he => exact Or.inr (hf he)
    next => exact Or.inl ⟨old, hh, Or.inl⟩
  cases hn with
  | lost hl =>
    rw [Table.find?_map]
    exact Or.inl (same fun h => by split <;> rfl)
  | pushed hl he =>
    simp only [route, Table.find?_map]
    exact Or.inl (same fun h => by split <;> rfl)
  | subscribed hs =>
    rw [Table.find?_insert]
    split
    next => exact Or.inl ⟨_, rfl, by simp⟩
    next => exact Or.inl ⟨old, hh, Or.inl⟩
  | unsent | failed | restored =>
    simp only
    split
    next => exact Or.inl (adjusted fun _ => rfl)
    next => exact Or.inl ⟨old, hh, Or.inl⟩
  | granted | received => exact Or.inl (adjusted fun _ => rfl)
  | abandoned hs hc =>
    refine erased fun he => Or.inl ⟨_, _, Or.inl rfl, hs, ?_⟩
    rw [hc, he]
  | denied hs => exact erased fun he => Or.inl ⟨_, _, Or.inr ⟨_, rfl⟩, hs, by rw [he]⟩
  | dropped hd =>
    refine erased fun he => Or.inr ?_
    subst he
    exact ⟨rfl, hd⟩
  | @handed s k answer hs =>
    rw [Table.find?_adjust]
    split
    next he =>
      subst he
      exact Or.inl ⟨{ old with held := true }, by rw [hh]; rfl, fun _ => Or.inr ⟨s, answer, rfl, hs⟩⟩
    next => exact Or.inl ⟨old, hh, Or.inl⟩
  | _ => exact Or.inl ⟨old, hh, Or.inl⟩

/-- A subscription is made when its call is answered with success, and it keeps its topic. It does not
outlive its handle. -/
theorem registry_happens (hn : Happens past c e after) {s : Subscribed}
    (hs : after.registry.find? id = some s) :
    (∃ old, c.registry.find? id = some old ∧ s.topic = old.topic ∧ ¬c.Frees id e ∧
      (s = old ∨ ∃ link, c.link = some link ∧ s.generation = link.generation)) ∨
    ∃ link f p reply, c.link = some link ∧ e = .terminal link.generation f ∧
      c.correlator.pending.find? f.sequence = some p ∧ p.purpose = .subscribe id s.topic ∧
      answerTo s.topic f = .ok reply ∧ c.calls.contains p.sequence = true ∧
      s.generation = link.generation := by
  have kept : c.registry.find? id = some s → ¬c.Frees id e →
      ∃ old, c.registry.find? id = some old ∧ s.topic = old.topic ∧ ¬c.Frees id e ∧
        (s = old ∨ ∃ link, c.link = some link ∧ s.generation = link.generation) :=
    fun h hf => ⟨s, h, rfl, hf, Or.inl rfl⟩
  have erased : ∀ {k}, (c.registry.erase k).find? id = some s → (id ≠ k → ¬c.Frees id e) →
      ∃ old, c.registry.find? id = some old ∧ s.topic = old.topic ∧ ¬c.Frees id e ∧
        (s = old ∨ ∃ link, c.link = some link ∧ s.generation = link.generation) := by
    intro k h hf
    rw [Table.find?_erase] at h
    split at h
    next => cases h
    next hne => exact kept h (hf hne)
  cases hn with
  | shut => cases hs
  | unsent | late | failed => exact Or.inl (erased hs fun _ => by simp [Frees])
  | unsubscribed | dropped => exact Or.inl (erased hs fun hne => by simp [Frees, Ne.symm hne])
  | abandoned hc hi => exact Or.inl (erased hs fun hne => by simp [Frees, hc, hi, Ne.symm hne])
  | denied hc => exact Or.inl (erased hs fun hne => by simp [Frees, hc, Ne.symm hne])
  | cancelled hc hi => exact Or.inl (kept hs (by simp [Frees, hc, hi]))
  | returned hc => exact Or.inl (kept hs (by simp [Frees, hc]))
  | @granted link f p k topic reply hl hp hq ha there =>
    rw [Table.find?_insert] at hs
    split at hs
    next he =>
      cases hs
      exact Or.inr ⟨link, f, p, reply, hl, rfl, hp, he ▸ hq, ha, there, rfl⟩
    next => exact Or.inl (kept hs (by simp [Frees]))
  | @restored link f p k topic reply hl hp hq there ha =>
    rw [Table.find?_adjust] at hs
    split at hs
    next =>
      obtain ⟨old, ho, rfl⟩ := Option.map_eq_some_iff.mp hs
      exact Or.inl ⟨old, ho, rfl, by simp [Frees], Or.inr ⟨link, hl, rfl⟩⟩
    next => exact Or.inl (kept hs (by simp [Frees]))
  | _ => exact Or.inl (kept hs (by simp [Frees]))

end Telemux.Client
