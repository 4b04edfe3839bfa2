import Telemux.Proofs.Subscriptions

namespace Telemux.Client

variable {config : FrameConfig} {c : Client} {past : List Event}

theorem traced_handle_request (h : Traced config c past) {id : Nat} {handle : Handle}
    (hh : c.handles.find? id = some handle) :
    ∃ p ∈ requests past, p.purpose = .subscribe id handle.topic := by
  induction h generalizing handle with
  | start => cases hh
  | skip _ ih => exact ih hh
  | refuse _ _ _ ih => exact ih hh
  | next ht hn ih =>
    rcases handle_happens hn hh with ⟨old, ho, htopic, -⟩ | ⟨-, p, body, rfl, hq⟩
    · obtain ⟨p, hp, hq⟩ := ih ho
      exact ⟨p, mem_requests_cons _ hp, htopic ▸ hq⟩
    · exact ⟨p, List.mem_cons_self, hq⟩

/-- Handles that belong to calls are there, and nobody holds them yet. -/
theorem traced_called (h : Traced config c past) {s id : Nat} {call : Call}
    (hc : c.calls.find? s = some call) (hi : call.handle = some id) :
    ∃ handle, c.handles.find? id = some handle ∧ handle.held = false := by
  induction h generalizing call with
  | start => cases hc
  | skip _ ih => exact ih hc hi
  | refuse _ _ _ ih => exact ih hc hi
  | @next c past e after ht hn ih =>
    rcases call_happens hn hc with ⟨old, ho, hsame, stays⟩ | ⟨p, body, rfl, -, hcall, hhandle, hnew⟩
    · have hi' : old.handle = some id := hsame ▸ hi
      obtain ⟨handle, hh, hf⟩ := ih ho hi'
      -- No other call has this handle, so nothing hands it over or takes it away.
      have only : ∀ {k gone}, c.calls.find? k = some gone → gone.handle = some id → k = s :=
        fun hk hg => eq_of_handle ht hk ho hg hi'
      rcases handle_kept hn hh with ⟨new, hnew, hheld⟩ | ⟨k, gone, hends, hk, hg⟩ | ⟨-, hd⟩
      · refine ⟨new, hnew, Bool.eq_false_iff.mpr fun held => ?_⟩
        rcases hheld held with hold | ⟨k, answer, rfl, hk⟩
        · simp [hf] at hold
        · exact stays (Or.inr ⟨_, by rw [only hk rfl]⟩)
      · cases only hk hg
        rcases hends with he | ⟨err, he⟩
        · exact absurd (Or.inl he) stays
        · exact absurd (Or.inr ⟨_, he⟩) stays
      · simp [held?, hh, hf] at hd
    · rw [hhandle] at hi
      obtain ⟨topic, hq⟩ := Purpose.eq_subscribe_of_handle hi
      cases hn with
      | subscribed hs =>
        cases hq
        exact ⟨_, by rw [Table.find?_insert, if_pos rfl], rfl⟩
      | requested | replayed => cases hq

theorem traced_handled (h : Traced config c past) {id : Nat} {s : Subscribed}
    (hs : c.registry.find? id = some s) : c.handles.contains id = true := by
  induction h generalizing s with
  | start => cases hs
  | skip _ ih => exact ih hs
  | refuse _ _ _ ih => exact ih hs
  | @next c past e after ht hn ih =>
    have there : ∃ handle, c.handles.find? id = some handle ∧ ¬c.Frees id e := by
      rcases registry_happens hn hs with
        ⟨old, ho, -, hfree, -⟩ | ⟨link, f, p, reply, hl, rfl, hp, hq, ha, there, -⟩
      · obtain ⟨handle, hh⟩ := Option.isSome_iff_exists.mp (ih ho)
        exact ⟨handle, hh, hfree⟩
      · obtain ⟨call, hc⟩ := Option.isSome_iff_exists.mp there
        obtain ⟨q, body, later, earlier, hsent, hseq, -, -, rfl⟩ := traced_call_sent ht hc
        have hw := waiting_subset_requests ((traced_waiting ht).mp hp).1
        have same := eq_of_sequence ht (mem_requests_of_sent hsent) hw hseq
        subst same
        obtain ⟨handle, hh, -⟩ := traced_called ht hc (by rw [hq]; rfl)
        exact ⟨handle, hh, by simp [Frees]⟩
    obtain ⟨handle, hh, hfree⟩ := there
    obtain ⟨new, hnew, -⟩ := (handle_kept hn hh).resolve_right hfree
    rw [Table.contains, hnew]
    rfl

/-- Routes and registry are about the same subscriptions. -/
theorem traced_routed (h : Traced config c past) (id : Nat) :
    (c.routes.find? id).map (·.topic) = (c.registry.find? id).map (·.topic) := by
  induction h with
  | start => rfl
  | skip _ ih => exact ih
  | refuse _ _ _ ih => exact ih
  | @next c past e after ht hn ih =>
    have erased : ∀ k, ((c.routes.erase k).find? id).map (·.topic) =
        ((c.registry.erase k).find? id).map (·.topic) := by
      intro k
      rw [Table.find?_erase, Table.find?_erase]
      split
      next => rfl
      next => exact ih
    cases hn with
    | lost hl =>
      rw [Table.find?_map, Option.map_map]
      exact ih
    | shut hc => rfl
    | unsent | late | failed | unsubscribed | dropped | abandoned | denied => exact erased _
    | granted =>
      rw [Table.find?_insert, Table.find?_insert]
      split
      next => rfl
      next => exact ih
    | restored =>
      rw [Table.find?_adjust, Table.find?_adjust]
      split
      next =>
        rw [Option.map_map, Option.map_map]
        exact ih
      next => exact ih
    | pushed hl he =>
      -- No route goes away here, since every route has its handle.
      simp only [route, Table.find?_filter]
      rw [← ih]
      cases hr : c.routes.find? id with
      | none => rfl
      | some r =>
        obtain ⟨s, hs, -⟩ := Option.map_eq_some_iff.mp (ih.symm.trans (congrArg _ hr))
        simp [Option.filter, traced_handled ht hs]
    | _ => exact ih

theorem exists_registered (h : Traced config c past) {id : Nat} {r : Route}
    (hr : c.routes.find? id = some r) : ∃ s, c.registry.find? id = some s ∧ s.topic = r.topic :=
  Option.map_eq_some_iff.mp ((traced_routed h id).symm.trans (congrArg (Option.map _) hr))

theorem exists_routed (h : Traced config c past) {id : Nat} {s : Subscribed}
    (hs : c.registry.find? id = some s) : ∃ r, c.routes.find? id = some r ∧ r.topic = s.topic :=
  Option.map_eq_some_iff.mp ((traced_routed h id).trans (congrArg (Option.map _) hs))

theorem unrouted_of_unregistered (h : Traced config c past) {id : Nat}
    (hs : c.registry.find? id = none) : c.routes.find? id = none := by
  have same := traced_routed h id
  rw [hs] at same
  simpa using same

/-- A handle that somebody holds was fetched by its call. -/
def Fetched (past : List Event) (id : Nat) (topic : Topic) : Prop :=
  ∃ p body later earlier o, past = later ++ .sent p body :: earlier ∧
    p.purpose = .subscribe id topic ∧ .fetched p.sequence o ∈ later

theorem Fetched.cons {id : Nat} {topic : Topic} (h : Fetched past id topic) (e : Event) :
    Fetched (e :: past) id topic := by
  obtain ⟨p, body, later, earlier, o, hs, hq, ho⟩ := h
  exact ⟨p, body, e :: later, earlier, o, by rw [hs]; rfl, hq, List.mem_cons_of_mem _ ho⟩

theorem traced_held (h : Traced config c past) {id : Nat} {handle : Handle}
    (hh : c.handles.find? id = some handle) (held : handle.held = true) :
    Fetched past id handle.topic := by
  induction h generalizing handle with
  | start => cases hh
  | skip _ ih => exact ih hh held
  | refuse _ _ _ ih => exact ih hh held
  | @next c past e after ht hn ih =>
    rcases handle_happens hn hh with ⟨old, ho, htopic, hheld | ⟨s, answer, rfl, hs⟩⟩ | ⟨hf, -⟩
    · rw [htopic]
      exact (ih ho (hheld ▸ held)).cons e
    · obtain ⟨p, body, later, earlier, hp, rfl, -, -, hcall⟩ := traced_call_sent ht hs
      obtain ⟨topic, hq⟩ := Purpose.eq_subscribe_of_handle (congrArg Call.handle hcall).symm
      obtain ⟨q, hq', ho'⟩ := traced_handle_request ht ho
      have same := eq_of_subscribe ht (mem_requests_of_sent hp) hq' hq ho'
      rw [htopic]
      exact ⟨p, body, _ :: later, earlier, _, by rw [hp]; rfl, same ▸ ho', List.mem_cons_self⟩
    · simp [hf] at held

end Telemux.Client
