import Telemux.Proofs.Waiting

namespace Telemux.Client

/-- The text of a request that goes out. -/
def wire? (config : FrameConfig) : Event → Option (Nat × Outbound)
  | .sent p body =>
    match (Frame.request p.sequence body).encode config with
    | .ok text => some (p.generation, .text text)
    | .error _ => none
  | _ => none

def isText (x : Nat × Outbound) : Bool :=
  match x.2 with
  | .text _ => true
  | .close => false

variable {config : FrameConfig} {c : Client} {past : List Event}

theorem texts_write_close (c : Client) (link : ActiveLink) :
    (c.write link .close).written.filter isText = c.written.filter isText := by
  unfold write
  split
  next => simp [isText]
  next => rfl

theorem texts_farewell (c : Client) : c.farewell.filter isText = c.written.filter isText := by
  unfold farewell
  split
  next link _ => exact texts_write_close c link
  next => rfl

/-- The texts on the wires are the requests that went out, in their order. -/
theorem traced_texts (h : Traced config c past) :
    c.written.filter isText = (past.filterMap (wire? config)).reverse := by
  induction h with
  | start => rfl
  | skip _ ih => exact ih
  | refuse _ _ _ ih => exact ih
  | @next c past e after ht hn ih =>
    have sends : ∀ {link text body} (purpose : Purpose), c.Sends link body text →
        (c.sentOn link text purpose).written.filter isText =
          ((.sent ⟨c.correlator.next, link.generation, purpose⟩ body :: past).filterMap
            (wire? config)).reverse := by
      intro link text body purpose hs
      have he := hs.encodes
      rw [traced_config ht] at he
      simp [sentOn, wire?, he, isText, ih]
    cases hn with
    | lost hl => exact (texts_write_close c _).trans ih
    | shut hc => exact (texts_farewell c).trans ih
    | subscribed hs | requested hs | replayed hs => exact sends _ hs
    | _ => exact ih

theorem traced_encodes (h : Traced config c past) {p : Pending Purpose} {body : RequestBody}
    (hp : .sent p body ∈ past) :
    ∃ text, (Frame.request p.sequence body).encode config = .ok text := by
  induction h with
  | start => cases hp
  | skip _ ih => exact ih hp
  | refuse _ _ _ ih => exact ih hp
  | @next c past e after ht hn ih =>
    rcases List.mem_cons.mp hp with rfl | hp
    · rw [← traced_config ht]
      cases hn with
      | subscribed hs | requested hs | replayed hs => exact ⟨_, hs.encodes⟩
    · exact ih hp

theorem traced_wire (h : Traced config c past) {p : Pending Purpose} {body : RequestBody}
    (hp : .sent p body ∈ past) :
    ∃ text, (Frame.request p.sequence body).encode config = .ok text ∧
      (p.generation, .text text) ∈ c.written := by
  obtain ⟨text, he⟩ := traced_encodes h hp
  refine ⟨text, he, ?_⟩
  have mem : (p.generation, Outbound.text text) ∈ (past.filterMap (wire? config)).reverse := by
    rw [List.mem_reverse, List.mem_filterMap]
    exact ⟨_, hp, by simp [wire?, he]⟩
  rw [← traced_texts h] at mem
  exact (List.mem_filter.mp mem).1

end Telemux.Client
