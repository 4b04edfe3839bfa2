import Telemux.Proofs.Operation

namespace Telemux.Client

/-- What becomes of a subscription when it is its turn to be replayed. -/
inductive Fate where
  | written (sequence : Nat) (text : String)
  | unencodable (e : FrameError)
  | refused
  deriving DecidableEq

/-- The fates of the subscriptions that are due on a link with so much room, from some sequence on.
The link that refuses one gets none of the rest. -/
def fates (config : FrameConfig) : Nat → Option Nat → List (Nat × Topic) → List ((Nat × Topic) × Fate)
  | _, _, [] => []
  | next, room, d :: rest =>
    match (Frame.request next d.2.requestBody).encode config with
    | .error e => (d, .unencodable e) :: fates config next room rest
    | .ok text =>
      if room = some 0 then (d :: rest).map fun d => (d, .refused)
      else (d, .written next text) :: fates config (next + 1) (room.map (· - 1)) rest

/-- What a replay puts on the wire of a link. -/
def wireOf (generation : Nat) : (Nat × Topic) × Fate → Option (Nat × Outbound)
  | (_, .written _ text) => some (generation, .text text)
  | _ => none

/-- What happens when a replay goes out or fails. -/
def eventFor (generation : Nat) : (Nat × Topic) × Fate → Option Event
  | ((id, topic), .written sequence _) =>
    some (.sent ⟨sequence, generation, .replay id topic⟩ topic.requestBody)
  | ((id, _), .unencodable e) => some (.unsent id (.frame e))
  | (_, .refused) => none

def sequenceOf : (Nat × Topic) × Fate → Option Nat
  | (_, .written sequence _) => some sequence
  | _ => none

variable {config : FrameConfig}

theorem map_fst_fates (next : Nat) (room : Option Nat) (due : List (Nat × Topic)) :
    (fates config next room due).map Prod.fst = due := by
  induction due generalizing next room with
  | nil => rfl
  | cons d rest ih =>
    unfold fates
    split
    next => rw [List.map_cons, ih]
    next =>
      split
      next => simp [Function.comp_def]
      next => rw [List.map_cons, ih]

theorem sequences_fates (next : Nat) (room : Option Nat) (due : List (Nat × Topic)) :
    ∃ n, (fates config next room due).filterMap sequenceOf = List.range' next n := by
  induction due generalizing next room with
  | nil => exact ⟨0, rfl⟩
  | cons d rest ih =>
    unfold fates
    split
    next => exact ih next room
    next =>
      split
      next =>
        refine ⟨0, ?_⟩
        rw [List.filterMap_map]
        exact List.filterMap_eq_nil_iff.mpr fun _ _ => rfl
      next =>
        obtain ⟨n, hn⟩ := ih (next + 1) (room.map (· - 1))
        exact ⟨n + 1, by rw [List.filterMap_cons, hn]; rfl⟩

/-- The first replay that the link refuses is followed by refused ones only. -/
theorem fates_split (next : Nat) (room : Option Nat) (due : List (Nat × Topic)) :
    ∃ handled left, fates config next room due = handled ++ left ∧
      (∀ x ∈ handled, x.2 ≠ .refused) ∧ ∀ x ∈ left, x.2 = .refused := by
  induction due generalizing next room with
  | nil => exact ⟨[], [], rfl, by simp, by simp⟩
  | cons d rest ih =>
    have more : ∀ {x : (Nat × Topic) × Fate} {fs : List ((Nat × Topic) × Fate)}, x.2 ≠ .refused →
        (∃ handled left, fs = handled ++ left ∧ (∀ x ∈ handled, x.2 ≠ .refused) ∧
          ∀ x ∈ left, x.2 = .refused) →
        ∃ handled left, x :: fs = handled ++ left ∧ (∀ x ∈ handled, x.2 ≠ .refused) ∧
          ∀ x ∈ left, x.2 = .refused := by
      rintro x fs hx ⟨handled, left, rfl, hh, hl⟩
      exact ⟨x :: handled, left, rfl, List.forall_mem_cons.mpr ⟨hx, hh⟩, hl⟩
    unfold fates
    split
    next => exact more (by simp) (ih next room)
    next =>
      split
      next =>
        refine ⟨[], (d :: rest).map fun d => (d, .refused), rfl, by simp, fun x hx => ?_⟩
        obtain ⟨y, -, rfl⟩ := List.mem_map.mp hx
        rfl
      next => exact more (by simp) (ih (next + 1) (room.map (· - 1)))

/-- What the frame of a replay has to do with its fate. -/
def Fate.Fits (config : FrameConfig) (body : RequestBody) : Fate → Prop
  | .written sequence text => (Frame.request sequence body).encode config = .ok text
  | .unencodable e => ∃ n, (Frame.request n body).encode config = .error e
  | .refused => True

theorem fits_of_mem_fates {next : Nat} {room : Option Nat} {due : List (Nat × Topic)}
    {d : Nat × Topic} {fate : Fate} (h : (d, fate) ∈ fates config next room due) :
    fate.Fits config d.2.requestBody := by
  induction due generalizing next room with
  | nil => cases h
  | cons first rest ih =>
    unfold fates at h
    split at h
    next e he =>
      rcases List.mem_cons.mp h with hd | h
      · cases hd
        exact ⟨next, he⟩
      · exact ih h
    next text he =>
      split at h
      next =>
        obtain ⟨y, -, hy⟩ := List.mem_map.mp h
        cases hy
        trivial
      next =>
        rcases List.mem_cons.mp h with hd | h
        · cases hd
          exact he
        · exact ih h

/-- What a round of replays does to a client. -/
structure Round (c after : Client) (link : ActiveLink) (fs : List ((Nat × Topic) × Fate)) : Prop where
  written : after.written = c.written ++ fs.filterMap (wireOf link.generation)
  link : ∃ l, after.link = some l ∧ l.generation = link.generation ∧
    ((∃ x ∈ fs, x.2 = .refused) → l.accepting = false)
  spared : ∀ id, (∀ topic e, ((id, topic), .unencodable e) ∉ fs) →
    after.routes.find? id = c.routes.find? id ∧ after.registry.find? id = c.registry.find? id ∧
      after.handles.find? id = c.handles.find? id
  ended : ∀ id topic e, ((id, topic), .unencodable e) ∈ fs → after.routes.find? id = none ∧
    after.registry.find? id = none ∧ after.handles.find? id =
      if c.routes.contains id then
        (c.handles.find? id).map fun h => { h with queue := h.queue ++ [.error (.frame e)] }
      else c.handles.find? id

theorem mem_due_of_fate {next : Nat} {room : Option Nat} {due : List (Nat × Topic)} {d : Nat × Topic}
    {fate : Fate} (h : (d, fate) ∈ fates config next room due) : d ∈ due := by
  rw [← map_fst_fates next room due]
  exact List.mem_map.mpr ⟨_, h, rfl⟩

theorem endSubscription_of_ne (c : Client) {id k : Nat} (e : ClientError) (h : k ≠ id) :
    (c.endSubscription id e).routes.find? k = c.routes.find? k ∧
      (c.endSubscription id e).registry.find? k = c.registry.find? k ∧
      (c.endSubscription id e).handles.find? k = c.handles.find? k := by
  rw [endSubscription_eq]
  simp only [Table.find?_erase, if_neg h, true_and]
  split
  next => rw [Table.find?_adjust, if_neg h]
  next => rfl

theorem endSubscription_self (c : Client) (id : Nat) (e : ClientError) :
    (c.endSubscription id e).routes.find? id = none ∧
      (c.endSubscription id e).registry.find? id = none ∧
      (c.endSubscription id e).handles.find? id =
        if c.routes.contains id then
          (c.handles.find? id).map fun h => { h with queue := h.queue ++ [.error e] }
        else c.handles.find? id := by
  rw [endSubscription_eq]
  simp only [Table.find?_erase, if_true, true_and]
  split
  next => rw [Table.find?_adjust, if_pos rfl]
  next => rfl

theorem round_of_unencodable {c after : Client} {link : ActiveLink} {id : Nat} {topic : Topic}
    {e : FrameError} {next : Nat} {room : Option Nat} {rest : List (Nat × Topic)}
    (hnot : id ∉ rest.map Prod.fst)
    (h : Round (c.endSubscription id (.frame e)) after link (fates config next room rest)) :
    Round c after link (((id, topic), .unencodable e) :: fates config next room rest) := by
  have gone : ∀ t e', ((id, t), .unencodable e') ∉ fates config next room rest := by
    intro t e' hm
    exact hnot (List.mem_map.mpr ⟨_, mem_due_of_fate hm, rfl⟩)
  refine ⟨?_, ?_, fun k hk => ?_, fun k t e' hm => ?_⟩
  · rw [h.written, List.filterMap_cons_none rfl, endSubscription_eq]
  · obtain ⟨l, hl, hg, hr⟩ := h.link
    refine ⟨l, hl, hg, fun full => hr ?_⟩
    obtain ⟨x, hx, hf⟩ := full
    rcases List.mem_cons.mp hx with rfl | hx
    · cases hf
    · exact ⟨x, hx, hf⟩
  · have hne : k ≠ id := by
      rintro rfl
      exact hk topic e List.mem_cons_self
    obtain ⟨hroutes, hregistry, hhandles⟩ := h.spared k fun t e' hm => hk t e' (List.mem_cons_of_mem _ hm)
    rw [hroutes, hregistry, hhandles]
    exact endSubscription_of_ne c _ hne
  · rcases List.mem_cons.mp hm with he | later
    · cases he
      obtain ⟨hroutes, hregistry, hhandles⟩ := h.spared id gone
      rw [hroutes, hregistry, hhandles]
      exact endSubscription_self c id _
    · have hne : k ≠ id := by
        rintro rfl
        exact gone t e' later
      obtain ⟨hroutes, hregistry, hhandles⟩ := h.ended k t e' later
      obtain ⟨sroutes, -, shandles⟩ := endSubscription_of_ne c (.frame e) hne
      rw [Table.contains, sroutes, shandles] at hhandles
      exact ⟨hroutes, hregistry, hhandles⟩

theorem round_of_sends {c after : Client} {link : ActiveLink} {id : Nat} {topic : Topic} {text : String}
    {next : Nat} {room : Option Nat} {rest : List (Nat × Topic)}
    (h : Round (c.sentOn link text (.replay id topic)) after link.spend (fates config next room rest)) :
    Round c after link
      (((id, topic), .written c.correlator.next text) :: fates config next room rest) := by
  refine ⟨?_, ?_, fun k hk => ?_, fun k t e' hm => ?_⟩
  · have first : wireOf link.generation ((id, topic), .written c.correlator.next text) =
        some (link.generation, .text text) := rfl
    rw [h.written, List.filterMap_cons_some first]
    simp [sentOn, ActiveLink.spend]
  · obtain ⟨l, hl, hg, hr⟩ := h.link
    refine ⟨l, hl, hg, fun full => hr ?_⟩
    obtain ⟨x, hx, hf⟩ := full
    rcases List.mem_cons.mp hx with rfl | hx
    · cases hf
    · exact ⟨x, hx, hf⟩
  · exact h.spared k fun t e' hm => hk t e' (List.mem_cons_of_mem _ hm)
  · rcases List.mem_cons.mp hm with he | hm
    · cases he
    · exact h.ended k t e' hm

theorem round_of_refused {c : Client} {link : ActiveLink} (hl : c.link = some link)
    (full : link.accepting = false) (due : List (Nat × Topic)) :
    Round c c link (due.map fun d => (d, .refused)) := by
  refine ⟨?_, ⟨link, hl, rfl, fun _ => full⟩, fun _ _ => ⟨rfl, rfl, rfl⟩, fun id topic e hm => ?_⟩
  · have silent : (due.map fun d => (d, Fate.refused)).filterMap (wireOf link.generation) = [] := by
      rw [List.filterMap_map]
      exact List.filterMap_eq_nil_iff.mpr fun _ _ => rfl
    rw [silent, List.append_nil]
  · obtain ⟨d, -, he⟩ := List.mem_map.mp hm
    cases he

theorem replay_round {c : Client} {link : ActiveLink} {due : List (Nat × Topic)}
    (hc : c.closed = false) (hl : c.link = some link) (distinct : (due.map Prod.fst).Nodup) :
    Round c (c.replay due) link (fates c.config c.correlator.next link.room due) ∧
      c.replaying due =
        (fates c.config c.correlator.next link.room due).filterMap (eventFor link.generation) := by
  induction due generalizing c link with
  | nil => exact ⟨⟨by simp [fates, replay], ⟨link, hl, rfl, by simp [fates]⟩, fun _ _ => ⟨rfl, rfl, rfl⟩,
      by simp [fates]⟩, rfl⟩
  | cons d rest ih =>
    obtain ⟨id, topic⟩ := d
    obtain ⟨hnot, hrest⟩ := List.nodup_cons.mp distinct
    unfold fates
    split
    next e he =>
      have hs : c.sendRequest topic.requestBody (.replay id topic) = .error (.frame e) := by
        simp only [sendRequest, hc, hl, he, Bool.false_eq_true, if_false]
      obtain ⟨hround, hev⟩ := @ih (c.endSubscription id (.frame e)) link
        (by rw [endSubscription_eq]; exact hc) (by rw [endSubscription_eq]; exact hl) hrest
      rw [replay, replaying, hs]
      simp only
      have same : fates (c.endSubscription id (.frame e)).config
          (c.endSubscription id (.frame e)).correlator.next link.room rest =
          fates c.config c.correlator.next link.room rest := by rw [endSubscription_eq]
      rw [same] at hround hev
      refine ⟨round_of_unencodable hnot hround, ?_⟩
      rw [hev]
      rfl
    next text he =>
      by_cases hroom : link.room = some 0
      · have hs : c.sendRequest topic.requestBody (.replay id topic) = .error .notConnected := by
          simp [sendRequest, hc, hl, he, ActiveLink.accepting, hroom]
        rw [if_pos hroom, replay, replaying, hs]
        have full : link.accepting = false := by simp [ActiveLink.accepting, hroom]
        refine ⟨round_of_refused hl full _, ?_⟩
        rw [List.filterMap_map]
        exact (List.filterMap_eq_nil_iff.mpr fun _ _ => rfl).symm
      · have hs : c.Sends link topic.requestBody text :=
          ⟨hc, hl, by simpa [ActiveLink.accepting] using hroom, he⟩
        obtain ⟨hround, hev⟩ := @ih (c.sentOn link text (.replay id topic)) link.spend hc rfl hrest
        rw [if_neg hroom, replay, replaying, sendRequest_of_sends hs, sending_of_sends hs]
        refine ⟨round_of_sends hround, ?_⟩
        simp only
        rw [hev]
        rfl

end Telemux.Client
