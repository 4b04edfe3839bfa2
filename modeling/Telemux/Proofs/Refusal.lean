import Telemux.Proofs.Closing
import Telemux.Proofs.Sequences

namespace Telemux

namespace Client

/-- The size of the text that a request would be written as. -/
def textSize (c : Client) (body : RequestBody) : Nat :=
  ((Frame.request c.correlator.next body).envelope c.config).compact.utf8ByteSize

/-- Why a request is not written, with the error that its caller gets at once. -/
inductive Refused (c : Client) (body : RequestBody) : ClientError → Prop
  | closed (hc : c.closed = true) : Refused c body .closed
  | unlinked (hc : c.closed = false) (hl : c.link = none) : Refused c body .notConnected
  | tooLarge {link} (hc : c.closed = false) (hl : c.link = some link)
      (big : c.config.maxSize < c.textSize body) :
    Refused c body (.frame (.tooLarge (c.textSize body) c.config.maxSize))
  | deaf {link} (hc : c.closed = false) (hl : c.link = some link)
      (fits : c.textSize body ≤ c.config.maxSize) (full : link.accepting = false) :
    Refused c body .notConnected

variable {c : Client} {body : RequestBody} {e : ClientError}

/-- A request has an object for its body, so only its size can be wrong with it. -/
theorem encode_request (c : Client) (body : RequestBody) :
    (Frame.request c.correlator.next body).encode c.config =
      if c.textSize body ≤ c.config.maxSize then
        .ok ((Frame.request c.correlator.next body).envelope c.config).compact
      else .error (.tooLarge (c.textSize body) c.config.maxSize) :=
  rfl

theorem sendRequest_error_iff {purpose : Purpose} :
    c.sendRequest body purpose = .error e ↔ c.Refused body e := by
  constructor
  · intro h
    cases hc : c.closed with
    | true =>
      have told : c.sendRequest body purpose = .error .closed := by simp [sendRequest, hc]
      cases told.symm.trans h
      exact .closed hc
    | false =>
      cases hl : c.link with
      | none =>
        have told : c.sendRequest body purpose = .error .notConnected := by simp [sendRequest, hc, hl]
        cases told.symm.trans h
        exact .unlinked hc hl
      | some link =>
        rcases sendRequest_error hc hl h with ⟨fault, he, rfl⟩ | ⟨⟨text, he⟩, full, rfl⟩
        · rw [encode_request] at he
          split at he
          next => cases he
          next big =>
            cases he
            exact .tooLarge hc hl (Nat.lt_of_not_le big)
        · rw [encode_request] at he
          split at he
          next fits => exact .deaf hc hl fits full
          next => cases he
  · intro h
    cases h with
    | closed hc => simp [sendRequest, hc]
    | unlinked hc hl => simp [sendRequest, hc, hl]
    | tooLarge hc hl big =>
      simp [sendRequest, hc, hl, encode_request, Nat.not_le_of_lt big]
    | deaf hc hl fits full => simp [sendRequest, hc, hl, encode_request, fits, full]

theorem refused_skip {n : Nat} : ({ c with nextId := n } : Client).Refused body e ↔ c.Refused body e := by
  constructor <;> intro h <;> cases h with
  | closed hc => exact .closed hc
  | unlinked hc hl => exact .unlinked hc hl
  | tooLarge hc hl big => exact .tooLarge hc hl big
  | deaf hc hl fits full => exact .deaf hc hl fits full

theorem subscribe_error_iff {topic : Topic} :
    (c.subscribe topic).2 = .error e ↔ c.Refused topic.requestBody e := by
  have fails : (c.subscribe topic).2 = .error e ↔
      ({ c with nextId := c.nextId + 1 } : Client).sendRequest topic.requestBody
        (.subscribe c.nextId topic) = .error e := by
    simp only [subscribe]
    split
    next he => simp [he]
    next he => simp [he]
  exact fails.trans (sendRequest_error_iff.trans refused_skip)

theorem request_error_iff : (c.request body).2 = .error e ↔ c.Refused body e := by
  have fails : (c.request body).2 = .error e ↔ c.sendRequest body .request = .error e := by
    simp only [request]
    split
    next he => simp [he]
    next he => simp [he]
  exact fails.trans sendRequest_error_iff

theorem sending_of_refused {purpose : Purpose} (h : c.Refused body e) : c.sending body purpose = [] :=
  sending_of_error (sendRequest_error_iff.mpr h)

theorem attach_error_iff {room : Option Nat} :
    (c.attach room).2 = .error e ↔ c.closed = true ∧ e = .closed := by
  unfold attach
  cases hc : c.closed <;> simp [eq_comm]

end Client

namespace Hub

/-- Why no link to an address comes about, with the error that the caller gets. -/
inductive Unlinkable (h : Hub) (url : String) : ClientError → Prop
  | invalid {fault} (hp : Endpoint.parse url = .error fault) :
    Unlinkable h url (.transport (.invalidEndpoint url fault))
  | closed {endpoint} (hp : Endpoint.parse url = .ok endpoint) (hc : h.client.closed = true) :
    Unlinkable h url .closed
  | shutdown {endpoint} (hp : Endpoint.parse url = .ok endpoint) (hc : h.client.closed = false)
      (hl : h.listening = false) : Unlinkable h url (.transport .shutdown)

variable {h : Hub} {e : ClientError}

/-- A link that is turned away is at most told to close, and the rest of the hub stays. -/
structure TurnsAway (h after : Hub) (line : Line) : Prop where
  rest : after = { h with lines := h.lines ++ [line] }
  unused : line.generation = none
  told : line.told = [] ∨ line.told = [.close]

theorem attachLink_error_iff {queue : List Inbound} {room : Option Nat} :
    (h.attachLink queue room).2 = .error e ↔ h.client.closed = true ∧ e = .closed := by
  have fails : (h.attachLink queue room).2 = .error e ↔ (h.client.attach room).2 = .error e := by
    unfold attachLink
    split
    next he => simp [he]
    next he => simp [he]
  exact fails.trans Client.attach_error_iff

theorem turnsAway_attachLink (hc : h.client.closed = true) (queue : List Inbound) (room : Option Nat) :
    h.TurnsAway (h.attachLink queue room).1 (.turnedAway room) := by
  refine ⟨?_, rfl, ?_⟩
  · simp [attachLink, Client.attach_of_closed hc]
  · unfold Line.turnedAway
    split
    next => exact Or.inl rfl
    next => exact Or.inr rfl

theorem attach_error_iff {preclosed : Option CloseReason} :
    (h.attach preclosed).2 = .error e ↔ h.client.closed = true ∧ e = .closed := by
  cases preclosed <;> exact attachLink_error_iff

theorem turnsAway_attach (hc : h.client.closed = true) (preclosed : Option CloseReason) :
    ∃ line, h.TurnsAway (h.attach preclosed).1 line := by
  cases preclosed with
  | none => exact ⟨_, turnsAway_attachLink hc _ _⟩
  | some reason => exact ⟨_, turnsAway_attachLink hc _ _⟩

theorem connect_error_iff {url : String} : (h.connect url).2 = .error e ↔ h.Unlinkable url e := by
  constructor
  · intro he
    unfold connect at he
    split at he
    next hp =>
      cases he
      exact .invalid hp
    next hp =>
      split at he
      next hc =>
        cases he
        exact .closed hp hc
      next hc =>
        have on : h.client.closed = false := by simpa using hc
        split at he
        next hl =>
          have off := (attach_error_iff.mp he).1
          cases on.symm.trans off
        next hl =>
          cases he
          exact .shutdown hp on (by simpa using hl)
  · intro he
    cases he with
    | invalid hp => simp [connect, hp]
    | closed hp hc => simp [connect, hp, hc]
    | shutdown hp hc hl => simp [connect, hp, hc, hl]

theorem connect_of_unlinkable {url : String} (he : h.Unlinkable url e) : (h.connect url).1 = h := by
  cases he with
  | invalid hp => simp [connect, hp]
  | closed hp hc => simp [connect, hp, hc]
  | shutdown hp hc hl => simp [connect, hp, hc, hl]

end Hub

namespace Client

/-- Which calls fail at once, and that they leave everything as it was. A subscribe call takes an id
all the same. -/
structure FailsUnmoved (c : Client) : Prop where
  subscribe : ∀ topic e, (c.subscribe topic).2 = .error e ↔ c.Refused topic.requestBody e
  subscribed : ∀ topic e, (c.subscribe topic).2 = .error e →
    (c.subscribe topic).1 = { c with nextId := c.nextId + 1 } ∧ c.events (.subscribe topic) = []
  request : ∀ body e, (c.request body).2 = .error e ↔ c.Refused body e
  requested : ∀ body e, (c.request body).2 = .error e →
    (c.request body).1 = c ∧ c.events (.request body) = []
  attach : ∀ h : Hub, h.client = c → ∀ preclosed e,
    (h.attach preclosed).2 = .error e ↔ c.closed = true ∧ e = .closed
  attached : ∀ h : Hub, h.client = c → ∀ preclosed e, (h.attach preclosed).2 = .error e →
    ∃ line, h.TurnsAway (h.attach preclosed).1 line
  connect : ∀ h : Hub, h.client = c → ∀ url e, (h.connect url).2 = .error e ↔ h.Unlinkable url e
  connected : ∀ h : Hub, h.client = c → ∀ url e, (h.connect url).2 = .error e → (h.connect url).1 = h

theorem failsUnmoved (c : Client) : c.FailsUnmoved where
  subscribe _ _ := subscribe_error_iff
  subscribed _ _ h := ⟨subscribe_of_error h, sending_of_refused (subscribe_error_iff.mp h)⟩
  request _ _ := request_error_iff
  requested _ _ h := ⟨request_of_error h, sending_of_refused (request_error_iff.mp h)⟩
  attach _ hc _ _ := hc ▸ Hub.attach_error_iff
  attached _ _ _ _ he := Hub.turnsAway_attach (Hub.attach_error_iff.mp he).1 _
  connect _ _ _ _ := Hub.connect_error_iff
  connected _ _ _ _ he := Hub.connect_of_unlinkable (Hub.connect_error_iff.mp he)

/-- In every run, a call that fails at once has done nothing: there is a reason for which no request
could be written or no link taken into use, and the client and its hub are as they were. -/
theorem failures_change_nothing (config : FrameConfig) (steps : List Step) :
    ((fresh config).run steps).FailsUnmoved :=
  failsUnmoved _

/-- A client whose frames may have forty bytes, with a subscribe request on its way. -/
def cramped : Client :=
  (fresh ⟨1, 40⟩).run [.attach none, .subscribe .events]

def lengthyRequest : RequestBody :=
  ⟨"archive", "list-everything-there-is", none⟩

theorem cramped_unmoved :
    (cramped.request lengthyRequest).2 = .error (.frame (.tooLarge 46 40)) ∧
      (cramped.request lengthyRequest).1 = cramped := by
  have unmoved := failures_change_nothing ⟨1, 40⟩ [.attach none, .subscribe .events]
  have long : (cramped.request lengthyRequest).2 = .error (.frame (.tooLarge 46 40)) := by decide +kernel
  exact ⟨long, (unmoved.requested lengthyRequest _ long).1⟩

end Client

end Telemux
