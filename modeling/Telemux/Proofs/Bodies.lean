import Telemux.Proofs.RoundTrip

namespace Telemux

namespace Body

theorem build_eq (sequence : Nat) (b : Body) : b.build sequence = .ok (b.frame sequence) := by
  cases b <;> rfl

/-- What a frame carries if it is taken to be of a kind. -/
def ofFrame (f : Frame) : MessageKind → Except FrameError Body
  | .request => f.requestBody.map .request
  | .reply => f.replyBody.map .reply
  | .exception => f.exceptionBody.map .exception
  | .data => f.dataBody.map .data

/-- The document inside a body, if it has one. -/
def document? : Body → Option Value
  | .request body => body.data
  | .reply body => body.data
  | .exception _ => none
  | .data body => some body.data

/-- What the frame of a body gives back: not a request whose action is taken for its data, and nothing
for data that is null. -/
def returned : Body → Except FrameError Body
  | .request body =>
    if body.action = dataKey then .error (.malformed .noAction) else .ok (.request body)
  | .reply body => .ok (.reply { body with data := body.data.filter (· ≠ .null) })
  | .exception body => .ok (.exception body)
  | .data body => .ok (.data body)

/-- The bodies that their frames do not give back: a request whose action is taken for its data, and a
reply with null for its data. -/
inductive Blurs : Body → Prop
  | action (verb : String) (data : Option Value) : Blurs (.request ⟨dataKey, verb, data⟩)
  | null (dt : Option String) : Blurs (.reply ⟨dt, some .null⟩)

end Body

namespace RequestBody

theorem ofValue_toValue {r : RequestBody} (other : r.action ≠ dataKey) : ofValue r.toValue = .ok r := by
  obtain ⟨action, verb, data⟩ := r
  have apart : action ≠ dataKey := other
  cases data with
  | none => simp [toValue, ofValue, actionField?, Fields.find?, apart]
  | some d => simp [toValue, ofValue, actionField?, Fields.find?, Fields.put, apart]

theorem ofValue_toValue_of_dataKey {r : RequestBody} (keyed : r.action = dataKey) :
    ofValue r.toValue = .error .noAction := by
  obtain ⟨action, verb, data⟩ := r
  subst keyed
  cases data <;> rfl

end RequestBody

theorem ReplyBody.read_write (dt : Option String) (data : Option Value) :
    codec.read (codec.write ⟨dt, data⟩) = .ok ⟨dt, data.filter (· ≠ .null)⟩ := by
  cases dt with
  | none => cases data with
    | none => rfl
    | some d => cases d <;> rfl
  | some dt => cases data with
    | none => rfl
    | some d => cases d <;> rfl

namespace Body

/-- A frame that is made of a body can be written as far as its document can. -/
theorem exact_body {b : Body} (exact : ∀ d, b.document? = some d → d.Exact) (sequence : Nat) :
    ∃ fields, (b.frame sequence).body = .object fields ∧ (Value.object fields).Exact := by
  cases b with
  | request r =>
    obtain ⟨action, verb, data⟩ := r
    have head : (Fields.keys [(action, .string verb)]).Nodup := List.pairwise_singleton _ _
    cases data with
    | none => exact ⟨_, rfl, head, trivial, trivial⟩
    | some d =>
      have held : Value.ExactFields [(action, .string verb)] := ⟨trivial, trivial⟩
      exact ⟨_, rfl, Fields.nodup_keys_put head dataKey d,
        Value.exactFields_put held dataKey (exact d rfl)⟩
  | reply r =>
    obtain ⟨dt, data⟩ := r
    refine ⟨_, rfl, ?_⟩
    cases dt with
    | none => cases data with
      | none => exact ⟨List.nodup_nil, trivial⟩
      | some d => exact ⟨List.pairwise_singleton _ _, exact d rfl, trivial⟩
    | some dt => cases data with
      | none => exact ⟨List.pairwise_singleton _ _, trivial, trivial⟩
      | some d =>
        have keys : ["dt", "data"].Nodup := by decide
        exact ⟨keys, trivial, exact d rfl, trivial⟩
  | exception e =>
    have keys : ["et", "msg"].Nodup := by decide
    exact ⟨_, rfl, keys, trivial, trivial, trivial⟩
  | data d =>
    have keys : ["dt", "data"].Nodup := by decide
    exact ⟨_, rfl, keys, trivial, exact d.data rfl, trivial⟩

theorem kind_frame (b : Body) (sequence : Nat) : (b.frame sequence).kind = b.kind := by
  cases b <;> rfl

theorem sequence_frame (b : Body) (sequence : Nat) :
    (b.frame sequence).sequence = if b.kind = .data then 0 else sequence := by
  cases b <;> rfl

theorem ofFrame_of_ne {f : Frame} {k : MessageKind} (other : k ≠ f.kind) :
    ofFrame f k = .error (.malformed (.wrongKind k f.kind)) := by
  cases k <;> simp [ofFrame, Frame.requestBody, Frame.replyBody, Frame.exceptionBody, Frame.dataBody,
    Frame.bodyAs, other.symm, Except.map]

theorem ofFrame_frame (b : Body) (sequence version : Nat) :
    ofFrame { b.frame sequence with version } b.kind = b.returned := by
  cases b with
  | request r =>
    have read : ofFrame { (request r).frame sequence with version } .request =
      ((RequestBody.ofValue r.toValue).mapError .malformed).map .request := rfl
    rw [kind, read, returned]
    by_cases keyed : r.action = dataKey
    · rw [RequestBody.ofValue_toValue_of_dataKey keyed, if_pos keyed]
      rfl
    · rw [RequestBody.ofValue_toValue keyed, if_neg keyed]
      rfl
  | reply r =>
    have read : ofFrame { (reply r).frame sequence with version } .reply =
      ((ReplyBody.codec.read (ReplyBody.codec.write r)).mapError fun m => .json (.shape m)).map .reply :=
      rfl
    rw [kind, read, ReplyBody.read_write]
    rfl
  | exception e => rfl
  | data d => rfl

theorem returned_eq_iff {b : Body} : b.returned = .ok b ↔ ¬b.Blurs := by
  constructor
  · rintro same (⟨verb, data⟩ | ⟨dt⟩) <;> cases same
  · intro clear
    cases b with
    | request r =>
      obtain ⟨action, verb, data⟩ := r
      refine if_neg fun keyed => ?_
      cases keyed
      exact clear (.action verb data)
    | reply r =>
      obtain ⟨dt, data⟩ := r
      have given : data.filter (· ≠ .null) = data := by
        cases data with
        | none => rfl
        | some d =>
          have something : d ≠ .null := by
            rintro rfl
            exact clear (.null dt)
          simp [something]
      rw [returned, given]
    | exception e => rfl
    | data d => rfl

/-- What comes of a body that is sent in a frame: its accessor gives it back unless it is one of two
kinds, and the others fail. -/
structure Survives (b : Body) (sequence : Nat) (f : Frame) : Prop where
  kind : f.kind = b.kind
  sequence : f.sequence = if b.kind = .data then 0 else sequence
  own : ofFrame f b.kind = .ok b ↔ ¬b.Blurs
  action : ∀ verb data, b = .request ⟨dataKey, verb, data⟩ →
    f.requestBody = .error (.malformed .noAction)
  null : ∀ dt, b = .reply ⟨dt, some .null⟩ → f.replyBody = .ok ⟨dt, none⟩
  others : ∀ k, k ≠ b.kind → ofFrame f k = .error (.malformed (.wrongKind k b.kind))

theorem survives_frame (b : Body) (sequence version : Nat) :
    Survives b sequence { b.frame sequence with version } := by
  refine ⟨kind_frame b sequence, sequence_frame b sequence, ?_, ?_, ?_, fun k other => ?_⟩
  · rw [ofFrame_frame, returned_eq_iff]
  · rintro verb data rfl
    have read := RequestBody.ofValue_toValue_of_dataKey (r := ⟨dataKey, verb, data⟩) rfl
    exact congrArg (Except.mapError FrameError.malformed) read
  · rintro dt rfl
    have read := ReplyBody.read_write dt (some .null)
    exact congrArg (Except.mapError fun m => FrameError.json (.shape m)) read
  · rw [← kind_frame b sequence] at other ⊢
    exact ofFrame_of_ne other

/-- Every body makes a frame and comes back out of its text, if that is not too long or too deep. -/
theorem bodies_survive {config : FrameConfig} {sequence : Nat} {b : Body}
    (version : config.version < 2 ^ 32) (unsigned : sequence < 2 ^ 64)
    (exact : ∀ d, b.document? = some d → d.Exact) :
    b.build sequence = .ok (b.frame sequence) ∧
    ∀ text, (b.frame sequence).encode config = .ok text →
      ((b.frame sequence).envelope config).nesting ≤ 127 →
      ∃ f, Frame.decode config text = .ok f ∧ Survives b sequence f := by
  refine ⟨build_eq sequence b, fun text encodes shallow => ?_⟩
  obtain ⟨fields, object, document⟩ := exact_body exact sequence
  have bound : (b.frame sequence).sequence < 2 ^ 64 := by
    rw [sequence_frame]
    split <;> omega
  have trip := Frame.roundTrips_of_encode version bound object (object ▸ document) encodes
  exact ⟨_, trip.back.mpr shallow, survives_frame b sequence config.version⟩

/-- A reply that comes back. -/
def listReply : Body := .reply ⟨some "a", some (.array [.number (.int (-1))])⟩

/-- A request whose action is taken for its data. -/
def keyedRequest : Body := .request ⟨dataKey, subscribeVerb, some .null⟩

theorem bodies_of_varied_fate :
    (∃ f, Frame.decode {} "[1,2,5,\x7b\"dt\":\"a\",\"data\":[-1]\x7d]" = .ok f ∧
      f.sequence = 5 ∧ ofFrame f .reply = .ok listReply) ∧
    ∃ f, Frame.decode {} "[1,1,6,\x7b\"data\":null\x7d]" = .ok f ∧
      f.sequence = 6 ∧ f.requestBody = .error (.malformed .noAction) := by
  have version : ({} : FrameConfig).version < 2 ^ 32 := by decide
  have list : ∀ d, listReply.document? = some d → d.Exact := by
    rintro _ ⟨⟩
    simp [Value.Exact, Value.ExactItems, IsWhole]
  have null : ∀ d, keyedRequest.document? = some d → d.Exact := by
    rintro _ ⟨⟩
    trivial
  have reply : (listReply.frame 5).encode {} = .ok "[1,2,5,\x7b\"dt\":\"a\",\"data\":[-1]\x7d]" := by
    decide +kernel
  have request : (keyedRequest.frame 6).encode {} = .ok "[1,1,6,\x7b\"data\":null\x7d]" := by
    decide +kernel
  refine ⟨?_, ?_⟩
  · obtain ⟨f, decodes, survives⟩ := (bodies_survive version (by decide) list).2 _ reply (by decide)
    have clear : ¬listReply.Blurs := by
      intro blurs
      cases blurs
    exact ⟨f, decodes, survives.sequence, survives.own.mpr clear⟩
  · obtain ⟨f, decodes, survives⟩ := (bodies_survive version (by decide) null).2 _ request (by decide)
    exact ⟨f, decodes, survives.sequence, survives.action subscribeVerb (some .null) rfl⟩

end Body

end Telemux
