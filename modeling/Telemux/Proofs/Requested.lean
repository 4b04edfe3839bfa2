import Telemux.Proofs.Assembly
import Telemux.Proofs.Bodies
import Telemux.Topic

namespace Telemux

/-- What a server has to know of a topic to narrow it. -/
inductive Narrowing where
  | nothing
  | site (name : String)
  | stream (name : String)
  | alarms (options : AlarmOptions)
  | processors (options : ProcessorOptions)
  | parameters (request : ParameterRequest)
  deriving DecidableEq

def Topic.narrowing : Topic → Narrowing
  | .streamEvents site => .site site
  | .stream name => .stream name
  | .alarms options => .alarms options
  | .processors options => .processors options
  | .parameters request => .parameters request
  | .events | .time | .links _ | .clients _ | .statistics _ | .instances | .commandQueues _ _
  | .commandQueueEvents _ _ => .nothing

namespace Narrowing

/-- A record of one text. -/
def named (key : String) : Codec String :=
  .closedRecord "Named" ((Layout.make id).field key (.required .text) id)

/-- How a server reads a request: its action says which options it has, and no data is data without
options. -/
def ofRequest (r : RequestBody) : Except Misfit Narrowing :=
  let data := r.data.getD (.object [])
  match r.action with
  | "streams" => ((named "instance").read data).map .site
  | "stream" => ((named "stream").read data).map .stream
  | "alarms" => (AlarmOptions.codec.read data).map .alarms
  | "processor" => (ProcessorOptions.codec.read data).map .processors
  | "parameter" => (ParameterRequest.codec.read data).map .parameters
  | _ => .ok .nothing

end Narrowing

/-- The topics whose subscribe request has no data. -/
def Topic.Bare : Topic → Prop
  | .events | .time | .links _ | .clients _ | .statistics _ | .instances | .commandQueues _ _
  | .commandQueueEvents _ _ => True
  | .alarms options => options.detail = none
  | .processors options => options.allInstances = none ∧ options.allProcessors = none
  | .streamEvents _ | .stream _ | .parameters _ => False

/-- The numbers of subscriptions have sixty-four bits and a sign. -/
def ParameterRequest.Ranged (r : ParameterRequest) : Prop :=
  ∀ n, r.subscriptionId = some n → -0x8000000000000000 ≤ n ∧ n ≤ 0x7FFFFFFFFFFFFFFF

def Topic.Ranged (t : Topic) : Prop :=
  ∀ r, t = .parameters r → r.Ranged

namespace Value

mutual

/-- A document without null at any depth. -/
def NullFree : Value → Prop
  | .null => False
  | .array xs => NullFreeItems xs
  | .object fs => NullFreeFields fs
  | _ => True

def NullFreeItems : List Value → Prop
  | [] => True
  | x :: xs => NullFree x ∧ NullFreeItems xs

def NullFreeFields : Fields → Prop
  | [] => True
  | (_, x) :: fs => NullFree x ∧ NullFreeFields fs

end

/-- A document that its text gives back, without null in it and at most so deep. -/
structure Solid (depth : Nat) (v : Value) : Prop where
  exact : v.Exact
  nullFree : v.NullFree
  shallow : v.nesting ≤ depth

variable {depth : Nat}

theorem Solid.mono {v : Value} {deeper : Nat} (h : v.Solid depth) (le : depth ≤ deeper) :
    v.Solid deeper :=
  ⟨h.exact, h.nullFree, h.shallow.trans le⟩

theorem solid_string (s : String) : (Value.string s).Solid depth :=
  ⟨trivial, trivial, depth.zero_le⟩

theorem solid_bool (b : Bool) : (Value.bool b).Solid depth :=
  ⟨trivial, trivial, depth.zero_le⟩

theorem solid_int {n : Int} (whole : IsWhole n) : (Value.number (.int n)).Solid depth :=
  ⟨whole, trivial, depth.zero_le⟩

theorem solid_array {xs : List Value} (h : ∀ x ∈ xs, x.Solid depth) :
    (Value.array xs).Solid (depth + 1) := by
  have items : ExactItems xs ∧ NullFreeItems xs ∧ nestingItems xs ≤ depth := by
    induction xs with
    | nil => exact ⟨trivial, trivial, depth.zero_le⟩
    | cons x xs ih =>
      have first := h x List.mem_cons_self
      obtain ⟨exact, nullFree, shallow⟩ := ih fun y hy => h y (List.mem_cons_of_mem x hy)
      exact ⟨⟨first.exact, exact⟩, ⟨first.nullFree, nullFree⟩, Nat.max_le.mpr ⟨first.shallow, shallow⟩⟩
  exact ⟨items.1, items.2.1, Nat.succ_le_succ items.2.2⟩

theorem solid_object {fs : Fields} (distinct : (Fields.keys fs).Nodup)
    (h : ∀ f ∈ fs, f.2.Solid depth) : (Value.object fs).Solid (depth + 1) := by
  have fields : ExactFields fs ∧ NullFreeFields fs ∧ nestingFields fs ≤ depth := by
    clear distinct
    induction fs with
    | nil => exact ⟨trivial, trivial, depth.zero_le⟩
    | cons f fs ih =>
      have first := h f List.mem_cons_self
      obtain ⟨exact, nullFree, shallow⟩ := ih fun g hg => h g (List.mem_cons_of_mem f hg)
      exact ⟨⟨first.exact, exact⟩, ⟨first.nullFree, nullFree⟩, Nat.max_le.mpr ⟨first.shallow, shallow⟩⟩
  exact ⟨⟨distinct, fields.1⟩, fields.2.1, Nat.succ_le_succ fields.2.2⟩

end Value

/-- Whatever is written for a value of a field is solid. -/
def Slot.Sends {β : Type} (depth : Nat) (slot : Slot β) (y : β) : Prop :=
  ∀ v, slot.write y = some v → v.Solid depth

namespace Slot

variable {β : Type} {c : Codec β} {depth : Nat}

theorem sends_required {y : β} (h : (c.write y).Solid depth) : (required c).Sends depth y := by
  rintro v ⟨⟩
  exact h

theorem sends_optional {y : Option β} (h : ∀ z, y = some z → (c.write z).Solid depth) :
    (optional c).Sends depth y := by
  intro v hv
  obtain ⟨z, rfl, rfl⟩ := Option.map_eq_some_iff.mp hv
  exact h z rfl

theorem sends_flag (b : Option Bool) : (optional .flag).Sends depth b :=
  sends_optional fun z _ => Value.solid_bool z

theorem keeps_flag (b : Option Bool) : (optional .flag).Keeps b := by
  cases b with
  | none => exact keeps_none
  | some b => exact keeps_some nofun rfl

end Slot

namespace Layout

variable {σ α : Type} {depth : Nat} {x : σ}

def Sends (depth : Nat) (x : σ) : {α : Type} → Layout σ α → Prop
  | _, .make _ => True
  | _, .field front _ slot get => front.Sends depth x ∧ slot.Sends depth (get x)

theorem solid_of_mem_write {l : Layout σ α} (h : l.Sends depth x) : ∀ f ∈ l.write x, f.2.Solid depth := by
  induction l with
  | make f => exact nofun
  | field front key slot get ih =>
    intro f hf
    rw [write_field, List.mem_append] at hf
    rcases hf with hf | hf
    · exact ih h.1 f hf
    · obtain ⟨v, hv, rfl⟩ := Option.map_eq_some_iff.mp (Option.mem_toList.mp hf)
      exact h.2 v hv

theorem solid_write {l : Layout σ α} (distinct : l.keys.Nodup) (h : l.Sends depth x) :
    (Value.object (l.write x)).Solid (depth + 1) :=
  Value.solid_object (distinct.sublist (keys_write_sublist x l)) (solid_of_mem_write h)

end Layout

open Slot

namespace NamedObjectId

theorem solid (id : NamedObjectId) : (codec.write id).Solid 1 :=
  Layout.solid_write (by decide)
    ⟨⟨trivial, sends_required (Value.solid_string id.name)⟩,
      sends_optional fun space _ => Value.solid_string space⟩

end NamedObjectId

namespace AlarmOptions

theorem read_write (o : AlarmOptions) : codec.read (codec.write o) = .ok o :=
  Codec.read_write_closedRecord (by decide) ⟨trivial, keeps_flag o.detail⟩

theorem solid (o : AlarmOptions) : (codec.write o).Solid 1 :=
  Layout.solid_write (by decide) ⟨trivial, sends_flag o.detail⟩

end AlarmOptions

namespace ProcessorOptions

theorem read_write (o : ProcessorOptions) : codec.read (codec.write o) = .ok o :=
  Codec.read_write_closedRecord (by decide)
    ⟨⟨trivial, keeps_flag o.allInstances⟩, keeps_flag o.allProcessors⟩

theorem solid (o : ProcessorOptions) : (codec.write o).Solid 1 :=
  Layout.solid_write (by decide) ⟨⟨trivial, sends_flag o.allInstances⟩, sends_flag o.allProcessors⟩

end ProcessorOptions

namespace ParameterRequest

variable {r : ParameterRequest}

theorem keeps_subscriptionId (ranged : r.Ranged) : (optional .int64).Keeps r.subscriptionId := by
  cases hn : r.subscriptionId with
  | none => exact keeps_none
  | some n => exact keeps_some nofun (if_pos (ranged n hn))

theorem read_write (ranged : r.Ranged) : codec.read (codec.write r) = .ok r := by
  have ids : NamedObjectId.codec.list.read (NamedObjectId.codec.list.write r.id) = .ok r.id :=
    Codec.list_read_write.mpr fun id _ => id.read_write
  exact Codec.read_write_closedRecord (by decide)
    ⟨⟨⟨⟨⟨⟨trivial, ids⟩, keeps_flag r.abortOnInvalid⟩, keeps_flag r.updateOnExpiration⟩,
      keeps_flag r.sendFromCache⟩, keeps_flag r.useNumericIds⟩, keeps_subscriptionId ranged⟩

theorem solid (ranged : r.Ranged) : (codec.write r).Solid 3 := by
  have ids : (NamedObjectId.codec.list.write r.id).Solid 2 := by
    refine Value.solid_array fun v hv => ?_
    obtain ⟨id, -, rfl⟩ := List.mem_map.mp hv
    exact id.solid
  have number : (optional .int64).Sends 2 r.subscriptionId := by
    refine sends_optional fun n hn => Value.solid_int ?_
    have bounds := ranged n hn
    unfold IsWhole
    omega
  exact Layout.solid_write (by decide)
    ⟨⟨⟨⟨⟨⟨trivial, sends_required ids⟩, sends_flag r.abortOnInvalid⟩, sends_flag r.updateOnExpiration⟩,
      sends_flag r.sendFromCache⟩, sends_flag r.useNumericIds⟩, number⟩

end ParameterRequest

namespace Topic

variable {t : Topic}

theorem action_ne_dataKey (t : Topic) : t.action ≠ dataKey := by
  cases t <;> simp [action, dataKey]

/-- Options that are not sent are those of which none is given. -/
theorem getD_givenOptions (v : Value) : (givenOptions v).getD (.object []) = v := by
  unfold givenOptions
  split <;> rfl

theorem eq_of_givenOptions {v d : Value} (h : givenOptions v = some d) : d = v := by
  rw [← getD_givenOptions v, h]
  rfl

theorem requestData_eq_none_iff (t : Topic) : t.requestData = none ↔ t.Bare := by
  cases t with
  | alarms options =>
    obtain ⟨detail⟩ := options
    cases detail <;> simp [requestData, Bare, givenOptions, AlarmOptions.codec, AlarmOptions.layout,
      Codec.closedRecord, Layout.write, Slot.optional]
  | processors options =>
    obtain ⟨sites, processors⟩ := options
    cases sites <;> cases processors <;> simp [requestData, Bare, givenOptions, ProcessorOptions.codec,
      ProcessorOptions.layout, Codec.closedRecord, Layout.write, Slot.optional]
  | _ => simp [requestData, Bare]

/-- The options of every topic can be told from the action and the data. -/
theorem ofRequest_requestBody (ranged : t.Ranged) :
    Narrowing.ofRequest t.requestBody = .ok t.narrowing := by
  cases t with
  | alarms options =>
    have read : Narrowing.ofRequest (alarms options).requestBody = (AlarmOptions.codec.read
        ((givenOptions (AlarmOptions.codec.write options)).getD (.object []))).map .alarms := rfl
    rw [read, getD_givenOptions, options.read_write]
    rfl
  | processors options =>
    have read : Narrowing.ofRequest (processors options).requestBody = (ProcessorOptions.codec.read
        ((givenOptions (ProcessorOptions.codec.write options)).getD (.object []))).map .processors := rfl
    rw [read, getD_givenOptions, options.read_write]
    rfl
  | parameters request =>
    have read : Narrowing.ofRequest (parameters request).requestBody =
        (ParameterRequest.codec.read (ParameterRequest.codec.write request)).map .parameters := rfl
    rw [read, ParameterRequest.read_write (ranged request rfl)]
    rfl
  | _ => rfl

theorem solid_requestData (ranged : t.Ranged) {d : Value} (h : t.requestData = some d) : d.Solid 3 := by
  have named : ∀ key name, (Value.object [(key, .string name)]).Solid 3 := fun key name =>
    Value.solid_object (List.pairwise_singleton _ key) fun f hf => by
      rw [List.mem_singleton.mp hf]
      exact Value.solid_string name
  cases t with
  | streamEvents site =>
    cases h
    exact named "instance" site
  | stream name =>
    cases h
    exact named "stream" name
  | alarms options =>
    rw [eq_of_givenOptions h]
    exact options.solid.mono (by decide)
  | processors options =>
    rw [eq_of_givenOptions h]
    exact options.solid.mono (by decide)
  | parameters request =>
    cases h
    exact ParameterRequest.solid (ranged request rfl)
  | _ => cases h

/-- The action stands first, and the data behind it. -/
theorem toValue_requestBody (t : Topic) : t.requestBody.toValue = .object
    ((t.action, .string "subscribe") :: (t.requestData.map fun d => (dataKey, d)).toList) := by
  have other : t.action ≠ dataKey := t.action_ne_dataKey
  unfold RequestBody.toValue requestBody RequestBody.subscribe subscribeVerb
  cases t.requestData with
  | none => rfl
  | some d => simp [Fields.put, other]

theorem solid_toValue (ranged : t.Ranged) : t.requestBody.toValue.Solid 4 := by
  rw [toValue_requestBody]
  have other : t.action ≠ dataKey := t.action_ne_dataKey
  refine Value.solid_object ?_ fun f hf => ?_
  · cases t.requestData <;> simp [Fields.keys, other]
  · rcases List.mem_cons.mp hf with rfl | hf
    · exact Value.solid_string _
    · obtain ⟨d, hd, rfl⟩ := Option.map_eq_some_iff.mp (Option.mem_toList.mp hf)
      exact solid_requestData ranged hd

end Topic

/-- What a server makes of a request frame: the topic's action and verb, and just its options. -/
structure Understood (t : Topic) (sequence : Nat) (f : Frame) (body : RequestBody) : Prop where
  kind : f.kind = .request
  sequence : f.sequence = sequence
  read : f.requestBody = .ok body
  action : body.action = t.action
  verb : body.verb = "subscribe"
  options : Narrowing.ofRequest body = .ok t.narrowing
  bare : body.data = none ↔ t.Bare
  nullFree : f.body.NullFree

/-- Every subscribe request that is written tells the server its topic, as far as the server narrows
it. -/
theorem subscribe_understood {config : FrameConfig} {sequence : Nat} {t : Topic}
    (version : config.version < 2 ^ 32) (unsigned : sequence < 2 ^ 64) (ranged : t.Ranged) :
    ∀ text, (Frame.request sequence t.requestBody).encode config = .ok text →
      ∃ f body, Frame.decode config text = .ok f ∧ Understood t sequence f body := by
  intro text encodes
  have solid : (Frame.request sequence t.requestBody).body.Solid 4 := Topic.solid_toValue ranged
  have object : (Frame.request sequence t.requestBody).body = .object _ := t.toValue_requestBody
  have trips := Frame.roundTrips_of_encode version unsigned object solid.exact encodes
  have shallow : ((Frame.request sequence t.requestBody).envelope config).nesting ≤ 127 := by
    have depth := solid.shallow
    simp only [Frame.envelope, Value.nesting, Value.nestingItems]
    omega
  have other : t.requestBody.action ≠ dataKey := t.action_ne_dataKey
  have read := RequestBody.ofValue_toValue other
  refine ⟨_, t.requestBody, trips.back.mpr shallow, rfl, rfl, ?_, rfl, rfl, ?_, ?_, ?_⟩
  · exact congrArg (Except.mapError FrameError.malformed) read
  · exact Topic.ofRequest_requestBody ranged
  · exact t.requestData_eq_none_iff
  · exact solid.nullFree

/-- One parameter twice, an id with a namespace, a flag and the number of a subscription. -/
def pickyParameters : ParameterRequest where
  id := [⟨"/A\"", none⟩, ⟨"b", some "n"⟩, ⟨"/A\"", none⟩]
  abortOnInvalid := some false
  updateOnExpiration := none
  sendFromCache := none
  useNumericIds := none
  subscriptionId := some (-3)

def pickyText : String :=
  "[1,1,7,\x7b\"parameter\":\"subscribe\",\"data\":\x7b\"id\":[\x7b\"name\":\"/A\\\"\"\x7d,"
    ++ "\x7b\"name\":\"b\",\"namespace\":\"n\"\x7d,\x7b\"name\":\"/A\\\"\"\x7d],"
    ++ "\"abortOnInvalid\":false,\"subscriptionId\":-3\x7d\x7d]"

theorem pickyParameters_understood :
    (∃ f body, Frame.decode {} pickyText = .ok f ∧ f.sequence = 7 ∧ body.verb = "subscribe" ∧
      body.data.isSome = true ∧ Narrowing.ofRequest body = .ok (.parameters pickyParameters)) ∧
    ∃ f body, Frame.decode {} "[1,1,8,\x7b\"alarms\":\"subscribe\"\x7d]" = .ok f ∧
      body.data = none ∧ Narrowing.ofRequest body = .ok (.alarms ⟨none⟩) := by
  have version : ({} : FrameConfig).version < 2 ^ 32 := by decide
  have ranged : (Topic.parameters pickyParameters).Ranged := by
    rintro _ ⟨⟩ n hn
    cases hn
    decide
  have picky : (Frame.request 7 (Topic.parameters pickyParameters).requestBody).encode {} =
      .ok pickyText := by
    decide +kernel
  have plain : (Frame.request 8 (Topic.alarms ⟨none⟩).requestBody).encode {} =
      .ok "[1,1,8,\x7b\"alarms\":\"subscribe\"\x7d]" := by
    decide +kernel
  refine ⟨?_, ?_⟩
  · obtain ⟨f, body, decodes, told⟩ := subscribe_understood version (by decide) ranged _ picky
    have given : body.data ≠ none := fun absent => told.bare.mp absent
    exact ⟨f, body, decodes, told.sequence, told.verb, Option.isSome_iff_ne_none.mpr given,
      told.options⟩
  · obtain ⟨f, body, decodes, told⟩ := subscribe_understood (t := .alarms ⟨none⟩) version (by decide)
      nofun _ plain
    exact ⟨f, body, decodes, told.bare.mpr rfl, told.options⟩

end Telemux
