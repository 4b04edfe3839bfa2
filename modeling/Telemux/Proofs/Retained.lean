import Telemux.Proofs.Assembly
import Telemux.Proofs.Delivery
import Telemux.Proofs.Isolation

namespace Telemux

/-- What is read is read again from what is written for it, and that is never null. -/
structure Codec.Retains {α : Type} (c : Codec α) : Prop where
  again : ∀ {v x}, c.read v = .ok x → c.read (c.write x) = .ok x
  solid : ∀ x, c.write x ≠ .null

namespace Slot

variable {β : Type} {c : Codec β}

def Retains (slot : Slot β) : Prop :=
  ∀ {found y}, slot.Gets found y → slot.Keeps y

theorem retains_required (h : c.Retains) : (required c).Retains := by
  intro found y gets
  obtain ⟨v, -, read⟩ := gets_required.mp gets
  exact gets_required.mpr ⟨_, rfl, h.again read⟩

theorem retains_optional (h : c.Retains) : (optional c).Retains := by
  intro found y gets
  rcases gets_optional.mp gets with ⟨-, rfl⟩ | ⟨v, z, -, read, rfl⟩
  · exact keeps_none
  · exact keeps_some h.solid (h.again read)

theorem retains_withDefault (h : c.Retains) {default : β} (own : c.read (c.write default) = .ok default) :
    (withDefault c default).Retains := by
  intro found y gets
  cases found with
  | none =>
    cases gets
    exact own
  | some v => exact h.again gets

end Slot

namespace Layout

variable {σ α : Type}

def Retains : {α : Type} → Layout σ α → Prop
  | _, .make _ => True
  | _, .field front _ slot _ => front.Retains ∧ slot.Retains

theorem keeps_of_getsAll {part : String → Nat → Option Value} {l : Layout σ α} (retains : l.Retains)
    {ys : l.Values} (h : l.GetsAll part ys) : l.Keeps ys := by
  induction l with
  | make f => trivial
  | field front key slot get ih => exact ⟨ih retains.1 h.1, retains.2 h.2⟩

end Layout

namespace Codec

variable {α σ : Type} {c : Codec α} {name : String}

theorem retains_text : text.Retains := by
  refine ⟨fun {v x} h => ?_, nofun⟩
  obtain rfl := text_read.mp h
  exact h

theorem retains_int64 : int64.Retains := by
  refine ⟨fun {v x} h => ?_, nofun⟩
  obtain rfl := int64_read h
  exact h

theorem retains_nat32 : nat32.Retains := by
  refine ⟨fun {v x} h => ?_, nofun⟩
  obtain rfl := nat32_read h
  exact h

theorem exists_read {vs : List Value} {xs : List α} (h : c.readAll vs = .ok xs) {x : α} (hx : x ∈ xs) :
    ∃ v, c.read v = .ok x := by
  have items := readAll_eq_ok_iff.mp h
  clear h
  induction items with
  | nil => cases hx
  | cons read _ ih =>
    rcases List.mem_cons.mp hx with rfl | hx
    · exact ⟨_, read⟩
    · exact ih hx

theorem retains_list (h : c.Retains) : c.list.Retains := by
  refine ⟨fun {v xs} hr => list_read_write.mpr ?_, nofun⟩
  cases v with
  | array vs =>
    intro x hx
    obtain ⟨v, read⟩ := exists_read hr hx
    exact h.again read
  | _ => cases hr

section Record

variable {v : Value} {x : σ}

theorem keeps_of_closedRecord {l : Layout σ σ} (retains : l.Retains)
    (parted : ∀ ys, l.values (l.assemble ys) = ys) (h : (closedRecord name l).read v = .ok x) :
    l.Keeps (l.values x) := by
  obtain ⟨ys, all, rfl⟩ := values_of_closedRecord h
  rw [parted]
  exact Layout.keeps_of_getsAll retains all

/-- The fields that go with an open record are none of the declared ones. -/
theorem keeps_of_openRecord {l : Layout σ (Fields → σ)} {extra : σ → Fields} (retains : l.Retains)
    (parted : ∀ ys rest, l.values (l.assemble ys rest) = ys)
    (kept : ∀ ys rest, extra (l.assemble ys rest) = rest)
    (h : (openRecord name l extra).read v = .ok x) :
    l.Keeps (l.values x) ∧ ∀ f ∈ extra x, f.1 ∉ l.keys := by
  obtain ⟨fs, ys, -, all, rfl⟩ := values_of_openRecord h
  rw [parted, kept]
  refine ⟨Layout.keeps_of_getsAll retains all, fun f hf => ?_⟩
  simpa using (List.mem_filter.mp hf).2

theorem retains_closedRecord {l : Layout σ σ} (distinct : l.keys.Nodup) (retains : l.Retains)
    (parted : ∀ ys, l.values (l.assemble ys) = ys) : (closedRecord name l).Retains := by
  refine ⟨fun {v x} h => ?_, nofun⟩
  have keeps := keeps_of_closedRecord retains parted h
  obtain ⟨ys, -, rfl⟩ := values_of_closedRecord h
  rw [read_write_closedRecord distinct keeps, parted]

theorem retains_openRecord {l : Layout σ (Fields → σ)} {extra : σ → Fields} (distinct : l.keys.Nodup)
    (retains : l.Retains) (parted : ∀ ys rest, l.values (l.assemble ys rest) = ys)
    (kept : ∀ ys rest, extra (l.assemble ys rest) = rest) : (openRecord name l extra).Retains := by
  refine ⟨fun {v x} h => ?_, nofun⟩
  obtain ⟨keeps, apart⟩ := keeps_of_openRecord retains parted kept h
  obtain ⟨fs, ys, -, -, rfl⟩ := values_of_openRecord h
  rw [read_write_openRecord distinct keeps apart, parted, kept]

end Record

end Codec

open Codec Slot

theorem NamedObjectId.retains : codec.Retains :=
  retains_closedRecord (by decide)
    ⟨⟨trivial, retains_required retains_text⟩, retains_optional retains_text⟩ fun _ => rfl

theorem Instance.retains : codec.Retains :=
  retains_openRecord (by decide)
    ⟨⟨trivial, retains_required retains_text⟩, retains_optional retains_text⟩ (fun _ _ => rfl)
    fun _ _ => rfl

theorem Processor.retains : codec.Retains :=
  retains_openRecord (by decide)
    ⟨⟨⟨trivial, retains_optional retains_text⟩, retains_required retains_text⟩,
      retains_optional retains_text⟩ (fun _ _ => rfl) fun _ _ => rfl

theorem ConnectionInfo.retains : codec.Retains :=
  retains_closedRecord (by decide)
    ⟨⟨⟨trivial, retains_withDefault retains_int64 rfl⟩, retains_optional Instance.retains⟩,
      retains_optional Processor.retains⟩ fun _ => rfl

theorem LogEvent.retains : codec.Retains :=
  retains_openRecord (by decide)
    ⟨⟨⟨trivial, retains_optional retains_text⟩, retains_optional retains_text⟩,
      retains_optional retains_text⟩ (fun _ _ => rfl) fun _ _ => rfl

theorem TimeInfo.retains : codec.Retains :=
  retains_openRecord (by decide) ⟨trivial, retains_optional retains_text⟩ (fun _ _ => rfl)
    fun _ _ => rfl

theorem LinkInfo.retains : codec.Retains :=
  retains_openRecord (by decide)
    ⟨⟨⟨trivial, retains_required retains_text⟩, retains_required retains_text⟩,
      retains_optional retains_text⟩ (fun _ _ => rfl) fun _ _ => rfl

theorem LinkEvent.retains : codec.Retains :=
  retains_closedRecord (by decide)
    ⟨⟨trivial, retains_optional retains_text⟩, retains_required LinkInfo.retains⟩ fun _ => rfl

theorem StreamEvent.retains : codec.Retains :=
  retains_openRecord (by decide)
    ⟨⟨trivial, retains_optional retains_text⟩, retains_required retains_text⟩ (fun _ _ => rfl)
    fun _ _ => rfl

theorem StreamData.retains : codec.Retains :=
  retains_openRecord (by decide) ⟨trivial, retains_required retains_text⟩ (fun _ _ => rfl)
    fun _ _ => rfl

theorem Alarm.retains : codec.Retains :=
  retains_openRecord (by decide)
    ⟨⟨trivial, retains_optional retains_int64⟩, retains_optional NamedObjectId.retains⟩
    (fun _ _ => rfl) fun _ _ => rfl

theorem ClientInfo.retains : codec.Retains :=
  retains_openRecord (by decide)
    ⟨⟨⟨trivial, retains_optional retains_text⟩, retains_optional retains_int64⟩,
      retains_optional retains_text⟩ (fun _ _ => rfl) fun _ _ => rfl

theorem Statistics.retains : codec.Retains :=
  retains_openRecord (by decide)
    ⟨⟨trivial, retains_optional retains_text⟩, retains_optional retains_text⟩ (fun _ _ => rfl)
    fun _ _ => rfl

theorem CommandQueue.retains : codec.Retains :=
  retains_openRecord (by decide)
    ⟨⟨⟨trivial, retains_optional retains_text⟩, retains_optional retains_text⟩,
      retains_required retains_text⟩ (fun _ _ => rfl) fun _ _ => rfl

theorem CommandQueueEntry.retains : codec.Retains :=
  retains_openRecord (by decide)
    ⟨⟨⟨trivial, retains_optional retains_text⟩, retains_optional retains_text⟩,
      retains_optional retains_text⟩ (fun _ _ => rfl) fun _ _ => rfl

theorem CommandQueueEvent.retains : codec.Retains :=
  retains_closedRecord (by decide)
    ⟨⟨trivial, retains_optional retains_text⟩, retains_required CommandQueueEntry.retains⟩
    fun _ => rfl

namespace ParameterValue

theorem layout_retains : layout.Retains :=
  ⟨⟨trivial, retains_optional NamedObjectId.retains⟩, retains_optional retains_nat32⟩

theorem retains : codec.Retains :=
  retains_openRecord (by decide) layout_retains (fun _ _ => rfl) fun _ _ => rfl

/-- A sample can be read back under any name that is restored. -/
theorem read_write_restoreId {v : Value} {p : ParameterValue} (h : codec.read v = .ok p)
    (mapping : NumericMapping) :
    codec.read (codec.write (p.restoreId mapping)) = .ok (p.restoreId mapping) := by
  obtain ⟨keeps, apart⟩ := keeps_of_openRecord layout_retains (fun _ _ => rfl) (fun _ _ => rfl) h
  unfold restoreId
  split
  next => exact retains.again h
  next =>
    have id : (optional NamedObjectId.codec).Keeps (p.numericId.bind mapping.find?) := by
      cases p.numericId.bind mapping.find? with
      | none => exact keeps_none
      | some id => exact keeps_some NamedObjectId.retains.solid id.read_write
    have restored : layout.Keeps (layout.values { p with id := p.numericId.bind mapping.find? }) :=
      ⟨⟨trivial, id⟩, keeps.2⟩
    exact read_write_openRecord (by decide) restored apart

end ParameterValue

namespace ParameterData

theorem layout_retains : layout.Retains :=
  ⟨⟨trivial, retains_optional retains_int64⟩,
    retains_withDefault (retains_list ParameterValue.retains) rfl⟩

theorem retains : codec.Retains :=
  retains_closedRecord (by decide) layout_retains fun _ => rfl

theorem read_write_restoreIds {v : Value} {d : ParameterData} (h : codec.read v = .ok d)
    (mapping : NumericMapping) :
    codec.read (codec.write (d.restoreIds mapping)) = .ok (d.restoreIds mapping) := by
  obtain ⟨⟨-, number⟩, samples⟩ := keeps_of_closedRecord layout_retains (fun _ => rfl) h
  have each : ∀ p ∈ d.parameter, _ := list_read_write.mp samples
  have renamed : ∀ p ∈ (d.restoreIds mapping).parameter,
      ParameterValue.codec.read (ParameterValue.codec.write p) = .ok p := by
    intro p hp
    obtain ⟨q, hq, rfl⟩ := List.mem_map.mp hp
    exact ParameterValue.read_write_restoreId (each q hq) mapping
  have restored : layout.Keeps (layout.values (d.restoreIds mapping)) :=
    ⟨⟨trivial, number⟩, list_read_write.mpr renamed⟩
  exact read_write_closedRecord (by decide) restored

end ParameterData

namespace TopicEvent

theorem again_of_map {α : Type} {c : Codec α} {f : α → TopicEvent} {v : Value} {e : TopicEvent}
    (retains : c.Retains) (h : (c.read v).map f = .ok e) (written : ∀ x, (f x).toValue = c.write x) :
    (c.read e.toValue).map f = .ok e := by
  obtain ⟨x, read, rfl⟩ := exists_of_map h
  rw [written, retains.again read]
  rfl

/-- What is written for an event is read as that event. -/
theorem read_toValue {kind : EventKind} {v : Value} {e : TopicEvent} (h : read kind v = .ok e) :
    read kind e.toValue = .ok e := by
  cases kind with
  | log => exact again_of_map LogEvent.retains h fun _ => rfl
  | time => exact again_of_map TimeInfo.retains h fun _ => rfl
  | connectionInfo => exact again_of_map ConnectionInfo.retains h fun _ => rfl
  | link => exact again_of_map LinkEvent.retains h fun _ => rfl
  | stream => exact again_of_map StreamEvent.retains h fun _ => rfl
  | alarm => exact again_of_map Alarm.retains h fun _ => rfl
  | client => exact again_of_map ClientInfo.retains h fun _ => rfl
  | statistics => exact again_of_map Statistics.retains h fun _ => rfl
  | streamData => exact again_of_map StreamData.retains h fun _ => rfl
  | instanceInfo => exact again_of_map Instance.retains h fun _ => rfl
  | processor => exact again_of_map Processor.retains h fun _ => rfl
  | commandQueue => exact again_of_map CommandQueue.retains h fun _ => rfl
  | commandQueueEvent => exact again_of_map CommandQueueEvent.retains h fun _ => rfl
  | parameters => exact again_of_map ParameterData.retains h fun _ => rfl

/-- A route delivers an event as it is, or parameters with names restored. -/
theorem eq_or_restored_of_deliver {r : Route} {event item : TopicEvent}
    (h : r.deliver event = some item) : item = event ∨
      ∃ data mapping, event = .parameters data ∧ item = .parameters (data.restoreIds mapping) := by
  by_cases parameters : ∃ data, event = .parameters data
  · obtain ⟨data, rfl⟩ := parameters
    unfold Route.deliver at h
    split at h
    next =>
      obtain ⟨binding, -, h⟩ := Option.bind_eq_some_iff.mp h
      split at h
      next => exact .inr ⟨data, binding.mapping, rfl, (Option.some.inj h).symm⟩
      next => cases h
    next => cases h
  · exact .inl (Client.deliver_of_ne h fun data same => parameters ⟨data, same⟩)

/-- An event is decoded again from its tag and what is written for it, also behind a route. -/
theorem decode_toValue {tag : String} {data : Value} {e : TopicEvent}
    (h : decode tag data = .ok (some e)) : decode e.tag e.toValue = .ok (some e) ∧
      ∀ (r : Route) (item : TopicEvent), r.deliver e = some item →
        decode item.tag item.toValue = .ok (some item) := by
  have shown : ∀ {item : TopicEvent}, read item.kind item.toValue = .ok item →
      decode item.tag item.toValue = .ok (some item) := fun {item} read =>
    decode_eq_some_iff.mpr ⟨EventKind.ofTag?_tag item.kind, read⟩
  have read := (decode_eq_some_iff.mp h).2
  refine ⟨shown (read_toValue read), fun r item delivered => ?_⟩
  rcases eq_or_restored_of_deliver delivered with rfl | ⟨pushed, mapping, rfl, rfl⟩
  · exact shown (read_toValue read)
  · obtain ⟨d, readData, same⟩ := exists_of_map read
    cases same
    have restored := ParameterData.read_write_restoreIds readData mapping
    exact shown (congrArg (Except.map TopicEvent.parameters) restored)

/-- Pushed samples in the form of an array, one of them without a name. -/
def nameless : Value :=
  .array [.number (.int 3), .array [.object [("unit", .null), ("numericId", .number (.int 7))]]]

def namelessEvent : TopicEvent :=
  .parameters ⟨some 3, [⟨none, some 7, [("unit", .null)]⟩]⟩

def namedEvent : TopicEvent :=
  .parameters ⟨some 3, [⟨some ⟨"volts", none⟩, some 7, [("unit", .null)]⟩]⟩

/-- A route whose reply has told the name of the number seven. -/
def namingRoute : Route :=
  ⟨.parameters (.numeric ["volts"]), some ⟨some 3, .ofSubscribed [⟨⟨"volts", none⟩, 7⟩]⟩⟩

theorem nameless_decoded_again :
    decode "PARAMETER" nameless = .ok (some namelessEvent) ∧
    decode "PARAMETER" namelessEvent.toValue = .ok (some namelessEvent) ∧
    namingRoute.deliver namelessEvent = some namedEvent ∧
    decode "PARAMETER" namedEvent.toValue = .ok (some namedEvent) := by
  have read : decode "PARAMETER" nameless = .ok (some namelessEvent) := by decide +kernel
  have delivered : namingRoute.deliver namelessEvent = some namedEvent := by decide +kernel
  obtain ⟨again, behind⟩ := decode_toValue read
  exact ⟨read, again, delivered, behind namingRoute namedEvent delivered⟩

end TopicEvent

end Telemux
