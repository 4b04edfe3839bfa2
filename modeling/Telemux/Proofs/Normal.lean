import Telemux.Proofs.Assembly
import Telemux.Proofs.Isolation

namespace Telemux

/-- A field as a record declares it: its key, how its value is shown, and what is shown for a field that
is missing or null. -/
structure Declared where
  key : String
  normal : Value → Value
  absent : Option Value

namespace Declared

/-- A field that is shown as it is, and left out when there is none. -/
def plain (key : String) : Declared :=
  ⟨key, id, none⟩

def nested (key : String) (normal : Value → Value) : Declared :=
  ⟨key, normal, none⟩

def entry (d : Declared) (found : Option Value) : Option (String × Value) :=
  (((given found).map d.normal).or d.absent).map fun v => (d.key, v)

/-- The fields of a record in the order of their declaration. -/
def entries (ds : List Declared) (part : String → Nat → Option Value) : Fields :=
  ds.zipIdx.filterMap fun d => d.1.entry (part d.1.key d.2)

/-- A record that has only its declared fields: others are dropped, and an array is taken for an
object with the fields in their order. -/
def closed (ds : List Declared) (v : Value) : Value :=
  .object (entries ds fun key place => v.part key place)

/-- A record whose object holds more than it declares: behind the declared fields stand all others, as
they are and in their order. -/
def opened (ds : List Declared) : Value → Value
  | .object fs =>
    .object (entries ds (fun key _ => Fields.find? fs key) ++ fs.filter fun f => f.1 ∉ ds.map key)
  | v => v

def items (normal : Value → Value) : Value → Value
  | .array vs => .array (vs.map normal)
  | v => v

theorem entries_append (ds : List Declared) (d : Declared) (part : String → Nat → Option Value) :
    entries (ds ++ [d]) part = entries ds part ++ (d.entry (part d.key ds.length)).toList := by
  simp only [entries, List.zipIdx_append, List.filterMap_append, Nat.zero_add]
  cases h : d.entry (part d.key ds.length) <;> simp [h]

end Declared

/-- What is read from a document is written as the normal form of that document. -/
structure Codec.Normalises {α : Type} (c : Codec α) (normal : Value → Value) : Prop where
  written : ∀ {v x}, c.read v = .ok x → c.write x = normal v
  visible : ∀ {v x}, c.read v = .ok x → v ≠ .null

namespace Slot

variable {β : Type} {c : Codec β} {normal : Value → Value}

def Shows (slot : Slot β) (normal : Value → Value) (absent : Option Value) : Prop :=
  ∀ {found y}, slot.Gets found y → slot.write y = ((given found).map normal).or absent

theorem given_of_ne {v : Value} (h : v ≠ .null) : given (some v) = some v := by
  simp [given, h]

theorem shows_required (h : c.Normalises normal) : (required c).Shows normal none := by
  intro found y gets
  obtain ⟨v, rfl, read⟩ := gets_required.mp gets
  rw [given_of_ne (h.visible read)]
  exact congrArg some (h.written read)

theorem shows_optional (h : c.Normalises normal) : (optional c).Shows normal none := by
  intro found y gets
  rcases gets_optional.mp gets with ⟨nothing, rfl⟩ | ⟨v, z, something, read, rfl⟩
  · rw [nothing]
    rfl
  · rw [something]
    exact congrArg some (h.written read)

theorem shows_withDefault (h : c.Normalises normal) (default : β) :
    (withDefault c default).Shows normal (some (c.write default)) := by
  intro found y gets
  cases found with
  | none =>
    cases gets
    rfl
  | some v =>
    have read : c.read v = .ok y := gets
    rw [given_of_ne (h.visible read)]
    exact congrArg some (h.written read)

end Slot

namespace Layout

variable {σ : Type}

/-- A layout has just the declared fields, in their order. -/
inductive Declares : {α : Type} → Layout σ α → List Declared → Prop
  | make {α : Type} (f : α) : Declares (.make f) []
  | field {β γ : Type} {front : Layout σ (β → γ)} {ds : List Declared} (before : front.Declares ds)
      (d : Declared) {slot : Slot β} {get : σ → β} (shows : slot.Shows d.normal d.absent) :
      Declares (.field front d.key slot get) (ds ++ [d])

theorem Declares.keys_eq {α : Type} {l : Layout σ α} {ds : List Declared} (h : l.Declares ds) :
    l.keys = ds.map Declared.key := by
  induction h with
  | make f => rfl
  | field before d shows ih => rw [keys_field, ih, List.map_append]; rfl

theorem Declares.write_eq {α : Type} {l : Layout σ α} {ds : List Declared} (h : l.Declares ds)
    {part : String → Nat → Option Value} {x : σ} (gets : l.GetsAll part (l.values x)) :
    l.write x = Declared.entries ds part := by
  induction h with
  | make f => rfl
  | @field β γ front ds before d slot get shows ih =>
    have place : front.size = ds.length := by
      rw [Layout.size, before.keys_eq, List.length_map]
    have last : slot.write (get x) = _ := shows gets.2
    rw [write_field, ih gets.1, Declared.entries_append, last, place]
    rfl

end Layout

namespace Codec

variable {α σ : Type} {c : Codec α} {normal : Value → Value} {name : String} {ds : List Declared}

theorem normalises_text : text.Normalises id := by
  refine ⟨fun {v x} h => (text_read.mp h).symm, ?_⟩
  rintro v x h rfl
  cases h

theorem normalises_int64 : int64.Normalises id := by
  refine ⟨fun {v x} h => (int64_read h).symm, ?_⟩
  rintro v x h rfl
  cases h

theorem normalises_nat32 : nat32.Normalises id := by
  refine ⟨fun {v x} h => (nat32_read h).symm, ?_⟩
  rintro v x h rfl
  cases h

theorem normalises_list (h : c.Normalises normal) : c.list.Normalises (Declared.items normal) := by
  refine ⟨fun {v xs} hr => ?_, ?_⟩
  · cases v with
    | array vs =>
      have items : List.Forall₂ (fun v x => c.read v = .ok x) vs xs := readAll_eq_ok_iff.mp hr
      have shown : xs.map c.write = vs.map normal := by
        clear hr
        induction items with
        | nil => rfl
        | cons read _ ih => exact congrArg₂ List.cons (h.written read) ih
      exact congrArg Value.array shown
    | _ => cases hr
  · rintro v x hr rfl
    cases hr

theorem normalises_closedRecord {l : Layout σ σ} (declares : l.Declares ds)
    (parted : ∀ ys, l.values (l.assemble ys) = ys) :
    (closedRecord name l).Normalises (Declared.closed ds) := by
  refine ⟨fun {v x} h => ?_, ?_⟩
  · obtain ⟨ys, all, rfl⟩ := values_of_closedRecord h
    rw [← parted ys] at all
    exact congrArg Value.object (declares.write_eq all)
  · rintro v x h rfl
    cases h

theorem normalises_openRecord {l : Layout σ (Fields → σ)} {extra : σ → Fields}
    (declares : l.Declares ds) (parted : ∀ ys rest, l.values (l.assemble ys rest) = ys)
    (kept : ∀ ys rest, extra (l.assemble ys rest) = rest) :
    (openRecord name l extra).Normalises (Declared.opened ds) := by
  refine ⟨fun {v x} h => ?_, ?_⟩
  · obtain ⟨fs, ys, rfl, all, rfl⟩ := values_of_openRecord h
    rw [← parted ys (l.undeclared fs)] at all
    have others : l.undeclared fs = fs.filter fun f => f.1 ∉ ds.map Declared.key := by
      rw [Layout.undeclared, declares.keys_eq]
    have both := congrArg₂ (· ++ ·) (declares.write_eq all) ((kept ys _).trans others)
    exact congrArg Value.object both
  · rintro v x h rfl
    cases h

end Codec

open Codec Declared Layout Slot

def NamedObjectId.normal : Value → Value :=
  closed [plain "name", plain "namespace"]

theorem NamedObjectId.normalises : codec.Normalises NamedObjectId.normal :=
  normalises_closedRecord
    (((Declares.make _).field (plain "name") (shows_required normalises_text)).field
      (plain "namespace") (shows_optional normalises_text))
    fun _ => rfl

def Instance.normal : Value → Value :=
  opened [plain "name", plain "state"]

theorem Instance.normalises : codec.Normalises Instance.normal :=
  normalises_openRecord
    (((Declares.make _).field (plain "name") (shows_required normalises_text)).field
      (plain "state") (shows_optional normalises_text))
    (fun _ _ => rfl) fun _ _ => rfl

def Processor.normal : Value → Value :=
  opened [plain "instance", plain "name", plain "state"]

theorem Processor.normalises : codec.Normalises Processor.normal :=
  normalises_openRecord
    ((((Declares.make _).field (plain "instance") (shows_optional normalises_text)).field
      (plain "name") (shows_required normalises_text)).field
      (plain "state") (shows_optional normalises_text))
    (fun _ _ => rfl) fun _ _ => rfl

def ConnectionInfo.normal : Value → Value :=
  closed [⟨"clientId", id, some (.number (.int 0))⟩, nested "instance" Instance.normal,
    nested "processor" Processor.normal]

theorem ConnectionInfo.normalises : codec.Normalises ConnectionInfo.normal :=
  normalises_closedRecord
    ((((Declares.make _).field
      ⟨"clientId", id, some (.number (.int 0))⟩ (shows_withDefault normalises_int64 0)).field
      (nested "instance" Instance.normal) (shows_optional Instance.normalises)).field
      (nested "processor" Processor.normal) (shows_optional Processor.normalises))
    fun _ => rfl

def LogEvent.normal : Value → Value :=
  opened [plain "source", plain "severity", plain "message"]

theorem LogEvent.normalises : codec.Normalises LogEvent.normal :=
  normalises_openRecord
    ((((Declares.make _).field (plain "source") (shows_optional normalises_text)).field
      (plain "severity") (shows_optional normalises_text)).field
      (plain "message") (shows_optional normalises_text))
    (fun _ _ => rfl) fun _ _ => rfl

def TimeInfo.normal : Value → Value :=
  opened [plain "currentTime"]

theorem TimeInfo.normalises : codec.Normalises TimeInfo.normal :=
  normalises_openRecord
    ((Declares.make _).field (plain "currentTime") (shows_optional normalises_text))
    (fun _ _ => rfl) fun _ _ => rfl

def LinkInfo.normal : Value → Value :=
  opened [plain "instance", plain "name", plain "status"]

theorem LinkInfo.normalises : codec.Normalises LinkInfo.normal :=
  normalises_openRecord
    ((((Declares.make _).field (plain "instance") (shows_required normalises_text)).field
      (plain "name") (shows_required normalises_text)).field
      (plain "status") (shows_optional normalises_text))
    (fun _ _ => rfl) fun _ _ => rfl

def LinkEvent.normal : Value → Value :=
  closed [plain "type", nested "linkInfo" LinkInfo.normal]

theorem LinkEvent.normalises : codec.Normalises LinkEvent.normal :=
  normalises_closedRecord
    (((Declares.make _).field (plain "type") (shows_optional normalises_text)).field
      (nested "linkInfo" LinkInfo.normal) (shows_required LinkInfo.normalises))
    fun _ => rfl

def StreamEvent.normal : Value → Value :=
  opened [plain "type", plain "name"]

theorem StreamEvent.normalises : codec.Normalises StreamEvent.normal :=
  normalises_openRecord
    (((Declares.make _).field (plain "type") (shows_optional normalises_text)).field
      (plain "name") (shows_required normalises_text))
    (fun _ _ => rfl) fun _ _ => rfl

def StreamData.normal : Value → Value :=
  opened [plain "stream"]

theorem StreamData.normalises : codec.Normalises StreamData.normal :=
  normalises_openRecord
    ((Declares.make _).field (plain "stream") (shows_required normalises_text))
    (fun _ _ => rfl) fun _ _ => rfl

def Alarm.normal : Value → Value :=
  opened [plain "seqNum", nested "id" NamedObjectId.normal]

theorem Alarm.normalises : codec.Normalises Alarm.normal :=
  normalises_openRecord
    (((Declares.make _).field (plain "seqNum") (shows_optional normalises_int64)).field
      (nested "id" NamedObjectId.normal) (shows_optional NamedObjectId.normalises))
    (fun _ _ => rfl) fun _ _ => rfl

def ClientInfo.normal : Value → Value :=
  opened [plain "instance", plain "id", plain "username"]

theorem ClientInfo.normalises : codec.Normalises ClientInfo.normal :=
  normalises_openRecord
    ((((Declares.make _).field (plain "instance") (shows_optional normalises_text)).field
      (plain "id") (shows_optional normalises_int64)).field
      (plain "username") (shows_optional normalises_text))
    (fun _ _ => rfl) fun _ _ => rfl

def Statistics.normal : Value → Value :=
  opened [plain "instance", plain "yamcsProcessor"]

theorem Statistics.normalises : codec.Normalises Statistics.normal :=
  normalises_openRecord
    (((Declares.make _).field (plain "instance") (shows_optional normalises_text)).field
      (plain "yamcsProcessor") (shows_optional normalises_text))
    (fun _ _ => rfl) fun _ _ => rfl

def CommandQueue.normal : Value → Value :=
  opened [plain "instance", plain "processorName", plain "name"]

theorem CommandQueue.normalises : codec.Normalises CommandQueue.normal :=
  normalises_openRecord
    ((((Declares.make _).field (plain "instance") (shows_optional normalises_text)).field
      (plain "processorName") (shows_optional normalises_text)).field
      (plain "name") (shows_required normalises_text))
    (fun _ _ => rfl) fun _ _ => rfl

def CommandQueueEntry.normal : Value → Value :=
  opened [plain "instance", plain "processorName", plain "queueName"]

theorem CommandQueueEntry.normalises : codec.Normalises CommandQueueEntry.normal :=
  normalises_openRecord
    ((((Declares.make _).field (plain "instance") (shows_optional normalises_text)).field
      (plain "processorName") (shows_optional normalises_text)).field
      (plain "queueName") (shows_optional normalises_text))
    (fun _ _ => rfl) fun _ _ => rfl

def CommandQueueEvent.normal : Value → Value :=
  closed [plain "type", nested "data" CommandQueueEntry.normal]

theorem CommandQueueEvent.normalises : codec.Normalises CommandQueueEvent.normal :=
  normalises_closedRecord
    (((Declares.make _).field (plain "type") (shows_optional normalises_text)).field
      (nested "data" CommandQueueEntry.normal) (shows_required CommandQueueEntry.normalises))
    fun _ => rfl

def ParameterValue.normal : Value → Value :=
  opened [nested "id" NamedObjectId.normal, plain "numericId"]

theorem ParameterValue.normalises : codec.Normalises ParameterValue.normal :=
  normalises_openRecord
    (((Declares.make _).field
      (nested "id" NamedObjectId.normal) (shows_optional NamedObjectId.normalises)).field
      (plain "numericId") (shows_optional normalises_nat32))
    (fun _ _ => rfl) fun _ _ => rfl

def ParameterData.normal : Value → Value :=
  closed [plain "subscriptionId", ⟨"parameter", items ParameterValue.normal, some (.array [])⟩]

theorem ParameterData.normalises : codec.Normalises ParameterData.normal :=
  normalises_closedRecord
    (((Declares.make _).field (plain "subscriptionId") (shows_optional normalises_int64)).field
      ⟨"parameter", items ParameterValue.normal, some (.array [])⟩
      (shows_withDefault (normalises_list ParameterValue.normalises) []))
    fun _ => rfl

/-- What is shown of a payload, by the kind of its event. -/
def EventKind.normal : EventKind → Value → Value
  | .log => LogEvent.normal
  | .time => TimeInfo.normal
  | .connectionInfo => ConnectionInfo.normal
  | .link => LinkEvent.normal
  | .stream => StreamEvent.normal
  | .alarm => Alarm.normal
  | .client => ClientInfo.normal
  | .statistics => Statistics.normal
  | .streamData => StreamData.normal
  | .instanceInfo => Instance.normal
  | .processor => Processor.normal
  | .commandQueue => CommandQueue.normal
  | .commandQueueEvent => CommandQueueEvent.normal
  | .parameters => ParameterData.normal

namespace TopicEvent

theorem normal_of_map {α : Type} {c : Codec α} {f : α → TopicEvent} {normal : Value → Value} {v : Value}
    {e : TopicEvent} (normalises : c.Normalises normal) (h : (c.read v).map f = .ok e)
    (written : ∀ x, (f x).toValue = c.write x) : e.toValue = normal v := by
  obtain ⟨x, read, rfl⟩ := exists_of_map h
  rw [written, normalises.written read]

theorem toValue_of_read {kind : EventKind} {v : Value} {e : TopicEvent} (h : read kind v = .ok e) :
    e.toValue = kind.normal v := by
  cases kind with
  | log => exact normal_of_map LogEvent.normalises h fun _ => rfl
  | time => exact normal_of_map TimeInfo.normalises h fun _ => rfl
  | connectionInfo => exact normal_of_map ConnectionInfo.normalises h fun _ => rfl
  | link => exact normal_of_map LinkEvent.normalises h fun _ => rfl
  | stream => exact normal_of_map StreamEvent.normalises h fun _ => rfl
  | alarm => exact normal_of_map Alarm.normalises h fun _ => rfl
  | client => exact normal_of_map ClientInfo.normalises h fun _ => rfl
  | statistics => exact normal_of_map Statistics.normalises h fun _ => rfl
  | streamData => exact normal_of_map StreamData.normalises h fun _ => rfl
  | instanceInfo => exact normal_of_map Instance.normalises h fun _ => rfl
  | processor => exact normal_of_map Processor.normalises h fun _ => rfl
  | commandQueue => exact normal_of_map CommandQueue.normalises h fun _ => rfl
  | commandQueueEvent => exact normal_of_map CommandQueueEvent.normalises h fun _ => rfl
  | parameters => exact normal_of_map ParameterData.normalises h fun _ => rfl

/-- What is written for an event is the normal form of the payload that it was decoded from. -/
theorem toValue_eq_normal {tag : String} {data : Value} {e : TopicEvent}
    (h : decode tag data = .ok (some e)) : e.toValue = e.kind.normal data :=
  toValue_of_read (decode_eq_some_iff.mp h).2

/-- A payload with fields that are not declared in both of its objects, and out of order. -/
def scattered : Value :=
  .object [
    ("linkInfo", .object [("dataInCount", .number (.int 12)), ("status", .null),
      ("name", .string "tm"), ("detail", .array [.null]), ("instance", .string "sim")]),
    ("spare", .bool true),
    ("type", .string "UPDATED")]

theorem scattered_in_order : ∃ e, decode "LINK_EVENT" scattered = .ok (some e) ∧
    e.toValue = .object [("type", .string "UPDATED"),
      ("linkInfo", .object [("instance", .string "sim"), ("name", .string "tm"),
        ("dataInCount", .number (.int 12)), ("detail", .array [.null])])] := by
  have read : decode "LINK_EVENT" scattered = .ok (some (.link ⟨some "UPDATED",
      ⟨"sim", "tm", none, [("dataInCount", .number (.int 12)), ("detail", .array [.null])]⟩⟩)) := by
    decide +kernel
  exact ⟨_, read, (toValue_eq_normal read).trans (by decide +kernel)⟩

end TopicEvent

end Telemux
