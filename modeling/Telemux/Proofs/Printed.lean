import Telemux.Command.Output
import Telemux.Proofs.Normal
import Telemux.Proofs.Requested
import Telemux.Proofs.Retained
import Telemux.Proofs.RoundTrip

namespace Telemux

/-- No character of a text is a control, so it is all on one line. -/
def Inline (cs : List Char) : Prop :=
  ∀ c ∈ cs, 0x20 ≤ c.toNat

instance (cs : List Char) : Decidable (Inline cs) :=
  List.decidableBAll (fun c : Char => 0x20 ≤ c.toNat) cs

theorem inline_cons {c : Char} {cs : List Char} : Inline (c :: cs) ↔ 0x20 ≤ c.toNat ∧ Inline cs :=
  List.forall_mem_cons

theorem inline_append {cs ds : List Char} : Inline (cs ++ ds) ↔ Inline cs ∧ Inline ds :=
  List.forall_mem_append

theorem Inline.unbroken {cs : List Char} (h : Inline cs) : ∀ c ∈ cs, c ≠ '\n' ∧ c ≠ '\r' := by
  intro c hc
  refine ⟨?_, ?_⟩
  · rintro rfl
    exact absurd (h _ hc) (by decide)
  · rintro rfl
    exact absurd (h _ hc) (by decide)

theorem inline_decimal (n : Nat) : Inline (decimal n) := by
  intro c hc
  have digit := isDigit_of_mem_decimal hc
  rw [Char.isDigit, Bool.and_eq_true, decide_eq_true_iff, decide_eq_true_iff, ge_iff_le,
    UInt32.le_iff_toNat_le] at digit
  exact le_trans (by decide) digit.1

theorem inline_signedDecimal (n : Int) : Inline (signedDecimal n) := by
  cases n with
  | ofNat n => exact inline_decimal n
  | negSucc n => exact inline_cons.mpr ⟨by decide, inline_decimal (n + 1)⟩

/-- Every control is escaped. -/
theorem inline_escapeChar (c : Char) : Inline (escapeChar c) := by
  have hex : ∀ n < 16, 0x20 ≤ (hexChar n).toNat := by decide
  unfold escapeChar
  split_ifs with quote backslash back feed line ret tab control
  any_goals decide
  · have high := hex (c.toNat / 16) (by omega)
    have low := hex (c.toNat % 16) (by omega)
    have front : Inline ['\\', 'u', '0', '0'] := by decide
    exact inline_append.mpr ⟨front, inline_cons.mpr ⟨high, inline_cons.mpr ⟨low, by decide⟩⟩⟩
  · exact inline_cons.mpr ⟨Nat.not_lt.mp control, by decide⟩

theorem inline_quoted (s : String) : Inline (quoted s) := by
  refine inline_cons.mpr ⟨by decide, inline_append.mpr ⟨fun c hc => ?_, by decide⟩⟩
  obtain ⟨d, -, hd⟩ := List.mem_flatMap.mp hc
  exact inline_escapeChar d c hd

namespace Value

theorem inline_field (k : String) {cs rest : List Char} (value : Inline cs) (behind : Inline rest) :
    Inline (quoted k ++ ':' :: (cs ++ rest)) :=
  inline_append.mpr ⟨inline_quoted k, inline_cons.mpr ⟨by decide, inline_append.mpr ⟨value, behind⟩⟩⟩

mutual

theorem inline_chars : (d : Value) → d.Exact → Inline d.chars
  | .null, _ => by decide
  | .bool b, _ => by cases b <;> decide
  | .number (.int n), _ => inline_signedDecimal n
  | .string s, _ => inline_quoted s
  | .array [], _ => by decide
  | .array (x :: xs), h => by
    rw [chars_array_cons]
    exact inline_cons.mpr ⟨by decide, inline_append.mpr ⟨inline_chars x h.1, inline_itemsTail xs h.2⟩⟩
  | .object [], _ => by decide
  | .object ((k, x) :: fs), h => by
    rw [chars_object_cons]
    have field := inline_field k (inline_chars x h.2.1) (inline_fieldsTail fs h.2.2)
    exact inline_cons.mpr ⟨by decide, field⟩

theorem inline_itemsTail : (xs : List Value) → ExactItems xs → Inline (itemsTail xs)
  | [], _ => by decide
  | x :: xs, h =>
    inline_cons.mpr ⟨by decide, inline_append.mpr ⟨inline_chars x h.1, inline_itemsTail xs h.2⟩⟩

theorem inline_fieldsTail : (fs : Fields) → ExactFields fs → Inline (fieldsTail fs)
  | [], _ => by decide
  | (k, x) :: fs, h =>
    inline_cons.mpr ⟨by decide, inline_field k (inline_chars x h.1) (inline_fieldsTail fs h.2)⟩

end

/-- An exact document with at most `n` arrays and objects inside one another. -/
structure Tame (n : Nat) (v : Value) : Prop where
  exact : v.Exact
  shallow : v.nesting ≤ n

theorem Tame.mono {m n : Nat} {v : Value} (h : v.Tame m) (le : m ≤ n) : v.Tame n :=
  ⟨h.exact, h.shallow.trans le⟩

theorem tame_array {n : Nat} {xs : List Value} : (array xs).Tame (n + 1) ↔ ∀ x ∈ xs, x.Tame n := by
  have items : ExactItems xs ∧ nestingItems xs ≤ n ↔ ∀ x ∈ xs, x.Tame n := by
    induction xs with
    | nil => simp [ExactItems, nestingItems]
    | cons x xs ih =>
      rw [List.forall_mem_cons, ← ih, ExactItems, nestingItems, Nat.max_le]
      exact ⟨fun h => ⟨⟨h.1.1, h.2.1⟩, h.1.2, h.2.2⟩, fun h => ⟨⟨h.1.exact, h.2.1⟩, h.1.shallow, h.2.2⟩⟩
  rw [← items]
  exact ⟨fun h => ⟨h.exact, Nat.le_of_succ_le_succ h.shallow⟩, fun h => ⟨h.1, Nat.succ_le_succ h.2⟩⟩

theorem tame_object {n : Nat} {fs : Fields} :
    (object fs).Tame (n + 1) ↔ (Fields.keys fs).Nodup ∧ ∀ f ∈ fs, f.2.Tame n := by
  have values : ExactFields fs ∧ nestingFields fs ≤ n ↔ ∀ f ∈ fs, f.2.Tame n := by
    induction fs with
    | nil => simp [ExactFields, nestingFields]
    | cons f fs ih =>
      rw [List.forall_mem_cons, ← ih, ExactFields, nestingFields, Nat.max_le]
      exact ⟨fun h => ⟨⟨h.1.1, h.2.1⟩, h.1.2, h.2.2⟩, fun h => ⟨⟨h.1.exact, h.2.1⟩, h.1.shallow, h.2.2⟩⟩
  rw [← values]
  exact ⟨fun h => ⟨h.exact.1, h.exact.2, Nat.le_of_succ_le_succ h.shallow⟩,
    fun h => ⟨⟨h.1, h.2.1⟩, Nat.succ_le_succ h.2.2⟩⟩

theorem mem_of_find? {fs : Fields} {key : String} {v : Value} (h : Fields.find? fs key = some v) :
    (key, v) ∈ fs := by
  induction fs with
  | nil => cases h
  | cons f fs ih =>
    unfold Fields.find? at h
    split at h
    next same =>
      cases h
      exact same ▸ List.mem_cons_self
    next => exact List.mem_cons_of_mem f (ih h)

theorem Tame.part {n : Nat} {v x : Value} (h : v.Tame (n + 1)) {key : String} {place : Nat}
    (found : v.part key place = some x) : x.Tame n := by
  cases v with
  | object fs => exact (tame_object.mp h).2 _ (mem_of_find? found)
  | array xs => exact tame_array.mp h x (List.mem_of_getElem? found)
  | _ => cases found

end Value

/-- A document that is tame stays tame in its normal form, if `k` levels are allowed. -/
def Mild (k : Nat) (normal : Value → Value) : Prop :=
  ∀ (n : Nat) (v : Value), k ≤ n → v.Tame n → (normal v).Tame n

namespace Declared

theorem entry_key {d : Declared} {found : Option Value} {f : String × Value} (h : d.entry found = some f) :
    f.1 = d.key := by
  obtain ⟨v, -, rfl⟩ := Option.map_eq_some_iff.mp h
  rfl

theorem keys_entries_sublist (ds : List Declared) (part : String → Nat → Option Value) :
    (Fields.keys (entries ds part)).Sublist (ds.map key) := by
  induction ds using List.reverseRecOn with
  | nil => exact List.Sublist.refl []
  | append_singleton ds d ih =>
    rw [entries_append, Fields.keys, List.map_append, List.map_append]
    refine ih.append ?_
    cases h : d.entry (part d.key ds.length) with
    | none => exact List.nil_sublist _
    | some f => simp [entry_key h]

theorem exists_of_mem_entries {ds : List Declared} {part : String → Nat → Option Value}
    {f : String × Value} (h : f ∈ entries ds part) :
    ∃ d ∈ ds, ∃ place, d.entry (part d.key place) = some f := by
  obtain ⟨⟨d, place⟩, mem, written⟩ := List.mem_filterMap.mp h
  have declared : d ∈ ds.zipIdx.map Prod.fst := List.mem_map_of_mem mem
  rw [List.zipIdx_map_fst] at declared
  exact ⟨d, declared, place, written⟩

/-- A field that shows nothing deeper than what stands in it, beyond `k` levels. -/
structure Shallow (k : Nat) (d : Declared) : Prop where
  normal : Mild k d.normal
  absent : ∀ v, d.absent = some v → v.Tame k

theorem shallow_plain (k : Nat) (key : String) : (plain key).Shallow k :=
  ⟨fun _ _ _ tame => tame, nofun⟩

theorem shallow_nested {k : Nat} {normal : Value → Value} (h : Mild k normal) (key : String) :
    (nested key normal).Shallow k :=
  ⟨h, nofun⟩

variable {k : Nat} {ds : List Declared}

theorem Shallow.entry {d : Declared} (h : d.Shallow k) {n : Nat} (enough : k ≤ n) {found : Option Value}
    (tame : ∀ v, found = some v → v.Tame n) {f : String × Value} (written : d.entry found = some f) :
    f.2.Tame n := by
  obtain ⟨v, hv, rfl⟩ := Option.map_eq_some_iff.mp written
  rcases Option.or_eq_some_iff.mp hv with shown | ⟨-, absent⟩
  · obtain ⟨w, hw, rfl⟩ := Option.map_eq_some_iff.mp shown
    exact h.normal n w enough (tame w (Option.filter_eq_some_iff.mp hw).1)
  · exact (h.absent v absent).mono enough

theorem mild_closed (distinct : (ds.map key).Nodup) (h : ∀ d ∈ ds, d.Shallow k) :
    Mild (k + 1) (closed ds) := by
  intro n v enough tame
  obtain ⟨n, rfl⟩ := Nat.exists_eq_add_of_le' (Nat.le_of_add_left_le enough)
  refine Value.tame_object.mpr ⟨distinct.sublist (keys_entries_sublist ds _), fun f hf => ?_⟩
  obtain ⟨d, hd, place, written⟩ := exists_of_mem_entries hf
  exact (h d hd).entry (Nat.le_of_succ_le_succ enough) (fun w found => tame.part found) written

theorem mild_opened (distinct : (ds.map key).Nodup) (h : ∀ d ∈ ds, d.Shallow k) :
    Mild (k + 1) (opened ds) := by
  intro n v enough tame
  obtain ⟨n, rfl⟩ := Nat.exists_eq_add_of_le' (Nat.le_of_add_left_le enough)
  cases v with
  | object fs =>
    obtain ⟨apart, values⟩ := Value.tame_object.mp tame
    refine Value.tame_object.mpr ⟨?_, fun f hf => ?_⟩
    · rw [Fields.keys, List.map_append]
      refine List.nodup_append.mpr ⟨distinct.sublist (keys_entries_sublist ds _),
        apart.sublist (List.filter_sublist.map Prod.fst), ?_⟩
      rintro a ha _ hb rfl
      obtain ⟨f, hf, rfl⟩ := List.mem_map.mp hb
      have other : f.1 ∉ ds.map key := by simpa using (List.mem_filter.mp hf).2
      exact other ((keys_entries_sublist ds _).subset ha)
    · rcases List.mem_append.mp hf with hf | hf
      · obtain ⟨d, hd, place, written⟩ := exists_of_mem_entries hf
        have shown : ∀ w, Fields.find? fs d.key = some w → w.Tame n := fun w found =>
          values _ (Value.mem_of_find? found)
        exact (h d hd).entry (Nat.le_of_succ_le_succ enough) shown written
      · exact values f (List.mem_of_mem_filter hf)
  | _ => exact tame

theorem mild_items {normal : Value → Value} (h : Mild k normal) :
    Mild (k + 1) (items normal) := by
  intro n v enough tame
  obtain ⟨n, rfl⟩ := Nat.exists_eq_add_of_le' (Nat.le_of_add_left_le enough)
  cases v with
  | array vs =>
    refine Value.tame_array.mpr fun x hx => ?_
    obtain ⟨y, hy, rfl⟩ := List.mem_map.mp hx
    exact h n y (Nat.le_of_succ_le_succ enough) (Value.tame_array.mp tame y hy)
  | _ => exact tame

end Declared


open Declared Value

theorem NamedObjectId.mild (k : Nat) : Mild (k + 1) normal :=
  mild_closed (by decide) (by simp [shallow_plain])

theorem ParameterValue.mild (k : Nat) : Mild (k + 2) normal :=
  mild_opened (by decide) (by simp [shallow_plain, shallow_nested (NamedObjectId.mild k)])

theorem ParameterData.mild : Mild 4 normal := by
  refine mild_closed (by decide) ?_
  have samples : (⟨"parameter", items ParameterValue.normal, some (.array [])⟩ : Declared).Shallow 3 := by
    refine ⟨mild_items (ParameterValue.mild 0), ?_⟩
    rintro v ⟨⟩
    exact Value.tame_array.mpr nofun
  simp [shallow_plain, samples]

theorem ConnectionInfo.mild : Mild 4 normal := by
  have site : Mild 3 Instance.normal := mild_opened (by decide) (by simp [shallow_plain])
  have processor : Mild 3 Processor.normal := mild_opened (by decide) (by simp [shallow_plain])
  have number : (⟨"clientId", id, some (.number (.int 0))⟩ : Declared).Shallow 3 := by
    refine ⟨fun _ _ _ tame => tame, ?_⟩
    rintro v ⟨⟩
    have whole : IsWhole 0 := ⟨by decide, by decide⟩
    exact ⟨whole, Nat.zero_le 3⟩
  exact mild_closed (by decide) (by simp [shallow_nested, site, processor, number])

/-- What is shown of an event is no deeper than its payload, beyond the four levels of samples. -/
theorem EventKind.mild_normal (kind : EventKind) : Mild 4 kind.normal := by
  cases kind with
  | log | time | stream | client | statistics | streamData | instanceInfo | processor | commandQueue =>
    exact mild_opened (by decide) (by simp [shallow_plain])
  | connectionInfo => exact ConnectionInfo.mild
  | link =>
    have info : Mild 3 LinkInfo.normal := mild_opened (by decide) (by simp [shallow_plain])
    exact mild_closed (by decide) (by simp [shallow_plain, shallow_nested info])
  | alarm =>
    exact mild_opened (by decide) (by simp [shallow_plain, shallow_nested (NamedObjectId.mild 2)])
  | commandQueueEvent =>
    have entry : Mild 3 CommandQueueEntry.normal := mild_opened (by decide) (by simp [shallow_plain])
    exact mild_closed (by decide) (by simp [shallow_plain, shallow_nested entry])
  | parameters => exact ParameterData.mild

namespace ParameterValue

/-- What is written of a sample besides its name. -/
def unnamed (p : ParameterValue) : Fields :=
  (p.numericId.map fun n => ("numericId", Value.number (.int n))).toList ++ p.extra

theorem write_eq (p : ParameterValue) : codec.write p =
    .object ((p.id.map fun id => ("id", NamedObjectId.codec.write id)).toList ++ p.unnamed) := by
  obtain ⟨id, number, extra⟩ := p
  cases id <;> cases number <;> rfl

theorem tame_restoreId {n : Nat} {v : Value} {p : ParameterValue} (h : codec.read v = .ok p)
    (tame : (codec.write p).Tame (n + 2)) (mapping : NumericMapping) :
    (codec.write (p.restoreId mapping)).Tame (n + 2) := by
  unfold restoreId
  split
  next => exact tame
  next nameless =>
    rw [write_eq, nameless] at tame
    rw [write_eq]
    cases p.numericId.bind mapping.find? with
    | none => exact tame
    | some id =>
      obtain ⟨distinct, values⟩ := tame_object.mp tame
      have apart := (Codec.keeps_of_openRecord layout_retains (fun _ _ => rfl) (fun _ _ => rfl) h).2
      have fresh : "id" ∉ Fields.keys p.unnamed := by
        intro old
        obtain ⟨f, hf, key⟩ := List.mem_map.mp old
        rcases List.mem_append.mp hf with hf | hf
        · obtain ⟨number, -, rfl⟩ := Option.map_eq_some_iff.mp (Option.mem_toList.mp hf)
          have differ : "numericId" ≠ "id" := by decide
          exact differ key
        · have other := apart f hf
          rw [key] at other
          exact other (by decide)
      have name : (NamedObjectId.codec.write id).Tame (n + 1) :=
        ⟨id.solid.exact, id.solid.shallow.trans (Nat.le_add_left 1 n)⟩
      exact tame_object.mpr ⟨List.nodup_cons.mpr ⟨fresh, distinct⟩,
        List.forall_mem_cons.mpr ⟨name, values⟩⟩

end ParameterValue

namespace ParameterData

theorem write_eq (d : ParameterData) : codec.write d =
    .object ((d.subscriptionId.map fun n => ("subscriptionId", Value.number (.int n))).toList ++
      [("parameter", .array (d.parameter.map ParameterValue.codec.write))]) := by
  obtain ⟨number, samples⟩ := d
  cases number <;> rfl

theorem tame_restoreIds {n : Nat} {v : Value} {d : ParameterData} (h : codec.read v = .ok d)
    (tame : (codec.write d).Tame (n + 4)) (mapping : NumericMapping) :
    (codec.write (d.restoreIds mapping)).Tame (n + 4) := by
  obtain ⟨-, samples⟩ := Codec.keeps_of_closedRecord layout_retains (fun _ => rfl) h
  have each : ∀ p ∈ d.parameter, _ := Codec.list_read_write.mp samples
  rw [write_eq] at tame ⊢
  obtain ⟨distinct, values⟩ := tame_object.mp tame
  rw [List.forall_mem_append, List.forall_mem_singleton] at values
  have renamed : (Value.array ((d.restoreIds mapping).parameter.map ParameterValue.codec.write)).Tame
      (n + 3) := by
    refine tame_array.mpr fun x hx => ?_
    obtain ⟨q, hq, rfl⟩ := List.mem_map.mp hx
    obtain ⟨p, hp, rfl⟩ := List.mem_map.mp hq
    have before := tame_array.mp values.2 _ (List.mem_map_of_mem hp)
    exact ParameterValue.tame_restoreId (each p hp) before mapping
  have keys : ∀ front : Fields, ∀ v w : Value,
      Fields.keys (front ++ [("parameter", v)]) = Fields.keys (front ++ [("parameter", w)]) := by
    simp [Fields.keys]
  refine tame_object.mpr ⟨?_, List.forall_mem_append.mpr ⟨values.1, ?_⟩⟩
  · rw [keys]
    exact distinct
  · exact List.forall_mem_singleton.mpr renamed

end ParameterData

/-- What is printed of an event is one line, and that gives back the subscription and the event. -/
structure PrintsBack (subscription : Nat) (receivedAt : String) (e : TopicEvent) (line : String) :
    Prop where
  printed : printEvent .json subscription receivedAt e = line ++ "\n"
  unbroken : ∀ c ∈ line.toList, c ≠ '\n' ∧ c ≠ '\r'
  back : ∃ data, TopicEvent.decode e.tag data = .ok (some e) ∧
    Value.read line = .ok (.object
      [("schema_id", .string "https://schemas.3leaps.dev/wsmux/cli/v1/topic-event.schema.json"),
        ("subscription", .number (.int subscription)), ("tag", .string e.tag),
        ("received_at", .string receivedAt), ("data", data)])

theorem tame_eventLine {subscription : Nat} (receivedAt : String) {e : TopicEvent} {n : Nat}
    (number : subscription < 0x10000000000000000) (tame : e.toValue.Tame n) :
    (eventLine subscription receivedAt e).Tame (n + 1) := by
  have whole : IsWhole subscription := by
    unfold IsWhole
    omega
  have text : ∀ s, (Value.string s).Tame n := fun s => ⟨trivial, n.zero_le⟩
  refine tame_object.mpr ⟨by simp [Fields.keys], ?_⟩
  simp only [List.forall_mem_cons, List.not_mem_nil, false_imp_iff, implies_true, and_true]
  exact ⟨text _, ⟨whole, n.zero_le⟩, text _, text _, tame⟩

theorem read_compact {d : Value} (h : d.Tame maxNesting) : Value.read d.compact = .ok d := by
  have spelled := Value.ofChars_spelled (Frame.spellsText_compact h.exact)
  rw [if_pos h.shallow, Value.merge_of_exact d h.exact] at spelled
  exact spelled

theorem printsBack_of_tame {subscription : Nat} (receivedAt : String) {e : TopicEvent}
    (number : subscription < 0x10000000000000000) (tame : e.toValue.Tame 126)
    (again : TopicEvent.decode e.tag e.toValue = .ok (some e)) :
    PrintsBack subscription receivedAt e (eventLine subscription receivedAt e).compact := by
  have whole := tame_eventLine receivedAt number tame
  refine ⟨?_, ?_, e.toValue, again, read_compact whole⟩
  · simp [printEvent, unlines]
  · rw [Value.compact, String.toList_ofList]
    exact (inline_chars _ whole.exact).unbroken

namespace TopicEvent

/-- A payload of whole numbers that is at most 126 deep goes through the line that is printed of its
event, also behind a route. -/
theorem decoded_printsBack {tag : String} {data : Value} {e : TopicEvent}
    (h : decode tag data = .ok (some e)) (exact : data.Exact) (shallow : data.nesting ≤ 126)
    {subscription : Nat} (number : subscription < 0x10000000000000000) (receivedAt : String) :
    (∃ line, PrintsBack subscription receivedAt e line) ∧
      ∀ (r : Route) (item : TopicEvent), r.deliver e = some item →
        ∃ line, PrintsBack subscription receivedAt item line := by
  have shown : ∀ {item : TopicEvent}, read item.kind item.toValue = .ok item →
      item.toValue.Tame 126 → ∃ line, PrintsBack subscription receivedAt item line := by
    intro item again tame
    exact ⟨_, printsBack_of_tame receivedAt number tame
      (decode_eq_some_iff.mpr ⟨EventKind.ofTag?_tag item.kind, again⟩)⟩
  have given := (decode_eq_some_iff.mp h).2
  have tame : e.toValue.Tame 126 := by
    rw [toValue_of_read given]
    exact e.kind.mild_normal 126 data (by decide) ⟨exact, shallow⟩
  refine ⟨shown (read_toValue given) tame, fun r item delivered => ?_⟩
  rcases eq_or_restored_of_deliver delivered with rfl | ⟨pushed, mapping, rfl, rfl⟩
  · exact shown (read_toValue given) tame
  · obtain ⟨d, readData, same⟩ := exists_of_map given
    cases same
    have restored := ParameterData.read_write_restoreIds readData mapping
    exact shown (congrArg (Except.map TopicEvent.parameters) restored)
      (ParameterData.tame_restoreIds (n := 122) readData tame mapping)

/-- A payload with breaks of the line in a key, in a declared text and in one that is not declared. -/
def ragged : Value :=
  .object [("notes\r", .array [.string "two\nlines"]), ("message", .string "\r\n\"\\\x01é"),
    ("seqNumber", .number (.int (-3)))]

theorem ragged_printsBack : ∃ e, decode "EVENT" ragged = .ok (some e) ∧
    ∃ line, PrintsBack 0xFFFFFFFFFFFFFFFF "1700000000" e line := by
  have exact : ragged.Exact := by
    simp [ragged, Exact, ExactFields, ExactItems, IsWhole, Fields.keys]
  obtain ⟨e, read⟩ : ∃ e, decode "EVENT" ragged = .ok (some e) := ⟨_, rfl⟩
  exact ⟨e, read, (decoded_printsBack read exact (by decide) (by decide) "1700000000").1⟩

end TopicEvent

end Telemux
