import Telemux.Frame.Basic
import Telemux.Proofs.Reading

namespace Telemux.Frame

variable {config : FrameConfig} {f : Frame}

/-- Any way to write a document is read as that document with its repeated keys merged, however the
blanks stand, unless it is too long or too deep. -/
theorem decode_spelled {d : Value} {text : String} (h : d.SpellsText text.toList)
    (fits : text.utf8ByteSize ≤ config.maxSize) :
    decode config text = if d.nesting ≤ maxNesting then (ofValue config d.merge).mapError .malformed
      else .error (.json (.text .malformed)) := by
  unfold decode Value.read
  rw [if_pos fits, Value.ofChars_spelled h]
  by_cases shallow : d.nesting ≤ maxNesting
  · rw [if_pos shallow, if_pos shallow]
  · rw [if_neg shallow, if_neg shallow]

/-- What may stand for the sequence in the document of a frame. -/
def IsSequence (f : Frame) (s : Value) : Prop :=
  s = .number (.int f.sequence) ∨ (s = .null ∧ f.kind = .data ∧ f.sequence = 0)

/-- The document of a frame with `s` for the sequence and `b` for the body. -/
def document (config : FrameConfig) (f : Frame) (s b : Value) : Value :=
  .array [.number (.int config.version), .number (.int f.kind.code), s, b]

theorem ofValue_document (version : config.version < 2 ^ 32) {fields : Fields}
    (object : f.body = .object fields) {s : Value} (hs : f.IsSequence s) :
    ofValue config (f.document config s f.body) = .ok { f with version := config.version } := by
  have spoken : versionOf config (.number (.int config.version)) = .ok config.version := by
    unfold versionOf
    exact (if_neg (Nat.not_le.mpr version)).trans (if_pos rfl)
  have kind : kindOf (.number (.int f.kind.code)) = .ok f.kind := by
    unfold kindOf
    simp [Value.nat?, MessageKind.ofCode?_code]
  have sequence : sequenceOf f.kind s = .ok f.sequence := by
    rcases hs with rfl | ⟨rfl, data, zero⟩
    · unfold sequenceOf
      cases f.kind <;> rfl
    · rw [data, zero]
      rfl
  have body : bodyOf f.body = .ok f.body := by
    rw [object]
    rfl
  unfold document ofValue
  simp only [spoken, kind, sequence, body, bind, Except.bind]

theorem exact_envelope (version : config.version < 2 ^ 32) (sequence : f.sequence < 2 ^ 64)
    (body : f.body.Exact) : (f.envelope config).Exact := by
  have whole : ∀ n : Nat, n < 2 ^ 64 → IsWhole n := by
    intro n hn
    unfold IsWhole
    omega
  have kind : f.kind.code < 2 ^ 64 := by cases f.kind <;> decide
  exact ⟨whole _ (by omega), whole _ kind, whole _ sequence, body, trivial⟩

theorem encode_object (config : FrameConfig) {fields : Fields} (object : f.body = .object fields) :
    f.encode config =
      if (f.envelope config).compact.utf8ByteSize ≤ config.maxSize then .ok (f.envelope config).compact
      else .error (.tooLarge (f.envelope config).compact.utf8ByteSize config.maxSize) := by
  unfold encode
  rw [object]

theorem spellsText_compact {d : Value} (exact : d.Exact) : d.SpellsText d.compact.toList := by
  refine ⟨d.chars, [], d.spells_chars exact, nofun, ?_⟩
  rw [Value.compact, String.toList_ofList, List.append_nil]

theorem utf8ByteSize_compact (d : Value) : d.compact.utf8ByteSize = String.utf8Len d.chars :=
  String.utf8ByteSize_ofList d.chars

/-- What reading a frame's own text gives. -/
theorem decode_compact (version : config.version < 2 ^ 32) {fields : Fields}
    (object : f.body = .object fields) (exact : (f.envelope config).Exact)
    (fits : (f.envelope config).compact.utf8ByteSize ≤ config.maxSize) :
    decode config (f.envelope config).compact =
      if (f.envelope config).nesting ≤ maxNesting then .ok { f with version := config.version }
      else .error (.json (.text .malformed)) := by
  have read : ofValue config (f.envelope config) = .ok { f with version := config.version } :=
    ofValue_document version object (.inl rfl)
  rw [decode_spelled (spellsText_compact exact) fits, Value.merge_of_exact _ exact, read]
  rfl

/-- The text of a frame is no longer than allowed, and gives the frame back if, and only if, its
arrays and objects are at most 127 deep, the envelope being one of them. -/
structure RoundTrips (config : FrameConfig) (f : Frame) (text : String) : Prop where
  fits : text.utf8ByteSize ≤ config.maxSize
  back : decode config text = .ok { f with version := config.version } ↔
    (f.envelope config).nesting ≤ 127
  deep : 127 < (f.envelope config).nesting → decode config text = .error (.json (.text .malformed))

theorem roundTrips_of_encode {fields : Fields} (version : config.version < 2 ^ 32)
    (sequence : f.sequence < 2 ^ 64) (object : f.body = .object fields) (body : f.body.Exact)
    {text : String} (h : f.encode config = .ok text) : RoundTrips config f text := by
  rw [encode_object config object] at h
  split at h
  next fits =>
    cases h
    have read : decode config (f.envelope config).compact =
        if (f.envelope config).nesting ≤ 127 then .ok { f with version := config.version }
        else .error (.json (.text .malformed)) :=
      decode_compact version object (exact_envelope version sequence body) fits
    refine ⟨fits, ⟨?_, ?_⟩, ?_⟩
    · intro back
      by_contra deep
      rw [read, if_neg deep] at back
      cases back
    · intro shallow
      rw [read, if_pos shallow]
    · intro deep
      rw [read, if_neg (Nat.not_le.mpr deep)]
  next => cases h

/-- Nothing but its size keeps a frame from being written. -/
theorem decode_encode {fields : Fields} (version : config.version < 2 ^ 32)
    (sequence : f.sequence < 2 ^ 64) (object : f.body = .object fields) (body : f.body.Exact) :
    ((∃ text, f.encode config = .ok text) ↔
      (f.envelope config).compact.utf8ByteSize ≤ config.maxSize) ∧
    ∀ text, f.encode config = .ok text → RoundTrips config f text := by
  have written := encode_object config object
  refine ⟨⟨?_, ?_⟩, fun text h => roundTrips_of_encode version sequence object body h⟩
  · rintro ⟨text, h⟩
    rw [written] at h
    split at h
    next fits => exact fits
    next => cases h
  · intro fits
    exact ⟨_, written.trans (if_pos fits)⟩

/-- A frame with all kinds of values: escapes, characters of every width and the outermost numbers. -/
def varied : Frame :=
  ⟨7, .data, 0xFFFFFFFFFFFFFFFF, .object [
    ("q\"\\\n\x01é😀", .array [.null, .bool true, .number (.int (-0x8000000000000000)), .array []]),
    ("b", .object [("y", .number (.int 0xFFFFFFFFFFFFFFFF)), ("x", .string "/\x7f")])]⟩

/-- So many objects inside one another, and one around them. -/
def buried : Nat → Fields
  | 0 => []
  | n + 1 => [("", .object (buried n))]

theorem exact_buried (n : Nat) : (Value.object (buried n)).Exact := by
  induction n with
  | zero => exact ⟨List.nodup_nil, trivial⟩
  | succ n ih => exact ⟨List.pairwise_singleton _ "", ih, trivial⟩

theorem decode_encode_varied :
    (varied.body.Exact ∧ ∃ text, varied.encode {} = .ok text ∧
      decode {} text = .ok { varied with version := 1 }) ∧
    ∃ text, (⟨1, .reply, 5, .object (buried 126)⟩ : Frame).encode {} = .ok text ∧
      decode {} text = .error (.json (.text .malformed)) := by
  have version : ({} : FrameConfig).version < 2 ^ 32 := by decide
  refine ⟨?_, ?_⟩
  · have exact : varied.body.Exact := by
      simp [varied, Value.Exact, Value.ExactFields, Value.ExactItems, IsWhole, Fields.keys]
    have fits : (varied.envelope {}).compact.utf8ByteSize ≤ ({} : FrameConfig).maxSize := by
      rw [utf8ByteSize_compact]
      decide +kernel
    have both := decode_encode (f := varied) version (by decide) rfl exact
    obtain ⟨text, h⟩ := both.1.mpr fits
    exact ⟨exact, text, h, (both.2 text h).back.mpr (by decide)⟩
  · have fits : ((⟨1, .reply, 5, .object (buried 126)⟩ : Frame).envelope {}).compact.utf8ByteSize ≤
        ({} : FrameConfig).maxSize := by
      rw [utf8ByteSize_compact]
      decide +kernel
    have both := decode_encode (f := ⟨1, .reply, 5, .object (buried 126)⟩) version (by decide) rfl
      (exact_buried 126)
    obtain ⟨text, h⟩ := both.1.mpr fits
    exact ⟨text, h, (both.2 text h).deep (by decide +kernel)⟩

end Telemux.Frame
