import Telemux.Proofs.Canonical

namespace Telemux

/-- The text is one JSON document, whose arrays and objects are at most 127 deep, and `v` is what is
kept of it: of a repeated key, the last value. -/
def Value.IsDocument (v : Value) (text : String) : Prop :=
  ∃ d : Value, d.DenotedByText text.toList ∧ d.nesting ≤ 127 ∧ v = d.merge

theorem Value.read_eq_ok_iff {v : Value} {text : String} : read text = .ok v ↔ v.IsDocument text := by
  constructor
  · exact denoted_of_ofChars
  · rintro ⟨d, denoted, shallow, rfl⟩
    exact (ofChars_denoted denoted).trans (if_pos shallow)

/-- A text has only one document. -/
theorem Value.IsDocument.eq {v w : Value} {text : String} (hv : v.IsDocument text)
    (hw : w.IsDocument text) : v = w := by
  have same := (read_eq_ok_iff.mpr hv).symm.trans (read_eq_ok_iff.mpr hw)
  cases same
  rfl

/-- A whole number in a document has sixty-four bits. -/
theorem Value.isWhole_of_denotedBy {n : Int} {w : List Char} (h : (Value.number (.int n)).DenotedBy w) :
    IsWhole n := by
  obtain ⟨t, ⟨whole⟩, -⟩ := h
  exact whole

namespace Frame

variable {config : FrameConfig} {text : String}

/-- What a document has to be for a frame: its version, the code of its kind, its sequence and its body.
Null may stand for the sequence of pushed data. -/
inductive Envelope (version : Nat) : Value → Frame → Prop
  | numbered {code : Nat} {kind : MessageKind}
      (known : (code, kind) ∈ [(1, .request), (2, .reply), (3, .exception), (4, .data)]) {n : Nat}
      (range : n < 2 ^ 64) (fields : Fields) :
      Envelope version
        (.array [.number (.int version), .number (.int code), .number (.int n), .object fields])
        ⟨version, kind, n, .object fields⟩
  | unnumbered (fields : Fields) :
      Envelope version (.array [.number (.int version), .number (.int 4), .null, .object fields])
        ⟨version, .data, 0, .object fields⟩

theorem ofValue_of_envelope (small : config.version < 2 ^ 32) {v : Value} {f : Frame}
    (h : Envelope config.version v f) : ofValue config v = .ok f := by
  cases h with
  | @numbered code kind known n range fields =>
    have spoken : code = kind.code := by
      simp only [List.mem_cons, Prod.mk.injEq, List.not_mem_nil, or_false] at known
      obtain ⟨rfl, rfl⟩ | ⟨rfl, rfl⟩ | ⟨rfl, rfl⟩ | ⟨rfl, rfl⟩ := known <;> rfl
    subst spoken
    exact ofValue_document (f := ⟨config.version, kind, n, .object fields⟩) small rfl (.inl rfl)
  | unnumbered fields =>
    exact ofValue_document (f := ⟨config.version, .data, 0, .object fields⟩) small rfl
      (.inr ⟨rfl, rfl, rfl⟩)

/-- The sequence of a frame that was read has sixty-four bits. -/
theorem sequence_lt {v : Value} {f : Frame} (document : v.IsDocument text)
    (numbered : v = f.document config (.number (.int f.sequence)) f.body) : f.sequence < 2 ^ 64 := by
  obtain ⟨d, ⟨w, b, denoted, -⟩, -, rfl⟩ := document
  obtain ⟨v', k', s', b', rfl, -, -, sequence, -⟩ := merge_eq_array numbered
  obtain ⟨-, -, -, ⟨-, -, -, ⟨u, -, hu, -⟩, -⟩, -⟩ := denoted
  rw [merge_eq_number sequence] at hu
  have bound := (Value.isWhole_of_denotedBy hu).2
  omega

theorem envelope_of_ofValue {v : Value} {f : Frame} (document : v.IsDocument text)
    (h : ofValue config v = .ok f) : Envelope config.version v f := by
  obtain ⟨⟨s, hs, rfl⟩, version, -, fields, object⟩ := ofValue_eq_ok h
  rcases hs with rfl | ⟨rfl, data, zero⟩
  · have range := sequence_lt document rfl
    have known : (f.kind.code, f.kind) ∈
        [(1, MessageKind.request), (2, .reply), (3, .exception), (4, .data)] := by
      cases f.kind <;> decide
    obtain ⟨_, kind, n, _⟩ := f
    cases version
    cases object
    exact .numbered known range fields
  · obtain ⟨_, _, _, _⟩ := f
    cases version
    cases data
    cases zero
    cases object
    exact .unnumbered fields

/-- What becomes of a text by what it is: a frame, a text that is too long, no document, or a document
without a frame. -/
structure JudgedByGrammar (config : FrameConfig) (text : String) : Prop where
  accepted : ∀ f, decode config text = .ok f ↔
    text.utf8ByteSize ≤ config.maxSize ∧ ∃ v, v.IsDocument text ∧ Envelope config.version v f
  tooLarge : (∃ size max, decode config text = .error (.tooLarge size max)) ↔
    config.maxSize < text.utf8ByteSize
  json : (∃ e, decode config text = .error (.json e)) ↔
    text.utf8ByteSize ≤ config.maxSize ∧ ¬∃ v : Value, v.IsDocument text
  malformed : (∃ fault, decode config text = .error (.malformed fault)) ↔
    text.utf8ByteSize ≤ config.maxSize ∧ (∃ v : Value, v.IsDocument text) ∧
      ¬∃ v f, v.IsDocument text ∧ Envelope config.version v f

theorem judged_of_tooLarge (long : config.maxSize < text.utf8ByteSize) : JudgedByGrammar config text := by
  have unfit : ¬text.utf8ByteSize ≤ config.maxSize := Nat.not_le.mpr long
  have decoded : decode config text = .error (.tooLarge text.utf8ByteSize config.maxSize) := if_neg unfit
  constructor <;> rw [decoded]
  · exact fun f => ⟨nofun, fun h => absurd h.1 unfit⟩
  · exact ⟨fun _ => long, fun _ => ⟨_, _, rfl⟩⟩
  · exact ⟨nofun, fun h => absurd h.1 unfit⟩
  · exact ⟨nofun, fun h => absurd h.1 unfit⟩

theorem judged_of_unread {e : ReadError} (fits : text.utf8ByteSize ≤ config.maxSize)
    (read : Value.read text = .error e) : JudgedByGrammar config text := by
  have none : ¬∃ v : Value, v.IsDocument text := by
    rintro ⟨v, document⟩
    rw [Value.read_eq_ok_iff.mpr document] at read
    cases read
  have decoded : decode config text = .error (.json (.text e)) := by
    rw [decode, if_pos fits, read]
  constructor <;> rw [decoded]
  · exact fun f => ⟨nofun, fun ⟨_, v, document, _⟩ => absurd ⟨v, document⟩ none⟩
  · exact ⟨nofun, fun long => absurd fits (Nat.not_le.mpr long)⟩
  · exact ⟨fun _ => ⟨fits, none⟩, fun _ => ⟨_, rfl⟩⟩
  · exact ⟨nofun, fun h => absurd h.2.1 none⟩

theorem judged_of_document (small : config.version < 2 ^ 32) {v : Value}
    (fits : text.utf8ByteSize ≤ config.maxSize) (document : v.IsDocument text) :
    JudgedByGrammar config text := by
  have frame : ∀ f, (∃ w, w.IsDocument text ∧ Envelope config.version w f) ↔ ofValue config v = .ok f := by
    intro f
    constructor
    · rintro ⟨w, other, envelope⟩
      rw [document.eq other]
      exact ofValue_of_envelope small envelope
    · exact fun h => ⟨v, document, envelope_of_ofValue document h⟩
  have decoded : decode config text = (ofValue config v).mapError .malformed := by
    rw [decode, if_pos fits, Value.read_eq_ok_iff.mpr document]
  constructor <;> rw [decoded]
  · intro f
    rw [frame]
    cases ofValue config v with
    | ok g => exact ⟨fun h => ⟨fits, by cases h; rfl⟩, fun h => by cases h.2; rfl⟩
    | error fault => exact ⟨nofun, nofun⟩
  · refine ⟨?_, fun long => absurd fits (Nat.not_le.mpr long)⟩
    cases ofValue config v <;> exact nofun
  · refine ⟨?_, fun h => absurd ⟨v, document⟩ h.2⟩
    cases ofValue config v <;> exact nofun
  · rw [exists_comm]
    simp only [frame]
    cases ofValue config v with
    | ok g => exact ⟨nofun, fun h => absurd ⟨g, rfl⟩ h.2.2⟩
    | error fault => exact ⟨fun _ => ⟨fits, ⟨v, document⟩, nofun⟩, fun _ => ⟨fault, rfl⟩⟩

/-- The envelope grammar tells what becomes of every text. -/
theorem decode_judged (small : config.version < 2 ^ 32) (text : String) : JudgedByGrammar config text := by
  by_cases fits : text.utf8ByteSize ≤ config.maxSize
  · cases read : Value.read text with
    | error => exact judged_of_unread fits read
    | ok => exact judged_of_document small fits (Value.read_eq_ok_iff.mp read)
  · exact judged_of_tooLarge (Nat.not_le.mp fits)

/-- Null stands for the sequence of pushed data, and of nothing else. -/
theorem decode_judged_null :
    (∃ v, v.IsDocument "[1,4,null,\x7b\"a\":[2]\x7d]" ∧
      Envelope 1 v ⟨1, .data, 0, .object [("a", .array [.number (.int 2)])]⟩) ∧
    (∃ v : Value, v.IsDocument "[1,2,null,\x7b\x7d]") ∧
    ¬∃ v f, v.IsDocument "[1,2,null,\x7b\x7d]" ∧ Envelope 1 v f := by
  have small : ({} : FrameConfig).version < 2 ^ 32 := by decide
  have pushed : decode {} "[1,4,null,\x7b\"a\":[2]\x7d]" =
      .ok ⟨1, .data, 0, .object [("a", .array [.number (.int 2)])]⟩ := by
    decide +kernel
  have reply : decode {} "[1,2,null,\x7b\x7d]" = .error (.malformed .sequenceNotNumber) := by
    decide +kernel
  refine ⟨?_, ?_⟩
  · exact (((decode_judged small _).accepted _).mp pushed).2
  · exact ((decode_judged small _).malformed.mp ⟨_, reply⟩).2

end Frame

end Telemux
