import Telemux.Proofs.Parsing
import Telemux.Proofs.RoundTrip

namespace Telemux

theorem nat?_eq_some {v : Value} {n : Nat} (h : v.nat? = some n) : v = .number (.int n) := by
  unfold Value.nat? at h
  split at h
  next m =>
    cases h
    rfl
  next => cases h

theorem merge_eq_number {d : Value} {n : Number} (h : d.merge = .number n) : d = .number n := by
  cases d with
  | array | object => cases h
  | _ => exact h

theorem merge_eq_object {d : Value} {kept : Fields} (h : d.merge = .object kept) :
    ∃ fields, d = .object fields := by
  cases d with
  | object fields => exact ⟨fields, rfl⟩
  | array => cases h
  | _ => cases h

theorem merge_eq_null {d : Value} (h : d.merge = .null) : d = .null := by
  cases d with
  | array | object => cases h
  | _ => exact h

namespace Frame

variable {config : FrameConfig} {f : Frame}

theorem versionOf_eq_ok {v : Value} {n : Nat} (h : versionOf config v = .ok n) :
    v = .number (.int config.version) ∧ n = config.version ∧ config.version < 2 ^ 32 := by
  unfold versionOf at h
  split at h
  next m hm =>
    split_ifs at h with large spoken
    cases h
    subst spoken
    exact ⟨nat?_eq_some hm, rfl, Nat.not_le.mp large⟩
  next => cases h

theorem kindOf_eq_ok {v : Value} {kind : MessageKind} (h : kindOf v = .ok kind) :
    v = .number (.int kind.code) := by
  unfold kindOf at h
  split at h
  next code hc =>
    split at h
    next k hk =>
      cases h
      rw [MessageKind.code_of_ofCode? hk]
      exact nat?_eq_some hc
    next => cases h
  next => cases h

theorem sequenceOf_eq_ok {kind : MessageKind} {v : Value} {n : Nat} (h : sequenceOf kind v = .ok n) :
    v = .number (.int n) ∨ (v = .null ∧ kind = .data ∧ n = 0) := by
  unfold sequenceOf at h
  split at h
  next =>
    cases h
    exact .inr ⟨rfl, rfl, rfl⟩
  next =>
    split at h
    next m hm =>
      cases h
      exact .inl (nat?_eq_some hm)
    next => cases h

theorem bodyOf_eq_ok {v b : Value} (h : bodyOf v = .ok b) : v = b ∧ ∃ fields, b = .object fields := by
  unfold bodyOf at h
  split at h
  next =>
    cases h
    exact ⟨rfl, _, rfl⟩
  next => cases h

/-- A document that is accepted as a frame has just the four parts of that frame. -/
theorem ofValue_eq_ok {v : Value} (h : ofValue config v = .ok f) :
    (∃ s, f.IsSequence s ∧ v = f.document config s f.body) ∧
    f.version = config.version ∧ config.version < 2 ^ 32 ∧ ∃ fields, f.body = .object fields := by
  unfold ofValue at h
  split at h
  next v k s b =>
    obtain ⟨version, hv, h⟩ := exists_of_bind h
    obtain ⟨kind, hk, h⟩ := exists_of_bind h
    obtain ⟨sequence, hs, h⟩ := exists_of_bind h
    obtain ⟨body, hb, h⟩ := exists_of_bind h
    cases h
    obtain ⟨rfl, rfl, small⟩ := versionOf_eq_ok hv
    obtain ⟨rfl, object⟩ := bodyOf_eq_ok hb
    rw [kindOf_eq_ok hk]
    exact ⟨⟨s, sequenceOf_eq_ok hs, rfl⟩, rfl, small, object⟩
  next => cases h
  next => cases h

theorem merge_eq_array {d v k s b : Value} (h : d.merge = .array [v, k, s, b]) :
    ∃ v' k' s' b', d = .array [v', k', s', b'] ∧ v'.merge = v ∧ k'.merge = k ∧ s'.merge = s ∧
      b'.merge = b := by
  cases d with
  | array xs =>
    match xs, h with
    | [v', k', s', b'], h =>
      cases h
      exact ⟨v', k', s', b', rfl, rfl, rfl, rfl, rfl⟩
  | object => cases h
  | _ => cases h

theorem nesting_document {s b : Value} (hs : f.IsSequence s) :
    (f.document config s b).nesting = b.nesting + 1 := by
  have flat : s.nesting = 0 := by
    rcases hs with rfl | ⟨rfl, -⟩ <;> rfl
  simp [document, Value.nesting, Value.nestingItems, flat]

theorem merge_document {s b : Value} (hs : f.IsSequence s) :
    (f.document config s b).merge = f.document config s b.merge := by
  rcases hs with rfl | ⟨rfl, -⟩ <;> rfl

/-- The ways to write a frame: null may stand for the sequence of pushed data, and the fields of the
body may repeat keys. -/
def WrittenAs (config : FrameConfig) (f : Frame) (fields : Fields) (text : String) : Prop :=
  ∃ s, f.IsSequence s ∧ f.body = (Value.object fields).merge ∧ (Value.object fields).nesting + 1 ≤ 127 ∧
    (f.document config s (.object fields)).SpellsText text.toList

theorem writtenAs_of_decode {raw : String} (plain : PlainNumbers raw.toList)
    (h : decode config raw = .ok f) : raw.utf8ByteSize ≤ config.maxSize ∧
      (∃ fields, WrittenAs config f fields raw) ∧ f.version = config.version ∧
      config.version < 2 ^ 32 := by
  unfold decode at h
  split at h
  next fits =>
    split at h
    next => cases h
    next v read =>
      obtain ⟨d, spells, deep, rfl⟩ := Value.spellsText_of_ofChars plain read
      cases hv : ofValue config d.merge with
      | error => simp [hv, Except.mapError] at h
      | ok g =>
        rw [hv] at h
        cases h
        obtain ⟨⟨s, hs, parts⟩, version, small, kept, object⟩ := ofValue_eq_ok hv
        obtain ⟨v, k, s', b, rfl, first, second, sequence, body⟩ := merge_eq_array parts
        obtain ⟨fields, rfl⟩ := merge_eq_object (body.trans object)
        have same : s' = s := by
          rcases hs with rfl | ⟨rfl, -⟩
          · exact merge_eq_number sequence
          · exact merge_eq_null sequence
        rw [merge_eq_number first, merge_eq_number second, same] at spells deep
        have nesting : (f.document config s (.object fields)).nesting = _ := nesting_document hs
        exact ⟨fits, ⟨fields, s, hs, body.symm, nesting ▸ deep, spells⟩, version, small⟩
  next => cases h

section Written

variable {fields : Fields} {text : String}

/-- Every way to write a frame is read as that frame. -/
theorem decode_of_writtenAs (h : WrittenAs config f fields text)
    (fits : text.utf8ByteSize ≤ config.maxSize) (version : f.version = config.version)
    (small : config.version < 2 ^ 32) : decode config text = .ok f := by
  obtain ⟨s, hs, body, deep, spells⟩ := h
  have shallow : (f.document config s (.object fields)).nesting ≤ maxNesting := by
    rw [nesting_document hs]
    exact deep
  rw [decode_spelled spells fits, if_pos shallow, merge_document hs, ← body,
    ofValue_document small body hs, ← version]
  rfl

theorem exact_of_writtenAs (h : WrittenAs config f fields text) : (f.envelope config).Exact := by
  obtain ⟨s, hs, body, -, w, -, spells, -⟩ := h
  have exact := Value.exact_merge _ spells
  rw [merge_document hs, ← body] at exact
  obtain ⟨version, kind, sequence, rest⟩ := exact
  refine ⟨version, kind, ?_, rest⟩
  rcases hs with rfl | ⟨-, -, zero⟩
  · exact sequence
  · have whole : IsWhole 0 := by
      unfold IsWhole
      omega
    rw [zero]
    exact whole

open String (utf8Len)

theorem utf8Len_document (s b : Value) :
    utf8Len (f.document config s b).chars = utf8Len (decimal config.version) +
      utf8Len (decimal f.kind.code) + utf8Len s.chars + utf8Len b.chars + 5 := by
  have bracket : ∀ cs, utf8Len ('[' :: cs) = utf8Len cs + 1 := fun _ => rfl
  have close : utf8Len (Value.itemsTail []) = 1 := rfl
  have number : ∀ n : Nat, (Value.number (.int n)).chars = decimal n := fun _ => rfl
  rw [document, Value.chars_array_cons, bracket, String.utf8Len_append]
  simp only [Value.utf8Len_itemsTail_cons, close, number]
  omega

/-- No way to write a frame is shorter than its compact text. -/
theorem size_le_of_writtenAs (h : WrittenAs config f fields text) :
    (f.envelope config).compact.utf8ByteSize ≤ text.utf8ByteSize := by
  obtain ⟨s, hs, body, -, w, blanks, spells, -, split⟩ := h
  have envelope : f.envelope config = f.document config (.number (.int f.sequence)) f.body := rfl
  have shorter := Value.utf8Len_merge_le _ spells
  have sequence : utf8Len (Value.number (.int f.sequence)).chars ≤ utf8Len s.chars := by
    -- Null takes four bytes where the zero that is written takes one.
    rcases hs with rfl | ⟨rfl, -, zero⟩
    · exact Nat.le_refl _
    · rw [zero]
      decide +kernel
  rw [merge_document hs, ← body, utf8Len_document] at shorter
  rw [utf8ByteSize_compact, envelope, utf8Len_document, ← String.utf8Len_toList, split,
    String.utf8Len_append]
  omega

theorem writtenAs_compact (h : WrittenAs config f fields text) :
    WrittenAs config f (Value.mergeFields [] fields) (f.envelope config).compact := by
  have exact := exact_of_writtenAs h
  have distinct : f.body.Exact := exact.2.2.2.1
  obtain ⟨s, hs, body, deep, -⟩ := h
  have object : f.body = .object (Value.mergeFields [] fields) := body
  have merged := (Value.object fields).nesting_merge
  have spelled := spellsText_compact exact
  rw [← body, object] at merged
  refine ⟨.number (.int f.sequence), .inl rfl, ?_, by omega, ?_⟩
  · rw [← object]
    exact (Value.merge_of_exact _ distinct).symm
  · rw [← object]
    exact spelled

end Written

/-- The text that is written for a frame which was read: the compact one. It is one text for all the
ways to write the frame, none of which is shorter, and it is read as the frame again. -/
structure Canonical (config : FrameConfig) (raw : String) (f : Frame) (text : String) : Prop where
  written : f.encode config = .ok text
  shorter : text.utf8ByteSize ≤ raw.utf8ByteSize
  back : decode config text = .ok f
  again : ∀ g, decode config text = .ok g → g.encode config = .ok text
  compact : text = (f.envelope config).compact
  spelling : ∃ fields kept, WrittenAs config f fields raw ∧ f.body = .object kept ∧
    Value.Merges fields kept
  common : ∀ fields other, WrittenAs config f fields other → other.utf8ByteSize ≤ config.maxSize →
    decode config other = .ok f ∧ text.utf8ByteSize ≤ other.utf8ByteSize

theorem encode_decode {raw : String} (plain : PlainNumbers raw.toList) (h : decode config raw = .ok f) :
    ∃ text, Canonical config raw f text := by
  obtain ⟨fits, ⟨fields, spelled⟩, version, small⟩ := writtenAs_of_decode plain h
  have shorter := size_le_of_writtenAs spelled
  have object : f.body = .object (Value.mergeFields [] fields) := by
    obtain ⟨s, -, body, -⟩ := spelled
    exact body
  have written : f.encode config = .ok (f.envelope config).compact := by
    rw [encode_object config object, if_pos (shorter.trans fits)]
  have back : decode config (f.envelope config).compact = .ok f :=
    decode_of_writtenAs (writtenAs_compact spelled) (shorter.trans fits) version small
  refine ⟨_, written, shorter, back, ?_, rfl, ?_, ?_⟩
  · intro g hg
    rw [back] at hg
    cases hg
    exact written
  · exact ⟨fields, _, spelled, object, Value.merges_mergeFields fields⟩
  · intro fields other ho fit
    exact ⟨decode_of_writtenAs ho fit version small, size_le_of_writtenAs ho⟩

/-- A frame in a loose text: with blanks, escapes that need not be, a key given twice and null for the
sequence. -/
def loose : Frame :=
  ⟨1, .data, 0, .object [("a", .array [.bool true]), ("b/", .number (.int (-2)))]⟩

def looseText : String :=
  " [1 ,4,\tnull,\x7b \"a\":1,\"\\u0062\\/\": -2,\"\\u0061\":[true]\x7d]\n"

theorem encode_decode_loose : PlainNumbers looseText.toList ∧ decode {} looseText = .ok loose ∧
    Canonical {} looseText loose "[1,4,0,\x7b\"a\":[true],\"b/\":-2\x7d]" := by
  have read : decode {} looseText = .ok loose := by decide +kernel
  have scan : numerals .outside looseText.toList = [1, 4, 1, -2].map signedDecimal := by decide +kernel
  have plain : PlainNumbers looseText.toList := by
    intro text ht
    rw [scan] at ht
    obtain ⟨n, hn, rfl⟩ := List.mem_map.mp ht
    have whole : ∀ n ∈ ([1, 4, 1, -2] : List Int), IsWhole n := by simp [IsWhole]
    exact ⟨n, whole n hn, rfl⟩
  have compact : (loose.envelope {}).compact = "[1,4,0,\x7b\"a\":[true],\"b/\":-2\x7d]" := by
    decide +kernel
  obtain ⟨text, canonical⟩ := encode_decode plain read
  rw [canonical.compact, compact] at canonical
  exact ⟨plain, read, canonical⟩

end Frame

end Telemux
