import Telemux.Proofs.Grammar

namespace Telemux

theorem readWord_append (word rest : List Char) : readWord word (word ++ rest) = .ok rest := by
  induction word with
  | nil => rfl
  | cons c word ih => simp [readWord, ih]

theorem readKey_spelled {k : String} {w : List Char} (h : SpellsKey k w) (rest : List Char) :
    readKey (w ++ rest) = .ok (k, rest) := by
  obtain ⟨q, colon, ⟨inner, hs, rfl⟩, hc, hw⟩ := h
  have front : skipBlank (w ++ rest) = '"' :: (inner ++ '"' :: (colon ++ rest)) := by
    simpa using hw.skipBlank rfl rest
  unfold readKey
  rw [front]
  simp only [bind, Except.bind, readString_spelled hs]
  rw [hc.skipBlank rfl]
  simp [String.ofList_toList]

namespace Value

variable {inArray inObject : Reader Value} {w : List Char}

theorem readWith_null (h : Spaced (chars .null) w) (rest : List Char) :
    readWith inArray inObject (w ++ rest) = .ok (.null, rest) := by
  unfold readWith
  rw [h.skipBlank rfl]
  simp only [readWord_append, bind, Except.bind]

theorem readWith_bool {b : Bool} (h : Spaced (chars (.bool b)) w) (rest : List Char) :
    readWith inArray inObject (w ++ rest) = .ok (.bool b, rest) := by
  unfold readWith
  cases b with
  | true =>
    rw [h.skipBlank rfl]
    simp only [readWord_append, bind, Except.bind]
  | false =>
    rw [h.skipBlank rfl]
    simp only [readWord_append, bind, Except.bind]

theorem readWith_string {s : String} {q : List Char} (hq : SpellsQuoted s q) (hw : Spaced q w)
    (rest : List Char) : readWith inArray inObject (w ++ rest) = .ok (.string s, rest) := by
  obtain ⟨inner, hs, rfl⟩ := hq
  have front : skipBlank (w ++ rest) = '"' :: (inner ++ '"' :: rest) := by
    simpa using hw.skipBlank rfl rest
  unfold readWith
  rw [front]
  simp [bind, Except.bind, readString_spelled hs, String.ofList_toList]

theorem readWith_digit {c : Char} (digit : c.isDigit = true) {cs : List Char} (h : Spaced (c :: cs) w)
    (rest : List Char) :
    readWith inArray inObject (w ++ rest) = readNumber false (c :: (cs ++ rest)) := by
  have front := h.skipBlank (isBlank_of_isDigit digit) rest
  have other : ∀ d : Char, d.isDigit = false → c ≠ d := by
    rintro d hd rfl
    rw [digit] at hd
    cases hd
  simp [readWith, front, digit, other 'n' rfl, other 't' rfl, other 'f' rfl, other '"' rfl, other '[' rfl,
    other '\x7b' rfl, other '-' rfl]

theorem readWith_number {n : Number} {t : List Char} (h : n.DenotedBy t) (hw : Spaced t w)
    {rest : List Char} (ends : EndsNumeral rest) :
    readWith inArray inObject (w ++ rest) = .ok (.number n, rest) := by
  obtain ⟨negative, u, unsigned, rfl⟩ := Number.denotedBy_iff.mp h
  have number := readNumber_spelled unsigned ends
  cases negative with
  | true =>
    unfold readWith
    rw [hw.skipBlank rfl]
    exact number
  | false =>
    obtain ⟨c, cs, rfl, digit⟩ := unsigned.front
    rw [readWith_digit digit hw]
    exact number

theorem readWith_array {t : List Char} (h : Spaced ('[' :: t) w) (rest : List Char) :
    readWith inArray inObject (w ++ rest) = inArray (t ++ rest) := by
  unfold readWith
  rw [h.skipBlank rfl]
  rfl

theorem readWith_object {t : List Char} (h : Spaced ('{' :: t) w) (rest : List Char) :
    readWith inArray inObject (w ++ rest) = inObject (t ++ rest) := by
  unfold readWith
  rw [h.skipBlank rfl]
  rfl

theorem readValue_scalar {v : Value} {rest : List Char}
    (h : ∀ inArray inObject, readWith inArray inObject (w ++ rest) = .ok (v, rest)) (fuel depth : Nat) :
    readValue fuel depth (w ++ rest) = .ok (v, rest) := by
  cases depth with
  | zero => exact h _ _
  | succ depth => exact h _ _

theorem skipBlank_skipBlank (cs : List Char) : skipBlank (skipBlank cs) = skipBlank cs := by
  obtain ⟨b, blank, e⟩ := exists_blank cs
  have once := skipBlank_append blank (skipBlank cs)
  rw [← e] at once
  exact once.symm

theorem readValue_skipBlank (fuel depth : Nat) (cs : List Char) :
    readValue fuel depth (skipBlank cs) = readValue fuel depth cs := by
  cases depth <;> simp only [readValue, readWith, skipBlank_skipBlank]

theorem readKey_skipBlank (cs : List Char) : readKey (skipBlank cs) = readKey cs := by
  simp only [readKey, skipBlank_skipBlank]

/-- A document never begins like the end of an array. -/
theorem denoted_front {d : Value} {u : List Char} (h : d.DenotedBy u) :
    ∃ c cs, Spaced (c :: cs) u ∧ isBlank c = false ∧ c ≠ ']' := by
  cases d with
  | null => exact ⟨_, _, h, rfl, by decide⟩
  | bool b => cases b <;> exact ⟨_, _, h, rfl, by decide⟩
  | number n =>
    obtain ⟨t, number, hw⟩ := h
    obtain ⟨c, cs, rfl, start⟩ := number.front
    refine ⟨c, cs, hw, ?_, ?_⟩
    · rw [← Bool.not_eq_true]
      intro blank
      have numeral := isNumeral_of_starts start
      rw [isNumeral_of_isBlank blank] at numeral
      cases numeral
    · rintro rfl
      cases start
  | string s =>
    obtain ⟨q, ⟨inner, -, rfl⟩, hw⟩ := h
    exact ⟨_, _, hw, rfl, by decide⟩
  | array xs =>
    cases xs with
    | nil =>
      obtain ⟨t, -, hw⟩ := h
      exact ⟨_, _, hw, rfl, by decide⟩
    | cons x xs =>
      obtain ⟨v, t, -, -, hw⟩ := h
      exact ⟨_, _, hw, rfl, by decide⟩
  | object fs =>
    cases fs with
    | nil =>
      obtain ⟨t, -, hw⟩ := h
      exact ⟨_, _, hw, rfl, by decide⟩
    | cons f fs =>
      obtain ⟨q, v, t, -, -, -, hw⟩ := h
      exact ⟨_, _, hw, rfl, by decide⟩

section Loops

variable {read : Reader Value} {acc : List Value} {fields : Fields} {n fuel : Nat} {v : Value}
  {cs t u rest : List Char} {e : ReadError}

theorem readArray_empty (h : Spaced [']'] t) : readArray read fuel (t ++ rest) = .ok (.array [], rest) := by
  unfold readArray
  rw [h.skipBlank rfl]
  rfl

theorem readArray_item {d : Value} (h : d.DenotedBy u) :
    readArray read fuel (u ++ rest) = readItems read [] fuel (skipBlank (u ++ rest)) := by
  obtain ⟨c, cs, front, visible, other⟩ := denoted_front h
  unfold readArray
  rw [front.skipBlank visible]
  split
  next e => exact absurd (List.cons.inj e).1 other
  next => rfl

theorem readItems_comma (h : read cs = .ok (v, t ++ rest)) (ht : Spaced (',' :: u) t) :
    readItems read acc (n + 1) cs = readItems read (v :: acc) n (u ++ rest) := by
  rw [readItems]
  simp only [h, bind, Except.bind]
  rw [ht.skipBlank rfl]
  rfl

theorem readItems_close (h : read cs = .ok (v, t ++ rest)) (ht : Spaced [']'] t) :
    readItems read acc (n + 1) cs = .ok (.array (acc.reverse ++ [v]), rest) := by
  rw [readItems]
  simp only [h, bind, Except.bind]
  rw [ht.skipBlank rfl, List.reverse_cons]
  rfl

theorem readItems_error (h : read cs = .error e) : readItems read acc (n + 1) cs = .error e := by
  rw [readItems]
  simp only [h, bind, Except.bind]

theorem readObject_empty (h : Spaced ['}'] t) :
    readObject read fuel (t ++ rest) = .ok (.object [], rest) := by
  unfold readObject
  rw [h.skipBlank rfl]
  rfl

theorem readObject_field {k : String} (h : SpellsKey k u) :
    readObject read fuel (u ++ rest) = readFields read [] fuel (skipBlank (u ++ rest)) := by
  obtain ⟨q, colon, ⟨inner, -, rfl⟩, -, front⟩ := h
  unfold readObject
  rw [front.skipBlank rfl]
  rfl

theorem readFields_comma {k : String} {ds : List Char} (hk : readKey cs = .ok (k, ds))
    (h : read ds = .ok (v, t ++ rest)) (ht : Spaced (',' :: u) t) :
    readFields read fields (n + 1) cs = readFields read (fields.put k v) n (u ++ rest) := by
  rw [readFields]
  simp only [hk, h, bind, Except.bind]
  rw [ht.skipBlank rfl]
  rfl

theorem readFields_close {k : String} {ds : List Char} (hk : readKey cs = .ok (k, ds))
    (h : read ds = .ok (v, t ++ rest)) (ht : Spaced ['}'] t) :
    readFields read fields (n + 1) cs = .ok (.object (fields.put k v), rest) := by
  rw [readFields]
  simp only [hk, h, bind, Except.bind]
  rw [ht.skipBlank rfl]
  rfl

theorem readFields_error {k : String} {ds : List Char} (hk : readKey cs = .ok (k, ds))
    (h : read ds = .error e) : readFields read fields (n + 1) cs = .error e := by
  rw [readFields]
  simp only [hk, h, bind, Except.bind]

end Loops

/-- What stands behind an item does not go on with a number. -/
theorem ends_items {xs : List Value} {t : List Char} (h : ItemsDenotedBy xs t) (rest : List Char) :
    EndsNumeral (t ++ rest) := by
  cases xs with
  | nil => exact Spaced.ends h rfl rest
  | cons x xs =>
    obtain ⟨u, t', -, -, hw⟩ := h
    exact hw.ends rfl rest

theorem ends_fields {fs : Fields} {t : List Char} (h : FieldsDenotedBy fs t) (rest : List Char) :
    EndsNumeral (t ++ rest) := by
  cases fs with
  | nil => exact Spaced.ends h rfl rest
  | cons f fs =>
    obtain ⟨q, u, t', -, -, -, hw⟩ := h
    exact hw.ends rfl rest

theorem length_items {xs : List Value} {t : List Char} (h : ItemsDenotedBy xs t) :
    xs.length < t.length := by
  induction xs generalizing t with
  | nil => exact h.length_le
  | cons x xs ih =>
    obtain ⟨u, t', -, ht, hw⟩ := h
    have rest := ih ht
    have whole := hw.length_le
    rw [List.length_cons, List.length_append] at whole
    rw [List.length_cons]
    omega

theorem length_fields {fs : Fields} {t : List Char} (h : FieldsDenotedBy fs t) :
    fs.length < t.length := by
  induction fs generalizing t with
  | nil => exact h.length_le
  | cons f fs ih =>
    obtain ⟨q, u, t', -, -, ht, hw⟩ := h
    have rest := ih ht
    have whole := hw.length_le
    rw [List.length_cons, List.length_append, List.length_append] at whole
    rw [List.length_cons]
    omega

mutual

/-- Every way to write a document is read as that document, its repeated keys merged, unless it is too
deep. -/
theorem readValue_denoted : (d : Value) → {w : List Char} → d.DenotedBy w → (fuel depth : Nat) →
    {rest : List Char} → w.length ≤ fuel → EndsNumeral rest →
    readValue fuel depth (w ++ rest) =
      if d.nesting ≤ depth then .ok (d.merge, rest) else .error .malformed
  | .null, _, h, fuel, depth, rest, _, _ => by
    rw [readValue_scalar fun _ _ => readWith_null h rest]
    exact (if_pos depth.zero_le).symm
  | .bool _, _, h, fuel, depth, rest, _, _ => by
    rw [readValue_scalar fun _ _ => readWith_bool h rest]
    exact (if_pos depth.zero_le).symm
  | .number _, _, h, fuel, depth, _, _, ends => by
    obtain ⟨t, number, hw⟩ := h
    rw [readValue_scalar fun _ _ => readWith_number number hw ends]
    exact (if_pos depth.zero_le).symm
  | .string _, _, h, fuel, depth, rest, _, _ => by
    obtain ⟨q, hq, hw⟩ := h
    rw [readValue_scalar fun _ _ => readWith_string hq hw rest]
    exact (if_pos depth.zero_le).symm
  | .array [], _, h, fuel, 0, rest, _, _ => by
    obtain ⟨t, -, hw⟩ := h
    exact readWith_array hw rest
  | .array [], _, h, fuel, depth + 1, rest, _, _ => by
    obtain ⟨t, ht, hw⟩ := h
    rw [readValue, readWith_array hw, readArray_empty ht]
    exact (if_pos (Nat.succ_le_succ depth.zero_le)).symm
  | .array (x :: xs), _, h, fuel, 0, rest, _, _ => by
    obtain ⟨u, t, -, -, hw⟩ := h
    exact readWith_array hw rest
  | .array (x :: xs), w, h, fuel, depth + 1, rest, long, _ => by
    obtain ⟨u, t, hu, ht, hw⟩ := h
    have size := hw.length_le
    -- Every item takes up characters, so the length of the text is fuel enough for the loop.
    have count := length_items ht
    rw [List.length_cons, List.length_append] at size
    have first := readValue_denoted x hu fuel depth (by omega) (ends_items ht rest)
    rw [← readValue_skipBlank] at first
    rw [readValue, readWith_array hw, List.append_assoc, readArray_item hu,
      readItems_denoted x xs ht (by omega) (by omega) first]
    simp only [nesting, nestingItems, Nat.add_le_add_iff_right]
    rfl
  | .object [], _, h, fuel, 0, rest, _, _ => by
    obtain ⟨t, -, hw⟩ := h
    exact readWith_object hw rest
  | .object [], _, h, fuel, depth + 1, rest, _, _ => by
    obtain ⟨t, ht, hw⟩ := h
    rw [readValue, readWith_object hw, readObject_empty ht]
    exact (if_pos (Nat.succ_le_succ depth.zero_le)).symm
  | .object ((k, x) :: fs), _, h, fuel, 0, rest, _, _ => by
    obtain ⟨q, u, t, -, -, -, hw⟩ := h
    exact readWith_object hw rest
  | .object ((k, x) :: fs), w, h, fuel, depth + 1, rest, long, _ => by
    obtain ⟨q, u, t, hq, hu, ht, hw⟩ := h
    have size := hw.length_le
    have count := length_fields ht
    rw [List.length_cons, List.length_append, List.length_append] at size
    have key : readKey (skipBlank (q ++ (u ++ (t ++ rest)))) = .ok (k, u ++ (t ++ rest)) := by
      rw [readKey_skipBlank, readKey_spelled hq]
    have first := readValue_denoted x hu fuel depth (by omega) (ends_fields ht rest)
    rw [readValue, readWith_object hw, List.append_assoc, List.append_assoc, readObject_field hq,
      readFields_denoted x fs ht (by omega) (by omega) key first]
    simp only [nesting, nestingFields, Nat.add_le_add_iff_right]
    rfl

/-- Reads the items of an array from `x` on, the others being `xs`. -/
theorem readItems_denoted : (x : Value) → (xs : List Value) → {t : List Char} → ItemsDenotedBy xs t →
    {fuel depth n : Nat} → {acc : List Value} → {cs rest : List Char} → xs.length < n →
    t.length ≤ fuel →
    readValue fuel depth cs =
      (if x.nesting ≤ depth then .ok (x.merge, t ++ rest) else .error .malformed) →
    readItems (readValue fuel depth) acc n cs =
      if max x.nesting (nestingItems xs) ≤ depth then
        .ok (.array (acc.reverse ++ mergeItems (x :: xs)), rest)
      else .error .malformed
  | x, [], _, h, _, depth, n + 1, _, _, _, _, _, first => by
    simp only [nestingItems, Nat.max_zero]
    by_cases shallow : x.nesting ≤ depth
    · rw [if_pos shallow] at first ⊢
      exact readItems_close first h
    · rw [if_neg shallow] at first ⊢
      exact readItems_error first
  | x, y :: ys, w, h, fuel, depth, n + 1, acc, cs, rest, more, long, first => by
    obtain ⟨u, t, hu, ht, hw⟩ := h
    have size := hw.length_le
    rw [List.length_cons, List.length_append] at size
    rw [List.length_cons] at more
    have next := readValue_denoted y hu fuel depth (by omega) (ends_items ht rest)
    by_cases shallow : x.nesting ≤ depth
    · rw [if_pos shallow] at first
      rw [readItems_comma first hw, List.append_assoc,
        readItems_denoted y ys ht (by omega) (by omega) next, List.reverse_cons, List.append_assoc]
      simp only [nestingItems, Nat.max_le, shallow, true_and]
      rfl
    · rw [if_neg shallow] at first
      rw [readItems_error first, if_neg fun both => shallow (Nat.max_le.mp both).1]

theorem readFields_denoted : (x : Value) → (fs : Fields) → {t : List Char} → FieldsDenotedBy fs t →
    {fuel depth n : Nat} → {acc : Fields} → {k : String} → {cs ds rest : List Char} →
    fs.length < n → t.length ≤ fuel → readKey cs = .ok (k, ds) →
    readValue fuel depth ds =
      (if x.nesting ≤ depth then .ok (x.merge, t ++ rest) else .error .malformed) →
    readFields (readValue fuel depth) acc n cs =
      if max x.nesting (nestingFields fs) ≤ depth then
        .ok (.object (mergeFields acc ((k, x) :: fs)), rest)
      else .error .malformed
  | x, [], _, h, _, depth, n + 1, _, _, _, _, _, _, _, key, first => by
    simp only [nestingFields, Nat.max_zero]
    by_cases shallow : x.nesting ≤ depth
    · rw [if_pos shallow] at first ⊢
      exact readFields_close key first h
    · rw [if_neg shallow] at first ⊢
      exact readFields_error key first
  | x, (l, y) :: fs, w, h, fuel, depth, n + 1, acc, k, cs, ds, rest, more, long, key, first => by
    obtain ⟨q, u, t, hq, hu, ht, hw⟩ := h
    have size := hw.length_le
    rw [List.length_cons, List.length_append, List.length_append] at size
    rw [List.length_cons] at more
    have name := readKey_spelled hq (u ++ (t ++ rest))
    have next := readValue_denoted y hu fuel depth (by omega) (ends_fields ht rest)
    by_cases shallow : x.nesting ≤ depth
    · rw [if_pos shallow] at first
      rw [readFields_comma key first hw, List.append_assoc, List.append_assoc,
        readFields_denoted y fs ht (by omega) (by omega) name next]
      simp only [nestingFields, Nat.max_le, shallow, true_and]
      rfl
    · rw [if_neg shallow] at first
      rw [readFields_error key first, if_neg fun both => shallow (Nat.max_le.mp both).1]

end

/-- The texts that are one document, in any of the ways to write it. -/
def DenotedByText (d : Value) (cs : List Char) : Prop :=
  ∃ w b, d.DenotedBy w ∧ Blank b ∧ cs = w ++ b

theorem ofChars_denoted {d : Value} {cs : List Char} (h : d.DenotedByText cs) :
    ofChars cs = if d.nesting ≤ maxNesting then .ok d.merge else .error .malformed := by
  obtain ⟨w, b, hw, blank, rfl⟩ := h
  have long : w.length ≤ (w ++ b).length + 1 := by
    rw [List.length_append]
    omega
  unfold ofChars
  rw [readValue_denoted d hw _ maxNesting long blank.endsNumeral]
  by_cases shallow : d.nesting ≤ maxNesting
  · rw [if_pos shallow, if_pos shallow]
    simp only [bind, Except.bind, skipBlank_blank blank]
  · rw [if_neg shallow, if_neg shallow]
    rfl

/-- The texts that are one document of whole numbers, in any of the ways to write it. -/
def SpellsText (d : Value) (cs : List Char) : Prop :=
  ∃ w b, d.Spells w ∧ Blank b ∧ cs = w ++ b

theorem ofChars_spelled {d : Value} {cs : List Char} (h : d.SpellsText cs) :
    ofChars cs = if d.nesting ≤ maxNesting then .ok d.merge else .error .malformed := by
  obtain ⟨w, b, hw, text⟩ := h
  exact ofChars_denoted ⟨w, b, d.denotedBy_of_spells hw, text⟩

end Value

end Telemux
