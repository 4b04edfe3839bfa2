import Telemux.Proofs.Reading

namespace Telemux

theorem spaced_of_skipBlank {cs text rest : List Char} (h : skipBlank cs = text ++ rest) :
    ∃ w, Spaced text w ∧ cs = w ++ rest := by
  obtain ⟨b, blank, e⟩ := exists_blank cs
  refine ⟨b ++ text, ⟨b, blank, rfl⟩, ?_⟩
  rw [e, h, List.append_assoc]

theorem eq_append_of_readWord {word cs rest : List Char} (h : readWord word cs = .ok rest) :
    cs = word ++ rest := by
  induction word generalizing cs with
  | nil =>
    cases h
    rfl
  | cons c word ih =>
    cases cs with
    | nil => cases h
    | cons d cs =>
      rw [readWord] at h
      split at h
      next e => rw [e, ih h, List.cons_append]
      next => cases h

theorem spells_of_readKey {cs rest : List Char} {k : String} (h : readKey cs = .ok (k, rest)) :
    ∃ w, SpellsKey k w ∧ cs = w ++ rest := by
  unfold readKey at h
  split at h
  next inner quote =>
    obtain ⟨⟨s, behind⟩, hs, hk⟩ := exists_of_bind h
    obtain ⟨t, q, spelled, rfl, rfl⟩ := spells_of_readString hs
    simp only at hk
    split at hk
    next behind' colon =>
      cases hk
      obtain ⟨sign, hsign, rfl⟩ : ∃ sign, Spaced [':'] sign ∧ behind = sign ++ rest :=
        spaced_of_skipBlank colon
      have whole : skipBlank cs = ('"' :: (q ++ ['"']) ++ sign) ++ rest := by
        rw [quote]
        simp
      obtain ⟨w, hw, rfl⟩ := spaced_of_skipBlank whole
      exact ⟨w, ⟨_, sign, spelled.quoted, hsign, hw⟩, rfl⟩
    next => cases hk
    next => cases hk
  next => cases h
  next => cases h

namespace Value

/-- What was read in front of `rest`: one of the ways to write a document of at most that depth. -/
def Parses (depth : Nat) (cs : List Char) (v : Value) (rest : List Char) : Prop :=
  ∃ (d : Value) (w : List Char), d.DenotedBy w ∧ d.nesting ≤ depth ∧ v = d.merge ∧ cs = w ++ rest

def Faithful (depth : Nat) (read : Reader Value) : Prop :=
  ∀ cs v rest, read cs = .ok (v, rest) → Parses depth cs v rest

/-- The same for a reader that begins behind an opening bracket. -/
def FaithfulBehind (bracket : Char) (depth : Nat) (read : Reader Value) : Prop :=
  ∀ cs v rest, read cs = .ok (v, rest) →
    ∃ (d : Value) (t : List Char), (∀ w, Spaced (bracket :: t) w → d.DenotedBy w) ∧ d.nesting ≤ depth ∧
      v = d.merge ∧ cs = t ++ rest

section Readers

variable {inArray inObject : Reader Value} {fuel depth : Nat}

/-- Null and the truth values are words; `c` is the first letter. -/
theorem parses_word {d v : Value} {c : Char} {word cs ds rest : List Char}
    (scalar : d.merge = d ∧ d.nesting = 0) (spells : ∀ w, Spaced (c :: word) w → d.DenotedBy w)
    (front : skipBlank cs = c :: ds) (h : (readWord word ds >>= fun r => .ok (d, r)) = .ok (v, rest)) :
    Parses depth cs v rest := by
  obtain ⟨r, hr, hv⟩ := exists_of_bind h
  cases hv
  have text : skipBlank cs = (c :: word) ++ rest := by
    rw [front, eq_append_of_readWord hr, List.cons_append]
  obtain ⟨w, hw, rfl⟩ := spaced_of_skipBlank text
  exact ⟨d, w, spells w hw, scalar.2 ▸ depth.zero_le, scalar.1.symm, rfl⟩

theorem parses_number (negative : Bool) {cs ds rest : List Char} {v : Value}
    (front : skipBlank cs = minus negative ++ ds) (h : readNumber negative ds = .ok (v, rest)) :
    Parses depth cs v rest := by
  obtain ⟨n, u, unsigned, rfl, rfl⟩ := spells_of_readNumber h
  rw [← List.append_assoc] at front
  obtain ⟨w, spaced, rfl⟩ := spaced_of_skipBlank front
  have number : n.DenotedBy (minus negative ++ u) :=
    Number.denotedBy_iff.mpr ⟨negative, u, unsigned, rfl⟩
  exact ⟨.number n, w, ⟨_, number, spaced⟩, depth.zero_le, rfl, rfl⟩

theorem parses_bracket {bracket : Char} {read : Reader Value} (inner : FaithfulBehind bracket depth read)
    {cs ds rest : List Char} {v : Value} (front : skipBlank cs = bracket :: ds)
    (h : read ds = .ok (v, rest)) : Parses depth cs v rest := by
  obtain ⟨d, t, spells, deep, rfl, rfl⟩ := inner ds v rest h
  obtain ⟨w, hw, rfl⟩ : ∃ w, Spaced (bracket :: t) w ∧ cs = w ++ rest := spaced_of_skipBlank front
  exact ⟨d, w, spells w hw, deep, rfl, rfl⟩

theorem faithful_readWith (array : FaithfulBehind '[' depth inArray)
    (object : FaithfulBehind '{' depth inObject) : Faithful depth (readWith inArray inObject) := by
  intro cs v rest h
  unfold readWith at h
  split at h
  next => cases h
  next ds front => exact parses_word (d := .null) ⟨rfl, rfl⟩ (fun _ hw => hw) front h
  next ds front => exact parses_word (d := .bool true) ⟨rfl, rfl⟩ (fun _ hw => hw) front h
  next ds front => exact parses_word (d := .bool false) ⟨rfl, rfl⟩ (fun _ hw => hw) front h
  next ds front =>
    obtain ⟨⟨s, behind⟩, hs, hv⟩ := exists_of_bind h
    cases hv
    obtain ⟨t, q, spelled, rfl, rfl⟩ := spells_of_readString hs
    have text : skipBlank cs = '"' :: (q ++ ['"']) ++ rest := by
      rw [front]
      simp
    obtain ⟨w, hw, rfl⟩ := spaced_of_skipBlank text
    exact ⟨.string (String.ofList s), w, ⟨_, spelled.quoted, hw⟩, depth.zero_le, rfl, rfl⟩
  next ds front => exact parses_bracket array front h
  next ds front => exact parses_bracket object front h
  next ds front => exact parses_number true front h
  next c ds _ _ _ _ _ _ _ front =>
    split at h
    next => exact parses_number false front h
    next => cases h

theorem readItems_sound {read : Reader Value} (inner : Faithful depth read) :
    ∀ (n : Nat) (acc : List Value) (cs : List Char) (v : Value) (rest : List Char),
      readItems read acc n cs = .ok (v, rest) →
      ∃ x xs u t, x.DenotedBy u ∧ ItemsDenotedBy xs t ∧ max x.nesting (nestingItems xs) ≤ depth ∧
        v = .array (acc.reverse ++ mergeItems (x :: xs)) ∧ cs = u ++ (t ++ rest) := by
  intro n
  induction n with
  | zero => exact nofun
  | succ n ih =>
    intro acc cs v rest h
    rw [readItems] at h
    obtain ⟨⟨first, behind⟩, hr, hb⟩ := exists_of_bind h
    obtain ⟨x, u, hu, deep, rfl, rfl⟩ := inner cs first behind hr
    simp only at hb
    split at hb
    next ds comma =>
      obtain ⟨y, ys, u', t, hu', ht, deep', rfl, rfl⟩ := ih (x.merge :: acc) ds v rest hb
      have text : skipBlank behind = (',' :: (u' ++ t)) ++ rest := by
        rw [comma]
        simp
      obtain ⟨w, hw, rfl⟩ := spaced_of_skipBlank text
      refine ⟨x, y :: ys, u, w, hu, ⟨u', t, hu', ht, hw⟩, ?_, ?_, rfl⟩
      · exact Nat.max_le.mpr ⟨deep, deep'⟩
      · simp [mergeItems]
    next ds close =>
      cases hb
      obtain ⟨w, hw, rfl⟩ : ∃ w, Spaced [']'] w ∧ behind = w ++ rest := spaced_of_skipBlank close
      refine ⟨x, [], u, w, hu, hw, ?_, ?_, rfl⟩
      · exact Nat.max_le.mpr ⟨deep, depth.zero_le⟩
      · simp [mergeItems]
    next => cases hb
    next => cases hb

theorem readFields_sound {read : Reader Value} (inner : Faithful depth read) :
    ∀ (n : Nat) (acc : Fields) (cs : List Char) (v : Value) (rest : List Char),
      readFields read acc n cs = .ok (v, rest) →
      ∃ k x fs q u t, SpellsKey k q ∧ x.DenotedBy u ∧ FieldsDenotedBy fs t ∧
        max x.nesting (nestingFields fs) ≤ depth ∧ v = .object (mergeFields acc ((k, x) :: fs)) ∧
        cs = q ++ (u ++ (t ++ rest)) := by
  intro n
  induction n with
  | zero => exact nofun
  | succ n ih =>
    intro acc cs v rest h
    rw [readFields] at h
    obtain ⟨⟨k, colon⟩, hk, hc⟩ := exists_of_bind h
    obtain ⟨q, hq, rfl⟩ := spells_of_readKey hk
    obtain ⟨⟨first, behind⟩, hr, hb⟩ := exists_of_bind hc
    obtain ⟨x, u, hu, deep, rfl, rfl⟩ := inner colon first behind hr
    simp only at hb
    split at hb
    next ds comma =>
      obtain ⟨l, y, fs, q', u', t, hq', hu', ht, deep', rfl, rfl⟩ := ih (acc.put k x.merge) ds v rest hb
      have text : skipBlank behind = (',' :: (q' ++ (u' ++ t))) ++ rest := by
        rw [comma]
        simp
      obtain ⟨w, hw, rfl⟩ := spaced_of_skipBlank text
      refine ⟨k, x, (l, y) :: fs, q, u, w, hq, hu, ⟨q', u', t, hq', hu', ht, hw⟩, ?_, rfl, rfl⟩
      exact Nat.max_le.mpr ⟨deep, deep'⟩
    next ds close =>
      cases hb
      obtain ⟨w, hw, rfl⟩ : ∃ w, Spaced ['}'] w ∧ behind = w ++ rest := spaced_of_skipBlank close
      refine ⟨k, x, [], q, u, w, hq, hu, hw, ?_, rfl, rfl⟩
      exact Nat.max_le.mpr ⟨deep, depth.zero_le⟩
    next => cases hb
    next => cases hb

theorem readItems_skipBlank (acc : List Value) (n : Nat) (cs : List Char) :
    readItems (readValue fuel depth) acc n (skipBlank cs) = readItems (readValue fuel depth) acc n cs := by
  cases n <;> simp only [readItems, readValue_skipBlank]

theorem readFields_skipBlank {read : Reader Value} (acc : Fields) (n : Nat) (cs : List Char) :
    readFields read acc n (skipBlank cs) = readFields read acc n cs := by
  cases n <;> simp only [readFields, readKey_skipBlank]

theorem faithful_readArray (inner : Faithful depth (readValue fuel depth)) :
    FaithfulBehind '[' (depth + 1) (readArray (readValue fuel depth) fuel) := by
  intro cs v rest h
  unfold readArray at h
  split at h
  next ds close =>
    cases h
    obtain ⟨t, ht, rfl⟩ : ∃ t, Spaced [']'] t ∧ cs = t ++ rest := spaced_of_skipBlank close
    exact ⟨.array [], t, fun w hw => ⟨t, ht, hw⟩, Nat.succ_le_succ depth.zero_le, rfl, rfl⟩
  next =>
    rw [readItems_skipBlank] at h
    obtain ⟨x, xs, u, t, hu, ht, deep, rfl, rfl⟩ := readItems_sound inner fuel [] cs v rest h
    exact ⟨.array (x :: xs), u ++ t, fun w hw => ⟨u, t, hu, ht, hw⟩, Nat.succ_le_succ deep, rfl,
      (List.append_assoc _ _ _).symm⟩

theorem faithful_readObject (inner : Faithful depth (readValue fuel depth)) :
    FaithfulBehind '{' (depth + 1) (readObject (readValue fuel depth) fuel) := by
  intro cs v rest h
  unfold readObject at h
  split at h
  next ds close =>
    cases h
    obtain ⟨t, ht, rfl⟩ : ∃ t, Spaced ['}'] t ∧ cs = t ++ rest := spaced_of_skipBlank close
    exact ⟨.object [], t, fun w hw => ⟨t, ht, hw⟩, Nat.succ_le_succ depth.zero_le, rfl, rfl⟩
  next =>
    rw [readFields_skipBlank] at h
    obtain ⟨k, x, fs, q, u, t, hq, hu, ht, deep, rfl, rfl⟩ := readFields_sound inner fuel [] cs v rest h
    exact ⟨.object ((k, x) :: fs), q ++ (u ++ t), fun w hw => ⟨q, u, t, hq, hu, ht, hw⟩,
      Nat.succ_le_succ deep, rfl, by simp⟩

end Readers

/-- Whatever is read is written there. The induction is on the depth. -/
theorem faithful_readValue (fuel depth : Nat) : Faithful depth (readValue fuel depth) := by
  induction depth with
  | zero => exact faithful_readWith nofun nofun
  | succ depth ih => exact faithful_readWith (faithful_readArray ih) (faithful_readObject ih)

theorem denoted_of_ofChars {cs : List Char} {v : Value} (h : ofChars cs = .ok v) :
    ∃ d : Value, d.DenotedByText cs ∧ d.nesting ≤ maxNesting ∧ v = d.merge := by
  unfold ofChars at h
  obtain ⟨⟨first, behind⟩, hr, hb⟩ := exists_of_bind h
  obtain ⟨d, w, hw, deep, rfl, rfl⟩ := faithful_readValue _ maxNesting cs first behind hr
  simp only at hb
  split at hb
  next nothing =>
    cases hb
    obtain ⟨b, blank, e⟩ := exists_blank behind
    rw [nothing, List.append_nil] at e
    exact ⟨d, ⟨w, behind, hw, e ▸ blank, rfl⟩, deep, rfl⟩
  next => cases hb

end Value

theorem PlainNumbers.separator {c : Char} {cs : List Char} (h : PlainNumbers (c :: cs))
    (hc : isSeparator c = true) : PlainNumbers cs := by
  unfold PlainNumbers at h ⊢
  rw [numerals_separator hc] at h
  exact h

theorem PlainNumbers.word {word cs : List Char} (h : PlainNumbers (word ++ cs))
    (hw : word.all isSeparator = true) : PlainNumbers cs := by
  unfold PlainNumbers at h ⊢
  rw [numerals_append (List.all_eq_true.mp hw)] at h
  exact h

theorem PlainNumbers.string {s w cs : List Char} (h : PlainNumbers ('"' :: (w ++ '"' :: cs)))
    (hs : SpellsString s w) : PlainNumbers cs := by
  unfold PlainNumbers at h ⊢
  rw [numerals_quote, numerals_string hs] at h
  exact h

theorem PlainNumbers.spaced {text w rest : List Char} (h : PlainNumbers (w ++ rest)) (hw : Spaced text w) :
    PlainNumbers (text ++ rest) := by
  obtain ⟨b, blank, rfl⟩ := hw
  unfold PlainNumbers at h ⊢
  rw [List.append_assoc, numerals_blank blank] at h
  exact h

/-- What stands behind a bracket or a comma. -/
theorem PlainNumbers.behind {c : Char} {t w rest : List Char} (h : PlainNumbers (w ++ rest))
    (hw : Spaced (c :: t) w) (hc : isSeparator c = true) : PlainNumbers (t ++ rest) :=
  PlainNumbers.separator (h.spaced hw) hc

theorem PlainNumbers.quoted {s : String} {q w rest : List Char} (h : PlainNumbers (w ++ rest))
    (hq : SpellsQuoted s q) (hw : Spaced q w) : PlainNumbers rest := by
  obtain ⟨inner, spelled, rfl⟩ := hq
  have front : PlainNumbers ('"' :: (inner ++ '"' :: rest)) := by simpa using h.spaced hw
  exact front.string spelled

theorem PlainNumbers.key {k : String} {w rest : List Char} (h : PlainNumbers (w ++ rest))
    (hk : SpellsKey k w) : PlainNumbers rest := by
  obtain ⟨q, colon, hq, hc, hw⟩ := hk
  have front : PlainNumbers (q ++ (colon ++ rest)) := by simpa using h.spaced hw
  exact (front.quoted hq (.self q)).behind hc rfl

namespace Value

/-- A number in a text with plain numbers is a whole one. -/
theorem spells_of_number {n : Number} {t w rest : List Char} (number : n.DenotedBy t) (hw : Spaced t w)
    (plain : PlainNumbers (w ++ rest)) (ends : EndsNumeral rest) :
    (Value.number n).Spells w ∧ PlainNumbers rest := by
  obtain ⟨c, cs, rfl, start⟩ := number.front
  obtain ⟨m, rest', whole, text, ends', after⟩ := (plain.spaced hw).front start
  -- Both numbers stand at the front of one text, of which one number is read.
  have read : readWith (readValue 0 0) (readValue 0 0) (c :: cs ++ rest) = .ok (.number n, rest) :=
    readWith_number number (.self _) ends
  have plainly : readWith (readValue 0 0) (readValue 0 0) (signedDecimal m ++ rest') =
      .ok (.number (.int m), rest') := readWith_number (.int whole) (.self _) ends'
  have same : c :: cs ++ rest = signedDecimal m ++ rest' := text
  rw [same, plainly] at read
  cases read
  rw [List.append_cancel_right same] at hw
  exact ⟨⟨whole, hw⟩, after⟩

mutual

/-- In a text with plain numbers a document is written with whole ones. -/
theorem spells_of_denotedBy : (d : Value) → {w rest : List Char} → d.DenotedBy w →
    PlainNumbers (w ++ rest) → EndsNumeral rest → d.Spells w ∧ PlainNumbers rest
  | .null, _, _, h, plain, _ => ⟨h, (plain.spaced h).word rfl⟩
  | .bool true, _, _, h, plain, _ => ⟨h, (plain.spaced h).word rfl⟩
  | .bool false, _, _, h, plain, _ => ⟨h, (plain.spaced h).word rfl⟩
  | .number n, _, _, h, plain, ends => by
    obtain ⟨t, number, hw⟩ := h
    exact spells_of_number number hw plain ends
  | .string _, _, _, h, plain, _ => by
    obtain ⟨q, hq, hw⟩ := h
    exact ⟨⟨q, hq, hw⟩, plain.quoted hq hw⟩
  | .array [], _, _, h, plain, _ => by
    obtain ⟨t, ht, hw⟩ := h
    exact ⟨⟨t, ht, hw⟩, (plain.behind hw rfl).behind ht rfl⟩
  | .array (x :: xs), _, rest, h, plain, _ => by
    obtain ⟨u, t, hu, ht, hw⟩ := h
    have inside := plain.behind hw rfl
    rw [List.append_assoc] at inside
    obtain ⟨first, after⟩ := spells_of_denotedBy x hu inside (ends_items ht rest)
    obtain ⟨items, last⟩ := spellsItems_of_denotedBy xs ht after
    exact ⟨⟨u, t, first, items, hw⟩, last⟩
  | .object [], _, _, h, plain, _ => by
    obtain ⟨t, ht, hw⟩ := h
    exact ⟨⟨t, ht, hw⟩, (plain.behind hw rfl).behind ht rfl⟩
  | .object ((k, x) :: fs), _, rest, h, plain, _ => by
    obtain ⟨q, u, t, hq, hu, ht, hw⟩ := h
    have inside := plain.behind hw rfl
    rw [List.append_assoc, List.append_assoc] at inside
    obtain ⟨first, after⟩ := spells_of_denotedBy x hu (inside.key hq) (ends_fields ht rest)
    obtain ⟨fields, last⟩ := spellsFields_of_denotedBy fs ht after
    exact ⟨⟨q, u, t, hq, first, fields, hw⟩, last⟩

theorem spellsItems_of_denotedBy : (xs : List Value) → {t rest : List Char} → ItemsDenotedBy xs t →
    PlainNumbers (t ++ rest) → SpellsItems xs t ∧ PlainNumbers rest
  | [], _, _, h, plain => ⟨h, plain.behind h rfl⟩
  | x :: xs, _, rest, h, plain => by
    obtain ⟨u, t, hu, ht, hw⟩ := h
    have inside := plain.behind hw rfl
    rw [List.append_assoc] at inside
    obtain ⟨first, after⟩ := spells_of_denotedBy x hu inside (ends_items ht rest)
    obtain ⟨items, last⟩ := spellsItems_of_denotedBy xs ht after
    exact ⟨⟨u, t, first, items, hw⟩, last⟩

theorem spellsFields_of_denotedBy : (fs : Fields) → {t rest : List Char} → FieldsDenotedBy fs t →
    PlainNumbers (t ++ rest) → SpellsFields fs t ∧ PlainNumbers rest
  | [], _, _, h, plain => ⟨h, plain.behind h rfl⟩
  | (k, x) :: fs, _, rest, h, plain => by
    obtain ⟨q, u, t, hq, hu, ht, hw⟩ := h
    have inside := plain.behind hw rfl
    rw [List.append_assoc, List.append_assoc] at inside
    obtain ⟨first, after⟩ := spells_of_denotedBy x hu (inside.key hq) (ends_fields ht rest)
    obtain ⟨fields, last⟩ := spellsFields_of_denotedBy fs ht after
    exact ⟨⟨q, u, t, hq, first, fields, hw⟩, last⟩

end

theorem spellsText_of_ofChars {cs : List Char} {v : Value} (plain : PlainNumbers cs)
    (h : ofChars cs = .ok v) : ∃ d : Value, d.SpellsText cs ∧ d.nesting ≤ maxNesting ∧ v = d.merge := by
  obtain ⟨d, ⟨w, b, hw, blank, rfl⟩, shallow, rfl⟩ := denoted_of_ofChars h
  have spells := (d.spells_of_denotedBy hw plain blank.endsNumeral).1
  exact ⟨d, ⟨w, b, spells, blank, rfl⟩, shallow, rfl⟩

end Value

end Telemux
