import Telemux.Proofs.Spelling

namespace Telemux

/-- `w` is `text` behind any blanks. -/
def Spaced (text w : List Char) : Prop :=
  ∃ b, Blank b ∧ w = b ++ text

theorem Spaced.self (text : List Char) : Spaced text text :=
  ⟨[], nofun, rfl⟩

theorem Spaced.skipBlank {c : Char} {cs w : List Char} (h : Spaced (c :: cs) w)
    (hc : isBlank c = false) (rest : List Char) : skipBlank (w ++ rest) = c :: (cs ++ rest) := by
  obtain ⟨b, blank, rfl⟩ := h
  rw [List.append_assoc, skipBlank_append blank, List.cons_append, skipBlank_of_not hc]

theorem Spaced.ends {c : Char} {cs w : List Char} (h : Spaced (c :: cs) w)
    (hc : isNumeral c = false) (rest : List Char) : EndsNumeral (w ++ rest) := by
  obtain ⟨b, blank, rfl⟩ := h
  cases b with
  | nil => exact endsNumeral_cons hc _
  | cons d b =>
    exact endsNumeral_cons (isNumeral_of_isBlank (blank d List.mem_cons_self)) _

theorem Spaced.length_le {text w : List Char} (h : Spaced text w) : text.length ≤ w.length := by
  obtain ⟨b, -, rfl⟩ := h
  rw [List.length_append]
  omega

theorem Spaced.utf8Len_le {text w : List Char} (h : Spaced text w) :
    String.utf8Len text ≤ String.utf8Len w := by
  obtain ⟨b, -, rfl⟩ := h
  rw [String.utf8Len_append]
  omega

def SpellsKey (key : String) (w : List Char) : Prop :=
  ∃ q colon, SpellsQuoted key q ∧ Spaced [':'] colon ∧ Spaced (q ++ colon) w

theorem Fields.find?_append (fs gs : Fields) (key : String) :
    find? (fs ++ gs) key = (find? fs key).or (find? gs key) := by
  induction fs with
  | nil => rfl
  | cons f fs ih =>
    obtain ⟨k, v⟩ := f
    by_cases same : k = key
    · simp [find?, same]
    · simp [find?, same, ih]

namespace Value

mutual

/-- The ways to write a document whose numbers are whole: blanks may stand in front of every part, every
character of a string may be written in any way, and an object may repeat its keys. -/
def Spells : Value → List Char → Prop
  | .null, w => Spaced (chars .null) w
  | .bool b, w => Spaced (chars (.bool b)) w
  | .number (.int n), w => IsWhole n ∧ Spaced (signedDecimal n) w
  | .number (.double _), _ => False
  | .string s, w => ∃ q, SpellsQuoted s q ∧ Spaced q w
  | .array [], w => ∃ t, Spaced [']'] t ∧ Spaced ('[' :: t) w
  | .array (x :: xs), w => ∃ u t, Spells x u ∧ SpellsItems xs t ∧ Spaced ('[' :: (u ++ t)) w
  | .object [], w => ∃ t, Spaced ['}'] t ∧ Spaced ('{' :: t) w
  | .object ((k, x) :: fs), w =>
    ∃ q u t, SpellsKey k q ∧ Spells x u ∧ SpellsFields fs t ∧ Spaced ('{' :: (q ++ (u ++ t))) w

/-- What stands behind the first item of an array, with the closing bracket. -/
def SpellsItems : List Value → List Char → Prop
  | [], t => Spaced [']'] t
  | x :: xs, w => ∃ u t, Spells x u ∧ SpellsItems xs t ∧ Spaced (',' :: (u ++ t)) w

def SpellsFields : Fields → List Char → Prop
  | [], t => Spaced ['}'] t
  | (k, x) :: fs, w =>
    ∃ q u t, SpellsKey k q ∧ Spells x u ∧ SpellsFields fs t ∧ Spaced (',' :: (q ++ (u ++ t))) w

end

mutual

/-- The document with the repeated keys of its objects merged: the first place, the last value. -/
def merge : Value → Value
  | .array xs => .array (mergeItems xs)
  | .object fs => .object (mergeFields [] fs)
  | v => v

def mergeItems : List Value → List Value
  | [] => []
  | x :: xs => merge x :: mergeItems xs

def mergeFields (acc : Fields) : Fields → Fields
  | [] => acc
  | (k, x) :: fs => mergeFields (acc.put k (merge x)) fs

end

mutual

/-- A document that its text can give back: whole numbers only, and distinct keys in every object. -/
def Exact : Value → Prop
  | .number (.int n) => IsWhole n
  | .number (.double _) => False
  | .array xs => ExactItems xs
  | .object fs => (Fields.keys fs).Nodup ∧ ExactFields fs
  | _ => True

def ExactItems : List Value → Prop
  | [] => True
  | x :: xs => Exact x ∧ ExactItems xs

def ExactFields : Fields → Prop
  | [] => True
  | (_, x) :: fs => Exact x ∧ ExactFields fs

end

theorem find?_mergeFields (fs acc : Fields) (key : String) :
    Fields.find? (mergeFields acc fs) key =
      ((Fields.find? fs.reverse key).map merge).or (Fields.find? acc key) := by
  induction fs generalizing acc with
  | nil => rfl
  | cons f fs ih =>
    obtain ⟨k, x⟩ := f
    rw [mergeFields, ih, List.reverse_cons, Fields.find?_append]
    by_cases same : key = k
    · subst same
      rw [Fields.find?_put_self]
      cases Fields.find? fs.reverse key <;> simp [Fields.find?]
    · rw [Fields.find?_put_of_ne same]
      cases Fields.find? fs.reverse key <;> simp [Fields.find?, Ne.symm same]

theorem keys_mergeFields (fs acc : Fields) :
    Fields.keys (mergeFields acc fs) =
      Fields.keys acc ++ ((Fields.keys fs).filter (· ∉ Fields.keys acc)).eraseDups := by
  induction fs generalizing acc with
  | nil => simp [mergeFields, Fields.keys]
  | cons f fs ih =>
    obtain ⟨k, x⟩ := f
    have keys : Fields.keys ((k, x) :: fs) = k :: Fields.keys fs := rfl
    rw [mergeFields, ih, keys]
    by_cases old : k ∈ Fields.keys acc
    · rw [Fields.keys_put_of_mem old, List.filter_cons_of_neg (by simpa using old)]
    · have grown : Fields.keys (acc ++ [(k, merge x)]) = Fields.keys acc ++ [k] := by simp [Fields.keys]
      have others : (Fields.keys fs).filter (fun l => decide (l ∉ Fields.keys acc ++ [k])) =
          (Fields.keys fs).filter fun l => !l == k && decide (l ∉ Fields.keys acc) := by
        refine List.filter_congr fun l _ => ?_
        by_cases same : l = k <;> simp [same]
      rw [Fields.put_of_not_mem_keys old, grown, others, List.filter_cons_of_pos (by simpa using old),
        List.eraseDups_cons, List.filter_filter, List.append_assoc]
      rfl

/-- What is kept of the fields of an object: every key in its first place, with its last value. -/
structure Merges (written kept : Fields) : Prop where
  keys : Fields.keys kept = (Fields.keys written).eraseDups
  values : ∀ key, Fields.find? kept key = (Fields.find? written.reverse key).map merge

theorem merges_mergeFields (fs : Fields) : Merges fs (mergeFields [] fs) := by
  refine ⟨?_, ?_⟩
  · have keys := keys_mergeFields fs []
    have all : (Fields.keys fs).filter (fun k => decide (k ∉ Fields.keys [])) = Fields.keys fs :=
      List.filter_eq_self.mpr fun k _ => rfl
    rw [all] at keys
    exact keys
  · intro key
    rw [find?_mergeFields]
    exact Option.or_none

example : (Value.object [("a", .null), ("b", .bool true), ("a", .bool false)]).merge =
    .object [("a", .bool false), ("b", .bool true)] := rfl

mutual

theorem merge_of_exact : (d : Value) → d.Exact → d.merge = d
  | .null, _ | .bool _, _ | .number _, _ | .string _, _ => rfl
  | .array xs, h => congrArg Value.array (mergeItems_of_exact xs h)
  | .object fs, h => congrArg Value.object (mergeFields_of_exact fs [] h.2 h.1)

theorem mergeItems_of_exact : (xs : List Value) → ExactItems xs → mergeItems xs = xs
  | [], _ => rfl
  | x :: xs, h => congrArg₂ List.cons (merge_of_exact x h.1) (mergeItems_of_exact xs h.2)

theorem mergeFields_of_exact : (fs acc : Fields) → ExactFields fs → (Fields.keys (acc ++ fs)).Nodup →
    mergeFields acc fs = acc ++ fs
  | [], acc, _, _ => (List.append_nil acc).symm
  | (k, x) :: fs, acc, h, distinct => by
    have fresh : k ∉ Fields.keys acc := by
      intro old
      rw [Fields.keys, List.map_append, List.nodup_append] at distinct
      exact distinct.2.2 k old k List.mem_cons_self rfl
    have moved : acc ++ (k, x) :: fs = (acc ++ [(k, x)]) ++ fs := by simp
    rw [mergeFields, merge_of_exact x h.1, Fields.put_of_not_mem_keys fresh]
    rw [moved] at distinct ⊢
    exact mergeFields_of_exact fs _ h.2 distinct

end

theorem exactFields_put {acc : Fields} (h : ExactFields acc) (key : String) {v : Value}
    (hv : v.Exact) : ExactFields (acc.put key v) := by
  induction acc with
  | nil => exact ⟨hv, trivial⟩
  | cons f acc ih =>
    unfold Fields.put
    split
    next => exact ⟨hv, h.2⟩
    next => exact ⟨h.1, ih h.2⟩

mutual

theorem exact_merge : (d : Value) → {w : List Char} → d.Spells w → d.merge.Exact
  | .null, _, _ | .bool _, _, _ | .string _, _, _ => trivial
  | .number (.int _), _, h => h.1
  | .array [], _, _ => trivial
  | .array (x :: xs), _, h => by
    obtain ⟨u, t, hu, ht, -⟩ := h
    exact ⟨exact_merge x hu, exactItems_merge xs ht⟩
  | .object [], _, _ => ⟨List.nodup_nil, trivial⟩
  | .object ((k, x) :: fs), _, h => by
    obtain ⟨q, u, t, -, hu, ht, -⟩ := h
    have one : ExactFields [(k, x.merge)] := ⟨exact_merge x hu, trivial⟩
    exact exactFields_merge fs [(k, x.merge)] ht (List.pairwise_singleton _ k) one

theorem exactItems_merge : (xs : List Value) → {t : List Char} → SpellsItems xs t →
    ExactItems (mergeItems xs)
  | [], _, _ => trivial
  | x :: xs, _, h => by
    obtain ⟨u, t, hu, ht, -⟩ := h
    exact ⟨exact_merge x hu, exactItems_merge xs ht⟩

theorem exactFields_merge : (fs acc : Fields) → {t : List Char} → SpellsFields fs t →
    (Fields.keys acc).Nodup → ExactFields acc →
    (Fields.keys (mergeFields acc fs)).Nodup ∧ ExactFields (mergeFields acc fs)
  | [], _, _, _, distinct, exact => ⟨distinct, exact⟩
  | (k, x) :: fs, acc, _, h, distinct, exact => by
    obtain ⟨q, u, t, -, hu, ht, -⟩ := h
    exact exactFields_merge fs (acc.put k x.merge) ht (Fields.nodup_keys_put distinct k _)
      (exactFields_put exact k (exact_merge x hu))

end

theorem nestingFields_put (acc : Fields) (key : String) (v : Value) :
    nestingFields (acc.put key v) ≤ max (nestingFields acc) v.nesting := by
  induction acc with
  | nil => simp [Fields.put, nestingFields]
  | cons f acc ih =>
    unfold Fields.put
    split
    next =>
      simp only [nestingFields]
      omega
    next =>
      simp only [nestingFields]
      omega

mutual

/-- Merging repeated keys makes no document deeper. -/
theorem nesting_merge : (d : Value) → d.merge.nesting ≤ d.nesting
  | .null | .bool _ | .number _ | .string _ => Nat.le_refl 0
  | .array xs => Nat.succ_le_succ (nestingItems_merge xs)
  | .object fs => by
    have merged := nestingFields_merge fs []
    simp only [merge, nesting, nestingFields] at merged ⊢
    omega

theorem nestingItems_merge : (xs : List Value) → nestingItems (mergeItems xs) ≤ nestingItems xs
  | [] => Nat.le_refl 0
  | x :: xs => by
    have first := nesting_merge x
    have rest := nestingItems_merge xs
    simp only [mergeItems, nestingItems]
    omega

theorem nestingFields_merge : (fs acc : Fields) →
    nestingFields (mergeFields acc fs) ≤ max (nestingFields acc) (nestingFields fs)
  | [], _ => Nat.le_max_left _ _
  | (k, x) :: fs, acc => by
    have first := nesting_merge x
    have rest := nestingFields_merge fs (acc.put k x.merge)
    have one := nestingFields_put acc k x.merge
    simp only [mergeFields, nestingFields]
    omega

end

/-- The compact text behind the first item of an array. -/
def itemsTail : List Value → List Char
  | [] => [']']
  | x :: xs => ',' :: (chars x ++ itemsTail xs)

def fieldsTail : Fields → List Char
  | [] => ['}']
  | (k, x) :: fs => ',' :: (quoted k ++ ':' :: (chars x ++ fieldsTail fs))

theorem itemsChars_cons (x : Value) (xs : List Value) :
    itemsChars (x :: xs) ++ [']'] = chars x ++ itemsTail xs := by
  induction xs generalizing x with
  | nil => rfl
  | cons y ys ih =>
    have step : itemsChars (x :: y :: ys) = chars x ++ ',' :: itemsChars (y :: ys) := rfl
    rw [step, List.append_assoc, List.cons_append, ih y, itemsTail]

theorem fieldsChars_cons (k : String) (x : Value) (fs : Fields) :
    fieldsChars ((k, x) :: fs) ++ ['}'] = quoted k ++ ':' :: (chars x ++ fieldsTail fs) := by
  induction fs generalizing k x with
  | nil =>
    have step : fieldsChars [(k, x)] = quoted k ++ ':' :: chars x := rfl
    rw [step, List.append_assoc, List.cons_append, fieldsTail]
  | cons f fs ih =>
    obtain ⟨l, y⟩ := f
    have step : fieldsChars ((k, x) :: (l, y) :: fs) =
        quoted k ++ ':' :: (chars x ++ ',' :: fieldsChars ((l, y) :: fs)) := rfl
    rw [step, List.append_assoc, List.cons_append, List.append_assoc, List.cons_append, ih l y, fieldsTail]

theorem chars_array_cons (x : Value) (xs : List Value) :
    chars (.array (x :: xs)) = '[' :: (chars x ++ itemsTail xs) :=
  congrArg ('[' :: ·) (itemsChars_cons x xs)

theorem chars_object_cons (k : String) (x : Value) (fs : Fields) :
    chars (.object ((k, x) :: fs)) = '{' :: (quoted k ++ ':' :: (chars x ++ fieldsTail fs)) :=
  congrArg ('{' :: ·) (fieldsChars_cons k x fs)

theorem spellsKey_quoted (k : String) : SpellsKey k (quoted k ++ [':']) :=
  ⟨quoted k, [':'], spellsQuoted_quoted k, .self _, .self _⟩

mutual

/-- The compact text is one of the ways to write an exact document. -/
theorem spells_chars : (d : Value) → d.Exact → d.Spells d.chars
  | .null, _ => .self _
  | .bool _, _ => .self _
  | .number (.int _), h => ⟨h, .self _⟩
  | .string s, _ => ⟨quoted s, spellsQuoted_quoted s, .self _⟩
  | .array [], _ => ⟨[']'], .self _, .self _⟩
  | .array (x :: xs), h => by
    rw [chars_array_cons]
    exact ⟨_, _, spells_chars x h.1, spells_itemsTail xs h.2, .self _⟩
  | .object [], _ => ⟨['}'], .self _, .self _⟩
  | .object ((k, x) :: fs), h => by
    rw [chars_object_cons]
    refine ⟨_, _, _, spellsKey_quoted k, spells_chars x h.2.1, spells_fieldsTail fs h.2.2, ?_⟩
    rw [List.append_assoc]
    exact .self _

theorem spells_itemsTail : (xs : List Value) → ExactItems xs → SpellsItems xs (itemsTail xs)
  | [], _ => .self _
  | x :: xs, h => ⟨_, _, spells_chars x h.1, spells_itemsTail xs h.2, .self _⟩

theorem spells_fieldsTail : (fs : Fields) → ExactFields fs → SpellsFields fs (fieldsTail fs)
  | [], _ => .self _
  | (k, x) :: fs, h => by
    refine ⟨_, _, _, spellsKey_quoted k, spells_chars x h.1, spells_fieldsTail fs h.2, ?_⟩
    rw [List.append_assoc]
    exact .self _

end

open String (utf8Len)

theorem utf8Len_itemsTail_cons (x : Value) (xs : List Value) :
    utf8Len (itemsTail (x :: xs)) = utf8Len x.chars + utf8Len (itemsTail xs) + 1 :=
  congrArg (· + 1) (String.utf8Len_append _ _)

theorem utf8Len_fieldsTail_cons (k : String) (x : Value) (fs : Fields) :
    utf8Len (fieldsTail ((k, x) :: fs)) =
      utf8Len (quoted k) + utf8Len x.chars + utf8Len (fieldsTail fs) + 2 := by
  have comma : ∀ cs, utf8Len (',' :: cs) = utf8Len cs + 1 := fun _ => rfl
  have colon : ∀ cs, utf8Len (':' :: cs) = utf8Len cs + 1 := fun _ => rfl
  rw [fieldsTail, comma, String.utf8Len_append, colon, String.utf8Len_append]
  omega

theorem utf8Len_fieldsTail_put (acc : Fields) (key : String) (v : Value) :
    utf8Len (fieldsTail (acc.put key v)) ≤
      utf8Len (fieldsTail acc) + utf8Len (quoted key) + utf8Len v.chars + 2 := by
  induction acc with
  | nil =>
    rw [Fields.put, utf8Len_fieldsTail_cons]
    omega
  | cons f acc ih =>
    unfold Fields.put
    split
    next same =>
      rw [utf8Len_fieldsTail_cons, utf8Len_fieldsTail_cons, same]
      omega
    next =>
      rw [utf8Len_fieldsTail_cons, utf8Len_fieldsTail_cons]
      omega

theorem utf8Len_key_le {k : String} {w : List Char} (h : SpellsKey k w) :
    utf8Len (quoted k) + 1 ≤ utf8Len w := by
  obtain ⟨q, colon, hq, hc, hw⟩ := h
  have key := utf8Len_quoted_le hq
  have sign : 1 ≤ utf8Len colon := hc.utf8Len_le
  have whole := hw.utf8Len_le
  rw [String.utf8Len_append] at whole
  omega

theorem utf8Len_object_le (fs : Fields) :
    utf8Len (chars (.object fs)) ≤ max 2 (utf8Len (fieldsTail fs)) := by
  cases fs with
  | nil => decide
  | cons f fs =>
    rw [chars_object_cons]
    exact Nat.le_max_right 2 _

mutual

/-- No way to write a document is shorter than its compact text with the repeated keys merged. -/
theorem utf8Len_merge_le : (d : Value) → {w : List Char} → d.Spells w →
    utf8Len d.merge.chars ≤ utf8Len w
  | .null, _, h | .bool _, _, h => h.utf8Len_le
  | .number (.int _), _, h => h.2.utf8Len_le
  | .string _, _, h => by
    obtain ⟨q, hq, hw⟩ := h
    exact (utf8Len_quoted_le hq).trans hw.utf8Len_le
  | .array [], w, h => by
    obtain ⟨t, ht, hw⟩ := h
    have close : 1 ≤ utf8Len t := ht.utf8Len_le
    have whole : utf8Len t + 1 ≤ utf8Len w := hw.utf8Len_le
    have two : utf8Len (chars (.array [])) = 2 := rfl
    exact two.trans_le (by omega)
  | .array (x :: xs), w, h => by
    obtain ⟨u, t, hu, ht, hw⟩ := h
    have first := utf8Len_merge_le x hu
    have rest := utf8Len_mergeItems_le xs ht
    have whole : utf8Len (u ++ t) + 1 ≤ utf8Len w := hw.utf8Len_le
    have compact : utf8Len (chars (.array (x.merge :: mergeItems xs))) =
        utf8Len (x.merge.chars ++ itemsTail (mergeItems xs)) + 1 := by
      rw [chars_array_cons]
      rfl
    rw [String.utf8Len_append] at whole compact
    exact compact.trans_le (by omega)
  | .object [], w, h => by
    obtain ⟨t, ht, hw⟩ := h
    have close : 1 ≤ utf8Len t := ht.utf8Len_le
    have whole : utf8Len t + 1 ≤ utf8Len w := hw.utf8Len_le
    have two : utf8Len (chars (.object [])) = 2 := rfl
    exact two.trans_le (by omega)
  | .object ((k, x) :: fs), w, h => by
    obtain ⟨q, u, t, hq, hu, ht, hw⟩ := h
    have key := utf8Len_key_le hq
    have first := utf8Len_merge_le x hu
    have rest := utf8Len_mergeFields_le fs [(k, x.merge)] ht
    have whole : utf8Len (q ++ (u ++ t)) + 1 ≤ utf8Len w := hw.utf8Len_le
    have close : utf8Len (fieldsTail []) = 1 := rfl
    have compact := utf8Len_object_le (mergeFields [(k, x.merge)] fs)
    rw [utf8Len_fieldsTail_cons, close] at rest
    rw [String.utf8Len_append, String.utf8Len_append] at whole
    exact compact.trans (by omega)

theorem utf8Len_mergeItems_le : (xs : List Value) → {t : List Char} → SpellsItems xs t →
    utf8Len (itemsTail (mergeItems xs)) ≤ utf8Len t
  | [], _, h => h.utf8Len_le
  | x :: xs, w, h => by
    obtain ⟨u, t, hu, ht, hw⟩ := h
    have first := utf8Len_merge_le x hu
    have rest := utf8Len_mergeItems_le xs ht
    have whole : utf8Len (u ++ t) + 1 ≤ utf8Len w := hw.utf8Len_le
    rw [String.utf8Len_append] at whole
    rw [mergeItems, utf8Len_itemsTail_cons]
    omega

-- Every field costs at most its own text, whether it is new or takes an old place, and the closing
-- brace of `acc` stands for the one in the text.
theorem utf8Len_mergeFields_le : (fs acc : Fields) → {t : List Char} → SpellsFields fs t →
    utf8Len (fieldsTail (mergeFields acc fs)) + 1 ≤ utf8Len (fieldsTail acc) + utf8Len t
  | [], acc, _, h => Nat.add_le_add_left h.utf8Len_le _
  | (k, x) :: fs, acc, w, h => by
    obtain ⟨q, u, t, hq, hu, ht, hw⟩ := h
    have key := utf8Len_key_le hq
    have first := utf8Len_merge_le x hu
    have rest := utf8Len_mergeFields_le fs (acc.put k x.merge) ht
    have one := utf8Len_fieldsTail_put acc k x.merge
    have whole : utf8Len (q ++ (u ++ t)) + 1 ≤ utf8Len w := hw.utf8Len_le
    rw [String.utf8Len_append, String.utf8Len_append] at whole
    rw [mergeFields]
    omega

end

end Value

end Telemux
