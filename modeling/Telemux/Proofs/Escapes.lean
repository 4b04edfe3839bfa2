import Telemux.Proofs.Segments

namespace Telemux

variable {a b c : Char} {x y : Nat} {cs rest : List Char}

theorem continuation?_tail {n : Nat} (h : n < 0x40) : continuation? (0x80 + n) = some n := by
  have low : 0x80 ≤ 0x80 + n := by omega
  have high : 0x80 + n < 0xC0 := by omega
  rw [continuation?, if_pos ⟨low, high⟩, Nat.add_sub_cancel_left]

theorem codePoint?_toNat {least : Nat} (h : least ≤ c.toNat) : codePoint? least c.toNat = some c := by
  have valid : c.toNat.isValidChar := c.valid
  rw [codePoint?, if_pos ⟨h, valid⟩, Char.ofNat_toNat]

section

-- Stated for any option: over the readers themselves the check would count up to the least code.
theorem bind_of_some {α β : Type} {o : Option α} {v : α} (h : o = some v) (f : α → Option β) :
    (o >>= f) = f v := by
  rw [h]
  rfl

variable {b b1 b2 b3 n1 n2 n3 : Nat} (bs : List Nat)

theorem utf8Chars?_one (high : b < 0x80) :
    utf8Chars? (b :: bs) = (utf8Chars? bs).map (Char.ofNat b :: ·) := by
  rw [utf8Chars?.eq_def]
  dsimp only
  rw [if_pos high]
  cases utf8Chars? bs <;> rfl

theorem utf8Chars?_two (low : 0xC0 ≤ b) (high : b < 0xE0) (h1 : continuation? b1 = some n1)
    (read : codePoint? 0x80 ((b - 0xC0) * 0x40 + n1) = some c) :
    utf8Chars? (b :: b1 :: bs) = (utf8Chars? bs).map (c :: ·) := by
  have beyond : ¬ b < 0x80 := by omega
  rw [utf8Chars?.eq_def]
  dsimp only
  rw [if_neg beyond, if_neg (Nat.not_lt_of_le low), if_pos high]
  rw [bind_of_some h1, bind_of_some read]
  cases utf8Chars? bs <;> rfl

theorem utf8Chars?_three (low : 0xE0 ≤ b) (high : b < 0xF0) (h1 : continuation? b1 = some n1)
    (h2 : continuation? b2 = some n2)
    (read : codePoint? 0x800 ((b - 0xE0) * 0x1000 + n1 * 0x40 + n2) = some c) :
    utf8Chars? (b :: b1 :: b2 :: bs) = (utf8Chars? bs).map (c :: ·) := by
  have beyond : ¬ b < 0x80 ∧ ¬ b < 0xC0 := by omega
  rw [utf8Chars?.eq_def]
  dsimp only
  rw [if_neg beyond.1, if_neg beyond.2, if_neg (Nat.not_lt_of_le low), if_pos high]
  rw [bind_of_some h1, bind_of_some h2, bind_of_some read]
  cases utf8Chars? bs <;> rfl

theorem utf8Chars?_four (low : 0xF0 ≤ b) (high : b < 0xF8) (h1 : continuation? b1 = some n1)
    (h2 : continuation? b2 = some n2) (h3 : continuation? b3 = some n3)
    (read : codePoint? 0x10000 ((b - 0xF0) * 0x40000 + n1 * 0x1000 + n2 * 0x40 + n3) = some c) :
    utf8Chars? (b :: b1 :: b2 :: b3 :: bs) = (utf8Chars? bs).map (c :: ·) := by
  have beyond : ¬ b < 0x80 ∧ ¬ b < 0xC0 ∧ ¬ b < 0xE0 := by omega
  rw [utf8Chars?.eq_def]
  dsimp only
  rw [if_neg beyond.1, if_neg beyond.2.1, if_neg beyond.2.2, if_neg (Nat.not_lt_of_le low), if_pos high]
  rw [bind_of_some h1, bind_of_some h2, bind_of_some h3, bind_of_some read]
  cases utf8Chars? bs <;> rfl

end

/-- The bytes of a character are read back as that character, whatever stands behind them. -/
theorem utf8Chars?_utf8Bytes (c : Char) (bs : List Nat) :
    utf8Chars? (utf8Bytes c ++ bs) = (utf8Chars? bs).map (c :: ·) := by
  have limit := toNat_lt c
  have tail (n : Nat) := continuation?_tail (Nat.mod_lt n (by decide : 0x40 > 0))
  dsimp only [utf8Bytes]
  split
  next one => rw [List.singleton_append, utf8Chars?_one bs one, Char.ofNat_toNat]
  next low =>
    split
    next two =>
      have read : codePoint? 0x80 ((0xC0 + c.toNat / 0x40 - 0xC0) * 0x40 + c.toNat % 0x40) = some c := by
        have whole : (0xC0 + c.toNat / 0x40 - 0xC0) * 0x40 + c.toNat % 0x40 = c.toNat := by omega
        rw [whole, codePoint?_toNat (Nat.le_of_not_lt low)]
      exact utf8Chars?_two bs (by omega) (by omega) (tail _) read
    next low =>
      split
      next three =>
        have read : codePoint? 0x800 ((0xE0 + c.toNat / 0x1000 - 0xE0) * 0x1000 +
            c.toNat / 0x40 % 0x40 * 0x40 + c.toNat % 0x40) = some c := by
          have whole : (0xE0 + c.toNat / 0x1000 - 0xE0) * 0x1000 + c.toNat / 0x40 % 0x40 * 0x40 +
              c.toNat % 0x40 = c.toNat := by omega
          rw [whole, codePoint?_toNat (Nat.le_of_not_lt low)]
        exact utf8Chars?_three bs (by omega) (by omega) (tail _) (tail _) read
      next low =>
        have read : codePoint? 0x10000 ((0xF0 + c.toNat / 0x40000 - 0xF0) * 0x40000 +
            c.toNat / 0x1000 % 0x40 * 0x1000 + c.toNat / 0x40 % 0x40 * 0x40 + c.toNat % 0x40) = some c := by
          have whole : (0xF0 + c.toNat / 0x40000 - 0xF0) * 0x40000 + c.toNat / 0x1000 % 0x40 * 0x1000 +
              c.toNat / 0x40 % 0x40 * 0x40 + c.toNat % 0x40 = c.toNat := by omega
          rw [whole, codePoint?_toNat (Nat.le_of_not_lt low)]
        exact utf8Chars?_four bs (by omega) (by omega) (tail _) (tail _) (tail _) read

theorem utf8Chars?_flatMap (cs : List Char) : utf8Chars? (cs.flatMap utf8Bytes) = some cs := by
  induction cs with
  | nil => rfl
  | cons c cs ih => rw [List.flatMap_cons, utf8Chars?_utf8Bytes, ih, Option.map_some]

/-- Texts with the same bytes are the same. -/
theorem flatMap_utf8Bytes_inj {cs ds : List Char} (h : cs.flatMap utf8Bytes = ds.flatMap utf8Bytes) :
    cs = ds := by
  have read := utf8Chars?_flatMap cs
  rw [h, utf8Chars?_flatMap] at read
  exact (Option.some.inj read).symm

/-- Whether a text begins with two hexadecimal digits. -/
def startsHex : List Char → Bool
  | a :: b :: _ => (hexDigitValue? a).isSome && (hexDigitValue? b).isSome
  | _ => false

/-- Whether some percent sign of a text stands for a byte, with two hexadecimal digits behind it. -/
def hasEscape : List Char → Bool
  | [] => false
  | c :: cs => (c = '%' && startsHex cs) || hasEscape cs

theorem percentDecode_escape (ha : hexDigitValue? a = some x) (hb : hexDigitValue? b = some y)
    (rest : List Char) : percentDecode ('%' :: a :: b :: rest) = (16 * x + y) :: percentDecode rest := by
  simp [percentDecode, ha, hb]

theorem percentDecode_plain (h : ¬ (c = '%' ∧ startsHex rest = true)) :
    percentDecode (c :: rest) = utf8Bytes c ++ percentDecode rest := by
  by_cases hc : c = '%'
  · subst hc
    match rest with
    | [] => rfl
    | [_] => rfl
    | a :: b :: rest =>
      have unread : startsHex (a :: b :: rest) = false := by simpa using h
      cases ha : hexDigitValue? a <;> cases hb : hexDigitValue? b <;>
        simp_all [percentDecode, startsHex]
  · simp [percentDecode, hc]

theorem exists_of_startsHex (h : startsHex cs = true) : ∃ a b rest x y, cs = a :: b :: rest ∧
    hexDigitValue? a = some x ∧ hexDigitValue? b = some y := by
  unfold startsHex at h
  split at h
  next a b rest =>
    obtain ⟨ha, hb⟩ := Bool.and_eq_true_iff.mp h
    obtain ⟨x, hx⟩ := Option.isSome_iff_exists.mp ha
    obtain ⟨y, hy⟩ := Option.isSome_iff_exists.mp hb
    exact ⟨a, b, rest, x, y, rfl, hx, hy⟩
  next => cases h

theorem hexDigitValue?_upperHexChar : ∀ d < 16, hexDigitValue? (upperHexChar d) = some d := by
  decide

theorem percentDecode_percentByte {n : Nat} (h : n < 0x100) (rest : List Char) :
    percentDecode (percentByte n ++ rest) = n :: percentDecode rest := by
  have high := hexDigitValue?_upperHexChar (n / 16) (by omega)
  have low := hexDigitValue?_upperHexChar (n % 16) (by omega)
  have whole : 16 * (n / 16) + n % 16 = n := Nat.div_add_mod n 16
  exact (percentDecode_escape high low rest).trans (by rw [whole])

theorem percentDecode_bytes {bs : List Nat} (h : ∀ n ∈ bs, n < 0x100) (rest : List Char) :
    percentDecode (bs.flatMap percentByte ++ rest) = bs ++ percentDecode rest := by
  induction bs with
  | nil => rfl
  | cons n bs ih =>
    obtain ⟨hn, h⟩ := List.forall_mem_cons.mp h
    rw [List.flatMap_cons, List.append_assoc, percentDecode_percentByte hn, ih h, List.cons_append]

/-- An induction over a text by what its characters stand for. -/
theorem escapes_induction {motive : List Char → Prop} (nil : motive [])
    (escape : ∀ a b rest x y, hexDigitValue? a = some x → hexDigitValue? b = some y → motive rest →
      motive ('%' :: a :: b :: rest))
    (plain : ∀ c rest, ¬ (c = '%' ∧ startsHex rest = true) → motive rest → motive (c :: rest)) :
    (cs : List Char) → motive cs
  | [] => nil
  | c :: rest => by
    by_cases starts : c = '%' ∧ startsHex rest = true
    · obtain ⟨rfl, starts⟩ := starts
      obtain ⟨a, b, rest, x, y, rfl, hx, hy⟩ := exists_of_startsHex starts
      exact escape a b rest x y hx hy (escapes_induction nil escape plain rest)
    · exact plain c rest starts (escapes_induction nil escape plain rest)
termination_by cs => cs.length

theorem hexDigit_range (h : hexDigitValue? c = some x) : 0x30 ≤ c.toNat ∧ c.toNat ≤ 0x66 := by
  unfold hexDigitValue? at h
  split at h
  next digit =>
    have range : 0x30 ≤ c.toNat ∧ c.toNat ≤ 0x39 := Char.isDigit_iff_toNat.mp digit
    omega
  next =>
    split at h
    next lower =>
      have low : 0x61 ≤ c.toNat := lower.1
      have high : c.toNat ≤ 0x66 := lower.2
      omega
    next =>
      split at h
      next upper =>
        have low : 0x41 ≤ c.toNat := upper.1
        have high : c.toNat ≤ 0x46 := upper.2
        omega
      next => cases h

theorem hexDigit_plain (h : hexDigitValue? c = some x) : mustEncode .path c = false := by
  obtain ⟨low, high⟩ := hexDigit_range h
  have others : EncodeSet.path.all (fun d => (hexDigitValue? d).isNone) = true := by decide
  have absent : EncodeSet.path.contains c = false := by
    refine Bool.eq_false_iff.mpr fun present => ?_
    have undigit := List.all_eq_true.mp others c (List.contains_iff_mem.mp present)
    rw [h] at undigit
    cases undigit
  simp only [mustEncode, absent, Bool.or_false, Bool.or_eq_false_iff, decide_eq_false_iff_not]
  omega

theorem percentEncode_cons_plain (h : mustEncode .path c = false) (cs : List Char) :
    percentEncode .path (c :: cs) = c :: percentEncode .path cs := by
  simp [percentEncode, percentEncodeChar, h]

theorem percentEncode_cons_encoded (h : mustEncode .path c = true) (cs : List Char) :
    percentEncode .path (c :: cs) = (utf8Bytes c).flatMap percentByte ++ percentEncode .path cs := by
  simp [percentEncode, percentEncodeChar, h]

theorem utf8Bytes_ne_nil (c : Char) : utf8Bytes c ≠ [] := by
  unfold utf8Bytes
  grind

/-- What has to be encoded becomes a percent sign with more behind it. -/
theorem percentEncode_cons_percent (h : mustEncode .path c = true) (cs : List Char) :
    ∃ rest, percentEncode .path (c :: cs) = '%' :: rest := by
  obtain ⟨n, bs, hb⟩ := List.exists_cons_of_ne_nil (utf8Bytes_ne_nil c)
  rw [percentEncode_cons_encoded h, hb]
  exact ⟨_, rfl⟩

theorem undigit_of_encoded (h : mustEncode .path c = true) : hexDigitValue? c = none := by
  refine Option.eq_none_iff_forall_ne_some.mpr fun x hx => ?_
  rw [hexDigit_plain hx] at h
  cases h

theorem firstDigit_percentEncode (cs : List Char) :
    (percentEncode .path cs).head?.bind hexDigitValue? = cs.head?.bind hexDigitValue? := by
  cases cs with
  | nil => rfl
  | cons c cs =>
    cases hm : mustEncode .path c with
    | false =>
      rw [percentEncode_cons_plain hm]
      rfl
    | true =>
      obtain ⟨rest, encoded⟩ := percentEncode_cons_percent hm cs
      rw [encoded]
      exact (undigit_of_encoded hm).symm

theorem startsHex_cons (c : Char) (cs : List Char) :
    startsHex (c :: cs) = ((hexDigitValue? c).isSome && (cs.head?.bind hexDigitValue?).isSome) := by
  cases cs <;> simp [startsHex]

theorem startsHex_percentEncode (cs : List Char) :
    startsHex (percentEncode .path cs) = startsHex cs := by
  cases cs with
  | nil => rfl
  | cons c cs =>
    cases hm : mustEncode .path c with
    | false => rw [percentEncode_cons_plain hm, startsHex_cons, startsHex_cons, firstDigit_percentEncode]
    | true =>
      obtain ⟨rest, encoded⟩ := percentEncode_cons_percent hm cs
      rw [encoded, startsHex_cons, startsHex_cons, undigit_of_encoded hm]
      rfl

/-- Encoding a text does not change what it stands for. -/
theorem percentDecode_percentEncode (cs : List Char) :
    percentDecode (percentEncode .path cs) = percentDecode cs := by
  induction cs using escapes_induction with
  | nil => rfl
  | escape a b rest x y ha hb ih =>
    rw [percentEncode_cons_plain rfl, percentEncode_cons_plain (hexDigit_plain ha),
      percentEncode_cons_plain (hexDigit_plain hb), percentDecode_escape ha hb, percentDecode_escape ha hb, ih]
  | plain c rest stands ih =>
    rw [percentDecode_plain stands]
    cases hm : mustEncode .path c with
    | false => rw [percentEncode_cons_plain hm, percentDecode_plain (by rwa [startsHex_percentEncode]), ih]
    | true => rw [percentEncode_cons_encoded hm, percentDecode_bytes fun _ => utf8Bytes_lt, ih]

theorem percentDecode_of_not_hasEscape (h : hasEscape cs = false) :
    percentDecode cs = cs.flatMap utf8Bytes := by
  induction cs using escapes_induction with
  | nil => rfl
  | escape a b rest x y ha hb => simp [hasEscape, startsHex, ha, hb] at h
  | plain c rest stands ih =>
    rw [percentDecode_plain stands, ih (Bool.or_eq_false_iff.mp h).2, List.flatMap_cons]

/-- A text has no fewer bytes than it stands for, and more where some percent sign stands for one. -/
theorem length_percentDecode_le (cs : List Char) :
    (percentDecode cs).length + (if hasEscape cs then 1 else 0) ≤ (cs.flatMap utf8Bytes).length := by
  have long (c : Char) := List.length_pos_iff.mpr (utf8Bytes_ne_nil c)
  induction cs using escapes_induction with
  | nil => exact Nat.le_refl 0
  | escape a b rest x y ha hb ih =>
    have bytes := long a
    have bytes' := long b
    rw [percentDecode_escape ha hb]
    simp only [List.flatMap_cons, List.length_append, List.length_cons]
    have percent := long '%'
    split at ih <;> split <;> omega
  | plain c rest stands ih =>
    have same : hasEscape (c :: rest) = hasEscape rest := by
      simp [hasEscape, stands]
    rw [percentDecode_plain stands, same]
    simp only [List.flatMap_cons, List.length_append]
    omega

end Telemux
