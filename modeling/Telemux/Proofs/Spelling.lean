import Mathlib.Data.String.Basic
import Telemux.Proofs.Numeral

namespace Telemux

def Blank (b : List Char) : Prop :=
  ∀ c ∈ b, isBlank c = true

theorem skipBlank_append {b : List Char} (h : Blank b) (cs : List Char) :
    skipBlank (b ++ cs) = skipBlank cs := by
  induction b with
  | nil => rfl
  | cons c b ih =>
    have first : isBlank c = true := h c List.mem_cons_self
    have rest := ih fun d hd => h d (List.mem_cons_of_mem c hd)
    simp [skipBlank, first, rest]

theorem skipBlank_of_not {c : Char} (h : isBlank c = false) (cs : List Char) :
    skipBlank (c :: cs) = c :: cs := by
  simp [skipBlank, h]

theorem skipBlank_blank {b : List Char} (h : Blank b) : skipBlank b = [] := by
  have skipped := skipBlank_append h []
  rwa [List.append_nil] at skipped

/-- A text is some blanks and what `skipBlank` leaves of it. -/
theorem exists_blank (cs : List Char) : ∃ b, Blank b ∧ cs = b ++ skipBlank cs := by
  induction cs with
  | nil => exact ⟨[], nofun, rfl⟩
  | cons c cs ih =>
    unfold skipBlank
    split
    next h =>
      obtain ⟨b, hb, e⟩ := ih
      refine ⟨c :: b, ?_, by rw [List.cons_append, ← e]⟩
      intro d hd
      rcases List.mem_cons.mp hd with rfl | hd
      · exact h
      · exact hb d hd
    next => exact ⟨[], nofun, rfl⟩

theorem isBlank_cases {c : Char} (h : isBlank c = true) : c = ' ' ∨ c = '\n' ∨ c = '\t' ∨ c = '\r' := by
  simpa [isBlank, or_assoc] using h

theorem isSeparator_of_isBlank {c : Char} (h : isBlank c = true) : isSeparator c = true := by
  rcases isBlank_cases h with rfl | rfl | rfl | rfl <;> rfl

theorem isNumeral_of_isBlank {c : Char} (h : isBlank c = true) : isNumeral c = false := by
  rcases isBlank_cases h with rfl | rfl | rfl | rfl <;> rfl

theorem Blank.endsNumeral {b : List Char} (h : Blank b) : EndsNumeral b :=
  fun c hc => isNumeral_of_isBlank (h c (List.mem_of_mem_head? hc))

theorem isBlank_of_isDigit {c : Char} (h : c.isDigit = true) : isBlank c = false := by
  rw [← Bool.not_eq_true]
  intro blank
  have number := isNumeral_of_isDigit h
  rw [isNumeral_of_isBlank blank] at number
  cases number

theorem numerals_blank {b : List Char} (h : Blank b) (cs : List Char) :
    numerals .outside (b ++ cs) = numerals .outside cs :=
  numerals_append (fun c hc => isSeparator_of_isBlank (h c hc)) cs

/-- How a string can write a character: as itself, with a short escape, by its code unit or, beyond the
first plane, by a pair of surrogates. -/
inductive SpellsChar : Char → List Char → Prop
  | plain {c : Char} (h : ¬c.toNat < 0x20) (quote : c ≠ '"') (backslash : c ≠ '\\') : SpellsChar c [c]
  | short {e c : Char} (h : shortEscape e = some c) : SpellsChar c ['\\', e]
  | unit {a b c d : Char} {n : Nat} (h : codeUnit a b c d = some n) (low : isLowSurrogate n = false)
      (high : isHighSurrogate n = false) : SpellsChar (Char.ofNat n) ['\\', 'u', a, b, c, d]
  | pair {a b c d e f g h : Char} {m n : Nat} (first : codeUnit a b c d = some m)
      (second : codeUnit e f g h = some n) (unlow : isLowSurrogate m = false)
      (high : isHighSurrogate m = true) (low : isLowSurrogate n = true) :
      SpellsChar (surrogatePair m n) ['\\', 'u', a, b, c, d, '\\', 'u', e, f, g, h]

inductive SpellsString : List Char → List Char → Prop
  | nil : SpellsString [] []
  | cons {c : Char} {s w ws : List Char} (first : SpellsChar c w) (rest : SpellsString s ws) :
      SpellsString (c :: s) (w ++ ws)

/-- The ways to write a string between its quotes. -/
def SpellsQuoted (s : String) (w : List Char) : Prop :=
  ∃ inner, SpellsString s.toList inner ∧ w = '"' :: (inner ++ ['"'])

theorem SpellsString.quoted {s inner : List Char} (h : SpellsString s inner) :
    SpellsQuoted (String.ofList s) ('"' :: (inner ++ ['"'])) := by
  refine ⟨inner, ?_, rfl⟩
  rw [String.toList_ofList]
  exact h

theorem readString_char {c : Char} {w : List Char} (h : SpellsChar c w) (acc rest : List Char) :
    readString acc (w ++ rest) = readString (c :: acc) rest := by
  cases h with
  | plain h quote backslash => simp [readString, h, backslash]
  | @short e c h =>
    have unhex : e ≠ 'u' := by
      rintro rfl
      cases h
    simp [readString, h, unhex]
  | unit h low high => simp [readString, h, low, high]
  | pair first second unlow high low => simp [readString, first, second, unlow, high, low]

theorem readString_spelled {s w : List Char} (h : SpellsString s w) (acc rest : List Char) :
    readString acc (w ++ '"' :: rest) = .ok (acc.reverse ++ s, rest) := by
  induction h generalizing acc with
  | nil => simp [readString]
  | cons first _ ih => rw [List.append_assoc, readString_char first, ih, List.reverse_cons]; simp

/-- What is read as a string is a spelling of it, up to the closing quote. -/
theorem spells_of_readString {acc cs s rest : List Char} (h : readString acc cs = .ok (s, rest)) :
    ∃ t w, SpellsString t w ∧ s = acc.reverse ++ t ∧ cs = w ++ '"' :: rest := by
  -- One spelled character is put in front of what the recursion found.
  have grow : ∀ {acc cs : List Char} {c : Char} {w : List Char}, SpellsChar c w →
      (∃ t ws, SpellsString t ws ∧ s = (c :: acc).reverse ++ t ∧ cs = ws ++ '"' :: rest) →
      ∃ t ws, SpellsString t ws ∧ s = acc.reverse ++ t ∧ w ++ cs = ws ++ '"' :: rest := by
    rintro acc cs c w first ⟨t, ws, inner, rfl, rfl⟩
    exact ⟨c :: t, w ++ ws, .cons first inner, by simp, by simp⟩
  fun_induction readString acc cs with
  | case2 =>
    cases h
    exact ⟨[], [], .nil, by simp, rfl⟩
  | case6 acc a b c d m first unlow high e f g i rest n second low ih =>
    exact grow (.pair first second (by simpa using unlow) high low) (ih h)
  | case12 acc a b c d rest n unit low high ih =>
    exact grow (.unit unit (by simpa using low) (by simpa using high)) (ih h)
  | case16 acc e rest _ _ c short ih => exact grow (.short short) (ih h)
  | case18 acc c rest quote _ _ lone escape visible ih =>
    refine grow (.plain visible quote ?_) (ih h)
    rintro rfl
    cases rest with
    | nil => exact lone rfl rfl
    | cons e rest => exact escape e rest rfl rfl
  | _ => cases h

theorem hexDigitValue?_of_codeUnit {a b c d : Char} {n : Nat} (h : codeUnit a b c d = some n) :
    ∀ x ∈ [a, b, c, d], (hexDigitValue? x).isSome = true := by
  unfold codeUnit at h
  obtain ⟨_, ha, h⟩ := Option.bind_eq_some_iff.mp h
  obtain ⟨_, hb, h⟩ := Option.bind_eq_some_iff.mp h
  obtain ⟨_, hc, h⟩ := Option.bind_eq_some_iff.mp h
  obtain ⟨_, hd, -⟩ := Option.bind_eq_some_iff.mp h
  simp [ha, hb, hc, hd]

theorem numerals_visible {c : Char} (quote : c ≠ '"') (backslash : c ≠ '\\') (cs : List Char) :
    numerals .string (c :: cs) = numerals .string cs := by
  simp [numerals, quote, backslash]

theorem numerals_hex {hex : List Char} (h : ∀ x ∈ hex, (hexDigitValue? x).isSome = true)
    (cs : List Char) : numerals .string (hex ++ cs) = numerals .string cs := by
  induction hex with
  | nil => rfl
  | cons c hex ih =>
    have digit := h c List.mem_cons_self
    have quote : c ≠ '"' := by
      rintro rfl
      cases digit
    have backslash : c ≠ '\\' := by
      rintro rfl
      cases digit
    rw [List.cons_append, numerals_visible quote backslash]
    exact ih fun x hx => h x (List.mem_cons_of_mem c hx)

theorem numerals_char {c : Char} {w : List Char} (h : SpellsChar c w) (cs : List Char) :
    numerals .string (w ++ cs) = numerals .string cs := by
  have escape : ∀ e cs, numerals .string ('\\' :: e :: cs) = numerals .string cs := fun _ _ => rfl
  cases h with
  | plain _ quote backslash => exact numerals_visible quote backslash cs
  | short => exact escape _ cs
  | unit h => exact (escape _ _).trans (numerals_hex (hexDigitValue?_of_codeUnit h) cs)
  | pair first second =>
    refine (escape _ _).trans ((numerals_hex (hexDigitValue?_of_codeUnit first) _).trans ?_)
    exact (escape _ _).trans (numerals_hex (hexDigitValue?_of_codeUnit second) cs)

theorem numerals_string {s w : List Char} (h : SpellsString s w) (cs : List Char) :
    numerals .string (w ++ '"' :: cs) = numerals .outside cs := by
  induction h with
  | nil => rfl
  | cons first _ ih => rw [List.append_assoc, numerals_char first, ih]

theorem spellsChar_escapeChar (c : Char) : SpellsChar c (escapeChar c) := by
  have short : ∀ {e x : Char}, shortEscape e = some x → c = x → SpellsChar c ['\\', e] := by
    rintro e x h rfl
    exact .short h
  unfold escapeChar
  split_ifs with quote backslash back feed line ret tab control
  · exact short rfl quote
  · exact short rfl backslash
  · exact short rfl back
  · exact short rfl feed
  · exact short rfl line
  · exact short rfl ret
  · exact short rfl tab
  · have all : ∀ n < 0x20, codeUnit '0' '0' (hexChar (n / 16)) (hexChar (n % 16)) = some n ∧
        isLowSurrogate n = false ∧ isHighSurrogate n = false := by decide
    obtain ⟨unit, low, high⟩ := all c.toNat control
    have spelled := SpellsChar.unit unit low high
    rwa [Char.ofNat_toNat] at spelled
  · exact .plain control quote backslash

theorem spellsString_escaped (s : List Char) : SpellsString s (s.flatMap escapeChar) := by
  induction s with
  | nil => exact .nil
  | cons c s ih => exact .cons (spellsChar_escapeChar c) ih

theorem spellsQuoted_quoted (s : String) : SpellsQuoted s (quoted s) :=
  ⟨_, spellsString_escaped s.toList, rfl⟩

open String (utf8Len)

theorem length_le_utf8Len (cs : List Char) : cs.length ≤ utf8Len cs := by
  induction cs with
  | nil => exact Nat.le_refl 0
  | cons c cs ih =>
    have one := c.utf8Size_pos
    rw [List.length_cons, String.utf8Len_cons]
    omega

theorem utf8Len_escapeChar_le_six (c : Char) : utf8Len (escapeChar c) ≤ 6 := by
  have hex : ∀ n < 16, (hexChar n).utf8Size = 1 := by decide
  unfold escapeChar
  split_ifs with quote backslash back feed line ret tab control
  any_goals decide
  · have high := hex (c.toNat / 16) (by omega)
    have low := hex (c.toNat % 16) (by omega)
    simp only [String.utf8Len_cons, String.utf8Len_nil, high, low]
    decide
  · have four := c.utf8Size_le_four
    simp only [String.utf8Len_cons, String.utf8Len_nil]
    omega

/-- No spelling of a character is shorter than the one that is printed. -/
theorem utf8Len_escapeChar_le {c : Char} {w : List Char} (h : SpellsChar c w) :
    utf8Len (escapeChar c) ≤ utf8Len w := by
  cases h with
  | plain visible quote backslash =>
    have other : ∀ d : Char, d.toNat < 0x20 → c ≠ d := by
      rintro d hd rfl
      exact visible hd
    have itself : escapeChar c = [c] := by
      simp [escapeChar, quote, backslash, visible, other '\x08' (by decide), other '\x0c' (by decide),
        other '\n' (by decide), other '\r' (by decide), other '\t' (by decide)]
    rw [itself]
  | @short e c h =>
    unfold shortEscape at h
    split at h <;> cases h <;> decide
  | @unit a b c d =>
    have six := length_le_utf8Len ['\\', 'u', a, b, c, d]
    exact (utf8Len_escapeChar_le_six _).trans six
  | @pair a b c d e f g h m n =>
    have twelve := length_le_utf8Len ['\\', 'u', a, b, c, d, '\\', 'u', e, f, g, h]
    simp only [List.length_cons, List.length_nil] at twelve
    have six := utf8Len_escapeChar_le_six (surrogatePair m n)
    omega

theorem utf8Len_escaped_le {s w : List Char} (h : SpellsString s w) :
    utf8Len (s.flatMap escapeChar) ≤ utf8Len w := by
  induction h with
  | nil => exact Nat.le_refl 0
  | cons first _ ih =>
    have char := utf8Len_escapeChar_le first
    rw [List.flatMap_cons, String.utf8Len_append, String.utf8Len_append]
    omega

theorem utf8Len_quoted_le {s : String} {w : List Char} (h : SpellsQuoted s w) :
    utf8Len (quoted s) ≤ utf8Len w := by
  obtain ⟨inner, spelled, rfl⟩ := h
  have shorter := utf8Len_escaped_le spelled
  simp only [quoted, String.utf8Len_cons, String.utf8Len_append]
  omega

end Telemux
