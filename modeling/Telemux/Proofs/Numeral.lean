import Mathlib.Data.List.TakeDrop
import Telemux.Json.Printer
import Telemux.Json.Reader

namespace Telemux

/-- The whole numbers that are no doubles: those of sixty-four bits, with a sign or without one. -/
def IsWhole (n : Int) : Prop :=
  -0x8000000000000000 ≤ n ∧ n ≤ 0xFFFFFFFFFFFFFFFF

/-- A character that can stand in a number, behind the first one. -/
def isNumeral (c : Char) : Bool :=
  c.isDigit || c = '-' || c = '+' || c = '.' || c = 'e' || c = 'E'

def startsNumeral (c : Char) : Bool :=
  c.isDigit || c = '-'

/-- A text that does not go on with a number. -/
def EndsNumeral (rest : List Char) : Prop :=
  ∀ c ∈ rest.head?, isNumeral c = false

theorem isNumeral_of_isDigit {c : Char} (h : c.isDigit = true) : isNumeral c = true := by
  simp [isNumeral, h]

theorem isNumeral_of_starts {c : Char} (h : startsNumeral c = true) : isNumeral c = true := by
  rcases (Bool.or_eq_true _ _).mp h with h | h
  · exact isNumeral_of_isDigit h
  · simp [isNumeral, h]

theorem endsNumeral_cons {c : Char} (h : isNumeral c = false) (cs : List Char) :
    EndsNumeral (c :: cs) := by
  intro d hd
  cases hd
  exact h

theorem EndsNumeral.ne {c : Char} {cs : List Char} (h : EndsNumeral (c :: cs)) {d : Char}
    (hd : isNumeral d = true) : c ≠ d := by
  rintro rfl
  have other := h c rfl
  rw [hd] at other
  cases other

theorem EndsNumeral.dropWhile (cs : List Char) : EndsNumeral (cs.dropWhile isNumeral) := by
  intro c hc
  have first := List.head?_dropWhile_not isNumeral cs
  rw [Option.mem_def.mp hc] at first
  exact first

theorem readFraction_of_ends {rest : List Char} (h : EndsNumeral rest) :
    readFraction rest = .ok (none, rest) := by
  unfold readFraction
  split
  next => exact absurd rfl (h.ne rfl)
  next => rfl

theorem readExponent_of_ends {rest : List Char} (h : EndsNumeral rest) :
    readExponent rest = .ok (none, rest) := by
  unfold readExponent
  split
  next c cs =>
    have small : c ≠ 'e' := h.ne rfl
    have large : c ≠ 'E' := h.ne rfl
    simp [small, large]
  next => rfl

/-- The decimal digits of a number begin with zero only for zero itself. -/
theorem decimal_zero {n : Nat} {cs : List Char} (h : decimal n = '0' :: cs) : n = 0 ∧ cs = [] := by
  rw [decimal] at h
  split at h
  next small =>
    have all : ∀ d < 10, digitChar d = '0' → d = 0 := by decide
    obtain ⟨digit, rfl⟩ := List.cons.inj h
    exact ⟨all n small digit, rfl⟩
  next large =>
    obtain ⟨d, ds, hd⟩ := List.exists_cons_of_ne_nil (decimal_ne_nil (n / 10))
    rw [hd, List.cons_append] at h
    have zero := (decimal_zero (hd.trans (by rw [(List.cons.inj h).1]))).1
    omega
termination_by n
decreasing_by omega

theorem wholeNumber?_natural {n : Nat} (h : IsWhole n) : wholeNumber? false n = some (n : Int) := by
  have bound : n ≤ maxNatural := by
    have := h.2
    unfold maxNatural
    omega
  simp [wholeNumber?, bound]

theorem wholeNumber?_negative {n : Nat} (h : IsWhole (.negSucc n)) :
    wholeNumber? true (n + 1) = some (.negSucc n) := by
  have bound : 0 < n + 1 ∧ n + 1 ≤ 0x8000000000000000 := by
    have := h.1
    omega
  have spelled : -((n + 1 : Nat) : Int) = .negSucc n := rfl
  unfold wholeNumber?
  rw [if_pos rfl, if_pos bound, spelled]

/-- Where a scan for numbers stands: between the words of a text, in a number of which `front` was
seen, in a string, or behind a backslash in one. -/
inductive Place where
  | outside
  | number (front : List Char)
  | string
  | escaped

/-- The numbers in a text. One begins at a digit or a minus sign outside of the strings, and goes on
for as long as the characters can stand in a number. -/
def numerals : Place → List Char → List (List Char)
  | .number front, [] => [front]
  | _, [] => []
  | .number front, c :: cs =>
    if isNumeral c then numerals (.number (front ++ [c])) cs
    else front :: numerals (if c = '"' then .string else .outside) cs
  | .outside, c :: cs =>
    if startsNumeral c then numerals (.number [c]) cs
    else numerals (if c = '"' then .string else .outside) cs
  | .string, c :: cs =>
    numerals (if c = '"' then .outside else if c = '\\' then .escaped else .string) cs
  | .escaped, _ :: cs => numerals .string cs

/-- All the numbers in a text are whole ones, written plainly. -/
def PlainNumbers (cs : List Char) : Prop :=
  ∀ text ∈ numerals .outside cs, ∃ n, IsWhole n ∧ text = signedDecimal n

/-- A character that is in no number, nor opens a string. -/
def isSeparator (c : Char) : Bool :=
  !startsNumeral c && c ≠ '"'

theorem numerals_separator {c : Char} (h : isSeparator c = true) (cs : List Char) :
    numerals .outside (c :: cs) = numerals .outside cs := by
  obtain ⟨number, quote⟩ := (Bool.and_eq_true _ _).mp h
  have inside : startsNumeral c = false := by simpa using number
  have unquoted : c ≠ '"' := by simpa using quote
  simp [numerals, inside, unquoted]

theorem numerals_append {front : List Char} (h : ∀ c ∈ front, isSeparator c = true) (cs : List Char) :
    numerals .outside (front ++ cs) = numerals .outside cs := by
  induction front with
  | nil => rfl
  | cons c front ih =>
    have rest := ih fun d hd => h d (List.mem_cons_of_mem c hd)
    rw [List.cons_append, numerals_separator (h c List.mem_cons_self), rest]

theorem numerals_quote (cs : List Char) : numerals .outside ('"' :: cs) = numerals .string cs := rfl

theorem numerals_number (front cs : List Char) :
    numerals (.number front) cs =
      (front ++ cs.takeWhile isNumeral) :: numerals .outside (cs.dropWhile isNumeral) := by
  induction cs generalizing front with
  | nil => simp [numerals]
  | cons c cs ih =>
    by_cases h : isNumeral c = true
    · simp [numerals, h, ih]
    · have start : startsNumeral c = false := by
        rw [← Bool.not_eq_true]
        exact fun starts => h (isNumeral_of_starts starts)
      simp [numerals, h, start]

example : numerals .outside ['[', '"', '1', '"', ',', '-', '2', 'e', '3', ',', '4', ']'] =
    [['-', '2', 'e', '3'], ['4']] := by decide

/-- The number at the front of a text that holds plain numbers only. -/
theorem PlainNumbers.front {c : Char} {cs : List Char} (h : PlainNumbers (c :: cs))
    (start : startsNumeral c = true) :
    ∃ n rest, IsWhole n ∧ c :: cs = signedDecimal n ++ rest ∧ EndsNumeral rest ∧ PlainNumbers rest := by
  have scan : numerals .outside (c :: cs) =
      (c :: cs.takeWhile isNumeral) :: numerals .outside (cs.dropWhile isNumeral) := by
    simp [numerals, start, numerals_number]
  unfold PlainNumbers at h
  rw [scan] at h
  obtain ⟨n, whole, spelled⟩ := h _ List.mem_cons_self
  refine ⟨n, cs.dropWhile isNumeral, whole, ?_, .dropWhile cs, ?_⟩
  · rw [← spelled, List.cons_append, List.takeWhile_append_dropWhile]
  · exact fun text ht => h text (List.mem_cons_of_mem _ ht)

end Telemux
