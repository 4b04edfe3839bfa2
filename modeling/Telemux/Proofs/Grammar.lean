import Mathlib.Data.List.Induction
import Mathlib.Data.List.TakeWhile
import Telemux.Proofs.Document
import Telemux.Proofs.Record

namespace Telemux

structure IsDigits (ds : List Char) : Prop where
  some : ds ≠ []
  all : ∀ c ∈ ds, c.isDigit = true

/-- The digits in front of a point. Zero stands alone. -/
structure IsWholePart (ds : List Char) : Prop where
  digits : IsDigits ds
  proper : ∀ cs, ds = '0' :: cs → cs = []

inductive SpellsFraction : Option (List Char) → List Char → Prop
  | absent : SpellsFraction none []
  | given {ds : List Char} (digits : IsDigits ds) : SpellsFraction (some ds) ('.' :: ds)

inductive SpellsSign : Bool → List Char → Prop
  | absent : SpellsSign false []
  | plus : SpellsSign false ['+']
  | minus : SpellsSign true ['-']

inductive SpellsExponent : Option Int → List Char → Prop
  | absent : SpellsExponent none []
  | given {mark : Char} {negative : Bool} {sign ds : List Char} (letter : mark = 'e' ∨ mark = 'E')
      (hs : SpellsSign negative sign) (digits : IsDigits ds) :
      SpellsExponent (some (if negative then -(ofDigits ds : Int) else ofDigits ds)) (mark :: (sign ++ ds))

def minus (negative : Bool) : List Char :=
  if negative then ['-'] else []

/-- What a double is made from: the digits that fit in sixty-four bits, and a power of ten. -/
def Scientific.ofParts (whole : List Char) (fraction : Option (List Char)) (exponent : Option Int) :
    Scientific :=
  let s := takeFraction (whole.foldl takeWhole ⟨0, 0⟩) (fraction.getD [])
  ⟨s.digits, s.power + exponent.getD 0⟩

/-- The ways to write a number. A whole number of sixty-four bits stands for itself, and any other
numeral for a double, if there is one. -/
inductive Number.DenotedBy : Number → List Char → Prop
  | int {n : Int} (whole : IsWhole n) : DenotedBy (.int n) (signedDecimal n)
  | double {negative : Bool} {whole fs es : List Char} {fraction : Option (List Char)}
      {exponent : Option Int} {x : Double} (hw : IsWholePart whole) (hf : SpellsFraction fraction fs)
      (he : SpellsExponent exponent es)
      (other : ∀ n, IsWhole n → minus negative ++ (whole ++ (fs ++ es)) ≠ signedDecimal n)
      (value : Double.ofScientific? negative (.ofParts whole fraction exponent) = some x) :
      DenotedBy (.double x) (minus negative ++ (whole ++ (fs ++ es)))

theorem isWholePart_decimal (n : Nat) : IsWholePart (decimal n) :=
  ⟨⟨decimal_ne_nil n, fun _ => isDigit_of_mem_decimal⟩, fun _ h => (decimal_zero h).2⟩

theorem toNat_range_of_isDigit {c : Char} (h : c.isDigit = true) :
    '0'.toNat ≤ c.toNat ∧ c.toNat ≤ '0'.toNat + 9 := by
  simpa [Char.isDigit, UInt32.le_iff_toNat_le] using h

theorem digitValue_lt {c : Char} (h : c.isDigit = true) : digitValue c < 10 := by
  have range := toNat_range_of_isDigit h
  unfold digitValue
  omega

theorem digitChar_digitValue {c : Char} (h : c.isDigit = true) : digitChar (digitValue c) = c := by
  rw [digitChar, digitValue, Nat.add_sub_cancel' (toNat_range_of_isDigit h).1, Char.ofNat_toNat]

/-- Digits are the decimal digits of their number, if zero does not stand in front of others. -/
theorem decimal_ofDigits {ds : List Char} (h : IsWholePart ds) : decimal (ofDigits ds) = ds := by
  induction ds using List.reverseRecOn with
  | nil => exact absurd rfl h.digits.some
  | append_singleton front c ih =>
    have digit : c.isDigit = true := h.digits.all c (by simp)
    have small := digitValue_lt digit
    rw [ofDigits_append_singleton]
    by_cases first : front = []
    · subst first
      have one : 10 * ofDigits [] + digitValue c = digitValue c := by simp [ofDigits]
      rw [one, decimal, if_pos small, digitChar_digitValue digit, List.nil_append]
    · have proper : ∀ cs, front ≠ '0' :: cs := by
        rintro cs rfl
        have last := h.proper (cs ++ [c]) rfl
        simp at last
      have part : IsWholePart front :=
        ⟨⟨first, fun d hd => h.digits.all d (List.mem_append_left _ hd)⟩, fun cs e => absurd e (proper cs)⟩
      have positive : ofDigits front ≠ 0 := by
        intro zero
        have alone := ih part
        rw [zero] at alone
        exact proper [] (alone.symm.trans (by decide +kernel))
      have large : ¬10 * ofDigits front + digitValue c < 10 := by omega
      have tens : (10 * ofDigits front + digitValue c) / 10 = ofDigits front := by omega
      have rest : (10 * ofDigits front + digitValue c) % 10 = digitValue c := by omega
      rw [decimal, if_neg large, tens, rest, ih part, digitChar_digitValue digit]

theorem exists_signedDecimal (n : Int) : ∃ negative k, signedDecimal n = minus negative ++ decimal k := by
  cases n with
  | ofNat n => exact ⟨false, n, rfl⟩
  | negSucc n => exact ⟨true, n + 1, rfl⟩

/-- A sign and digits stand for a whole number just if they are the way to write it. -/
theorem wholeNumber?_eq_some_iff {negative : Bool} {ds : List Char} {n : Int} (h : IsWholePart ds) :
    wholeNumber? negative (ofDigits ds) = some n ↔ IsWhole n ∧ minus negative ++ ds = signedDecimal n := by
  have digits := decimal_ofDigits h
  constructor
  · intro value
    unfold wholeNumber? at value
    cases negative with
    | true =>
      simp only [if_true] at value
      split_ifs at value with range
      cases value
      obtain ⟨m, hm⟩ := Nat.exists_eq_succ_of_ne_zero range.1.ne'
      have negated : -(ofDigits ds : Int) = .negSucc m := by
        rw [hm]
        rfl
      refine ⟨?_, ?_⟩
      · unfold IsWhole
        omega
      · rw [negated, signedDecimal, ← Nat.succ_eq_add_one, ← hm, digits]
        rfl
    | false =>
      simp only [Bool.false_eq_true, if_false] at value
      split_ifs at value with range
      cases value
      refine ⟨?_, ?_⟩
      · unfold IsWhole
        unfold maxNatural at range
        omega
      · exact digits.symm
  · rintro ⟨whole, text⟩
    cases n with
    | ofNat n =>
      cases negative with
      | true =>
        have first : '-' :: ds = decimal n := text
        have digit : '-'.isDigit = true := isDigit_of_mem_decimal (first ▸ List.mem_cons_self)
        cases digit
      | false =>
        have same : ds = decimal n := text
        rw [same, ofDigits_decimal]
        exact wholeNumber?_natural whole
    | negSucc n =>
      cases negative with
      | true =>
        have same : ds = decimal (n + 1) := (List.cons.inj text).2
        rw [same, ofDigits_decimal]
        exact wholeNumber?_negative whole
      | false =>
        have first : ds = '-' :: decimal (n + 1) := text
        have digit := h.digits.all '-' (first ▸ List.mem_cons_self)
        cases digit

/-- A text that does not go on with a digit. -/
def EndsDigits (rest : List Char) : Prop :=
  ∀ c ∈ rest.head?, c.isDigit = false

theorem EndsNumeral.endsDigits {rest : List Char} (h : EndsNumeral rest) : EndsDigits rest := by
  intro c hc
  have other := h c hc
  rw [← Bool.not_eq_true]
  intro digit
  rw [isNumeral_of_isDigit digit] at other
  cases other

theorem readDigits_of_isDigits {ds rest : List Char} (h : IsDigits ds) (ends : EndsDigits rest) :
    readDigits (ds ++ rest) = .ok (ds, rest) := by
  have front : (ds ++ rest).takeWhile Char.isDigit = ds := by
    rw [List.takeWhile_append_of_pos h.all]
    cases rest with
    | nil => simp
    | cons c cs => simp [ends c rfl]
  have back : (ds ++ rest).dropWhile Char.isDigit = rest := by
    have whole := List.takeWhile_append_dropWhile (p := Char.isDigit) (l := ds ++ rest)
    rw [front] at whole
    exact List.append_cancel_left whole
  unfold readDigits
  rw [List.span_eq_takeWhile_dropWhile, front, back]
  obtain ⟨c, cs, rfl⟩ := List.exists_cons_of_ne_nil h.some
  rfl

theorem isDigits_of_readDigits {cs ds rest : List Char} (h : readDigits cs = .ok (ds, rest)) :
    IsDigits ds ∧ cs = ds ++ rest := by
  unfold readDigits at h
  rw [List.span_eq_takeWhile_dropWhile] at h
  simp only at h
  split at h
  next => cases h
  next => cases h
  next some _ =>
    cases h
    exact ⟨⟨some, fun c hc => List.mem_takeWhile_imp hc⟩, List.takeWhile_append_dropWhile.symm⟩

/-- Whether an exponent is negative, and its digits. -/
def takeSign : List Char → Bool × List Char
  | '+' :: cs => (false, cs)
  | '-' :: cs => (true, cs)
  | cs => (false, cs)

theorem readExponent_cons (mark : Char) (cs : List Char) :
    readExponent (mark :: cs) = if mark = 'e' ∨ mark = 'E' then
      (readDigits (takeSign cs).2).map fun (digits, rest) =>
        (some (if (takeSign cs).1 then -(ofDigits digits : Int) else ofDigits digits), rest)
    else .ok (none, mark :: cs) := rfl

theorem takeSign_append {negative : Bool} {sign ds : List Char} (h : SpellsSign negative sign)
    (digits : IsDigits ds) (rest : List Char) : takeSign (sign ++ (ds ++ rest)) = (negative, ds ++ rest) := by
  cases h with
  | absent =>
    obtain ⟨c, cs, rfl⟩ := List.exists_cons_of_ne_nil digits.some
    have digit := digits.all c List.mem_cons_self
    unfold takeSign
    split
    next e =>
      cases e
      cases digit
    next e =>
      cases e
      cases digit
    next => rfl
  | plus => rfl
  | minus => rfl

theorem spellsSign_takeSign (cs : List Char) :
    ∃ sign, SpellsSign (takeSign cs).1 sign ∧ cs = sign ++ (takeSign cs).2 := by
  unfold takeSign
  split
  next => exact ⟨_, .plus, rfl⟩
  next => exact ⟨_, .minus, rfl⟩
  next => exact ⟨_, .absent, rfl⟩

section Parts

variable {fraction : Option (List Char)} {exponent : Option Int} {whole fs es cs rest : List Char}

theorem SpellsExponent.endsDigits (h : SpellsExponent exponent es) (ends : EndsNumeral rest) :
    EndsDigits (es ++ rest) := by
  cases h with
  | absent => exact ends.endsDigits
  | given letter =>
    rintro c ⟨⟩
    rcases letter with rfl | rfl <;> rfl

theorem SpellsFraction.endsDigits (h : SpellsFraction fraction fs) (behind : EndsDigits rest) :
    EndsDigits (fs ++ rest) := by
  cases h with
  | absent => exact behind
  | given =>
    rintro c ⟨⟩
    rfl

theorem readExponent_spelled (h : SpellsExponent exponent es) (ends : EndsNumeral rest) :
    readExponent (es ++ rest) = .ok (exponent, rest) := by
  cases h with
  | absent => exact readExponent_of_ends ends
  | given letter sign digits =>
    rw [List.cons_append, List.append_assoc, readExponent_cons, if_pos letter, takeSign_append sign digits,
      readDigits_of_isDigits digits ends.endsDigits]
    rfl

theorem spells_of_readExponent (h : readExponent cs = .ok (exponent, rest)) :
    ∃ es, SpellsExponent exponent es ∧ cs = es ++ rest := by
  cases cs with
  | nil =>
    cases h
    exact ⟨[], .absent, rfl⟩
  | cons mark cs =>
    rw [readExponent_cons] at h
    by_cases letter : mark = 'e' ∨ mark = 'E'
    · rw [if_pos letter] at h
      obtain ⟨⟨digits, behind⟩, hd, e⟩ := exists_of_map h
      cases e
      obtain ⟨sign, hs, text⟩ := spellsSign_takeSign cs
      obtain ⟨all, split⟩ := isDigits_of_readDigits hd
      refine ⟨_, .given letter hs all, ?_⟩
      rw [List.cons_append, List.append_assoc, ← split, ← text]
    · rw [if_neg letter] at h
      cases h
      exact ⟨[], .absent, rfl⟩

theorem readFraction_spelled (hf : SpellsFraction fraction fs) (he : SpellsExponent exponent es)
    (ends : EndsNumeral rest) : readFraction (fs ++ (es ++ rest)) = .ok (fraction, es ++ rest) := by
  cases hf with
  | absent =>
    cases he with
    | absent => exact readFraction_of_ends ends
    | given letter => rcases letter with rfl | rfl <;> rfl
  | given digits =>
    have read := readDigits_of_isDigits digits (he.endsDigits ends)
    rw [List.cons_append, readFraction, read]
    rfl

theorem spells_of_readFraction (h : readFraction cs = .ok (fraction, rest)) :
    ∃ fs, SpellsFraction fraction fs ∧ cs = fs ++ rest := by
  unfold readFraction at h
  split at h
  next cs =>
    obtain ⟨⟨digits, behind⟩, hd, e⟩ := exists_of_bind h
    cases e
    obtain ⟨all, rfl⟩ := isDigits_of_readDigits hd
    exact ⟨_, .given all, rfl⟩
  next =>
    cases h
    exact ⟨[], .absent, rfl⟩

def wholeOf? (negative : Bool) (whole : List Char) (fraction : Option (List Char))
    (exponent : Option Int) : Option Int :=
  if fraction = none ∧ exponent = none then wholeNumber? negative (ofDigits whole) else none

/-- The number of a numeral's parts. -/
def numberOf? (negative : Bool) (whole : List Char) (fraction : Option (List Char))
    (exponent : Option Int) : Option Number :=
  match wholeOf? negative whole fraction exponent with
  | some n => some (.int n)
  | none => (Double.ofScientific? negative (.ofParts whole fraction exponent)).map .double

theorem readNumber_of_parts {behind behind' : List Char} (negative : Bool)
    (hd : readDigits cs = .ok (whole, behind)) (proper : ∀ c cs, whole ≠ '0' :: c :: cs)
    (hf : readFraction behind = .ok (fraction, behind')) (he : readExponent behind' = .ok (exponent, rest)) :
    readNumber negative cs = match numberOf? negative whole fraction exponent with
      | some n => .ok (.number n, rest)
      | none => .error .malformed := by
  unfold readNumber numberOf? wholeOf? Scientific.ofParts
  simp only [hd, hf, he, bind, Except.bind]
  cases fraction with
  | none => cases exponent with
    | none =>
      simp only [and_self, if_true]
      cases wholeNumber? negative (ofDigits whole) with
      | none =>
        simp only [takeFraction, Option.getD_none, Int.add_zero]
        cases Double.ofScientific? negative (whole.foldl takeWhole ⟨0, 0⟩) <;> rfl
      | some n => rfl
    | some n =>
      simp only [reduceCtorEq, and_false, if_false]
      generalize Double.ofScientific? negative _ = x?
      cases x? <;> rfl
  | some ds =>
    simp only [reduceCtorEq, false_and, if_false]
    generalize Double.ofScientific? negative _ = x?
    cases x? <;> rfl

/-- What stands behind the sign of a number. -/
inductive SpellsUnsigned (negative : Bool) (n : Number) : List Char → Prop
  | parts {whole fs es : List Char} {fraction : Option (List Char)} {exponent : Option Int}
      (hw : IsWholePart whole) (hf : SpellsFraction fraction fs) (he : SpellsExponent exponent es)
      (value : numberOf? negative whole fraction exponent = some n) :
      SpellsUnsigned negative n (whole ++ (fs ++ es))

section Unsigned

variable {negative : Bool} {n : Number} {u : List Char}

theorem SpellsUnsigned.front (h : SpellsUnsigned negative n u) :
    ∃ c cs, u = c :: cs ∧ c.isDigit = true := by
  obtain ⟨hw, -, -, -⟩ := h
  obtain ⟨c, cs, rfl⟩ := List.exists_cons_of_ne_nil hw.digits.some
  exact ⟨c, _, rfl, hw.digits.all c List.mem_cons_self⟩

theorem readNumber_spelled (h : SpellsUnsigned negative n u) (ends : EndsNumeral rest) :
    readNumber negative (u ++ rest) = .ok (.number n, rest) := by
  obtain ⟨hw, hf, he, value⟩ := h
  have proper : ∀ c cs, _ ≠ '0' :: c :: cs := fun c cs e => by cases hw.proper _ e
  rw [List.append_assoc, List.append_assoc, readNumber_of_parts negative
    (readDigits_of_isDigits hw.digits (hf.endsDigits (he.endsDigits ends))) proper
    (readFraction_spelled hf he ends) (readExponent_spelled he ends), value]

theorem spells_of_readNumber {v : Value} (h : readNumber negative cs = .ok (v, rest)) :
    ∃ n u, SpellsUnsigned negative n u ∧ v = .number n ∧ cs = u ++ rest := by
  have read := h
  unfold readNumber at h
  obtain ⟨⟨whole, behind⟩, hd, h⟩ := exists_of_bind h
  simp only at h
  split at h
  next => cases h
  next proper =>
    obtain ⟨⟨fraction, behind'⟩, hf, h⟩ := exists_of_bind h
    obtain ⟨⟨exponent, behind''⟩, he, -⟩ := exists_of_bind h
    have zero : ∀ c cs, whole ≠ '0' :: c :: cs := fun c cs e => proper c cs e
    rw [readNumber_of_parts negative hd zero hf he] at read
    cases value : numberOf? negative whole fraction exponent with
    | none =>
      rw [value] at read
      cases read
    | some n =>
      rw [value] at read
      cases read
      obtain ⟨digits, rfl⟩ := isDigits_of_readDigits hd
      obtain ⟨fs, hfs, rfl⟩ := spells_of_readFraction hf
      obtain ⟨es, hes, rfl⟩ := spells_of_readExponent he
      have part : IsWholePart whole := by
        refine ⟨digits, ?_⟩
        rintro (_ | ⟨c, cs⟩) e
        · rfl
        · exact absurd e (zero c cs)
      exact ⟨n, _, .parts part hfs hes value, rfl, by simp⟩

end Unsigned

/-- A numeral with a fraction or an exponent is not the way to write a whole number. -/
theorem ne_signedDecimal (hf : SpellsFraction fraction fs) (he : SpellsExponent exponent es)
    (given : ¬(fraction = none ∧ exponent = none)) (front : List Char) (n : Int) :
    front ++ (fs ++ es) ≠ signedDecimal n := by
  have plain : ∀ c ∈ signedDecimal n, startsNumeral c = true := by
    intro c hc
    obtain ⟨negative, k, e⟩ := exists_signedDecimal n
    rw [e] at hc
    rcases List.mem_append.mp hc with hc | hc
    · cases negative with
      | true =>
        rw [List.mem_singleton.mp hc]
        rfl
      | false => cases hc
    · simp [startsNumeral, isDigit_of_mem_decimal hc]
  have odd : ∃ c ∈ fs ++ es, startsNumeral c = false := by
    cases hf with
    | given => exact ⟨'.', List.mem_cons_self, rfl⟩
    | absent => cases he with
      | absent => exact absurd ⟨rfl, rfl⟩ given
      | given letter =>
        refine ⟨_, List.mem_cons_self, ?_⟩
        rcases letter with rfl | rfl <;> rfl
  intro same
  obtain ⟨c, hc, other⟩ := odd
  have start := plain c (same ▸ List.mem_append_right front hc)
  rw [other] at start
  cases start

theorem wholeOf?_eq_some_iff {negative : Bool} {n : Int} (hw : IsWholePart whole)
    (hf : SpellsFraction fraction fs) (he : SpellsExponent exponent es) :
    wholeOf? negative whole fraction exponent = some n ↔
      IsWhole n ∧ minus negative ++ (whole ++ (fs ++ es)) = signedDecimal n := by
  unfold wholeOf?
  split_ifs with plain
  · obtain ⟨rfl, rfl⟩ := plain
    cases hf
    cases he
    rw [List.append_nil, List.append_nil]
    exact wholeNumber?_eq_some_iff hw
  · constructor
    · intro h
      cases h
    · rintro ⟨-, text⟩
      rw [← List.append_assoc] at text
      exact absurd text (ne_signedDecimal hf he plain _ n)

end Parts

/-- A number is written as a sign and parts whose number it is. -/
theorem Number.denotedBy_iff {n : Number} {t : List Char} :
    n.DenotedBy t ↔ ∃ negative u, SpellsUnsigned negative n u ∧ t = minus negative ++ u := by
  constructor
  · rintro (@⟨n, range⟩ | @⟨negative, whole, fs, es, fraction, exponent, x, hw, hf, he, other, value⟩)
    · obtain ⟨negative, k, e⟩ := exists_signedDecimal n
      have text : signedDecimal n = minus negative ++ (decimal k ++ ([] ++ [])) := by simpa using e
      have number : wholeOf? negative (decimal k) none none = some n :=
        (wholeOf?_eq_some_iff (isWholePart_decimal k) .absent .absent).mpr ⟨range, text.symm⟩
      refine ⟨negative, _, .parts (isWholePart_decimal k) .absent .absent ?_, text⟩
      rw [numberOf?, number]
    · have double : wholeOf? negative whole fraction exponent = none := by
        refine Option.eq_none_iff_forall_ne_some.mpr fun n hn => ?_
        obtain ⟨range, text⟩ := (wholeOf?_eq_some_iff hw hf he).mp hn
        exact other n range text
      refine ⟨negative, _, .parts hw hf he ?_, rfl⟩
      rw [numberOf?, double, value]
      rfl
  · rintro ⟨negative, u, ⟨hw, hf, he, value⟩, rfl⟩
    unfold numberOf? at value
    split at value
    next n hn =>
      cases value
      obtain ⟨range, text⟩ := (wholeOf?_eq_some_iff hw hf he).mp hn
      rw [text]
      exact .int range
    next hn =>
      obtain ⟨x, hx, rfl⟩ := Option.map_eq_some_iff.mp value
      refine .double hw hf he (fun n range text => ?_) hx
      rw [(wholeOf?_eq_some_iff hw hf he).mpr ⟨range, text⟩] at hn
      cases hn

/-- A number begins with a digit or a minus sign. -/
theorem Number.DenotedBy.front {n : Number} {t : List Char} (h : n.DenotedBy t) :
    ∃ c cs, t = c :: cs ∧ startsNumeral c = true := by
  obtain ⟨negative, u, unsigned, rfl⟩ := denotedBy_iff.mp h
  cases negative with
  | true => exact ⟨_, _, rfl, rfl⟩
  | false =>
    obtain ⟨c, cs, rfl, digit⟩ := unsigned.front
    exact ⟨c, cs, rfl, by simp [startsNumeral, digit]⟩

namespace Value

mutual

/-- The ways to write a document: those of a document of whole numbers, with any numbers in it. -/
def DenotedBy : Value → List Char → Prop
  | .null, w => Spaced (chars .null) w
  | .bool b, w => Spaced (chars (.bool b)) w
  | .number n, w => ∃ t, n.DenotedBy t ∧ Spaced t w
  | .string s, w => ∃ q, SpellsQuoted s q ∧ Spaced q w
  | .array [], w => ∃ t, Spaced [']'] t ∧ Spaced ('[' :: t) w
  | .array (x :: xs), w => ∃ u t, DenotedBy x u ∧ ItemsDenotedBy xs t ∧ Spaced ('[' :: (u ++ t)) w
  | .object [], w => ∃ t, Spaced ['}'] t ∧ Spaced ('{' :: t) w
  | .object ((k, x) :: fs), w =>
    ∃ q u t, SpellsKey k q ∧ DenotedBy x u ∧ FieldsDenotedBy fs t ∧ Spaced ('{' :: (q ++ (u ++ t))) w

def ItemsDenotedBy : List Value → List Char → Prop
  | [], t => Spaced [']'] t
  | x :: xs, w => ∃ u t, DenotedBy x u ∧ ItemsDenotedBy xs t ∧ Spaced (',' :: (u ++ t)) w

def FieldsDenotedBy : Fields → List Char → Prop
  | [], t => Spaced ['}'] t
  | (k, x) :: fs, w =>
    ∃ q u t, SpellsKey k q ∧ DenotedBy x u ∧ FieldsDenotedBy fs t ∧ Spaced (',' :: (q ++ (u ++ t))) w

end

mutual

theorem denotedBy_of_spells : (d : Value) → {w : List Char} → d.Spells w → d.DenotedBy w
  | .null, _, h | .bool _, _, h | .string _, _, h | .array [], _, h | .object [], _, h => h
  | .number (.int _), _, h => ⟨_, .int h.1, h.2⟩
  | .array (x :: xs), _, h => by
    obtain ⟨u, t, hu, ht, hw⟩ := h
    exact ⟨u, t, denotedBy_of_spells x hu, itemsDenotedBy_of_spells xs ht, hw⟩
  | .object ((k, x) :: fs), _, h => by
    obtain ⟨q, u, t, hq, hu, ht, hw⟩ := h
    exact ⟨q, u, t, hq, denotedBy_of_spells x hu, fieldsDenotedBy_of_spells fs ht, hw⟩

theorem itemsDenotedBy_of_spells : (xs : List Value) → {t : List Char} → SpellsItems xs t →
    ItemsDenotedBy xs t
  | [], _, h => h
  | x :: xs, _, h => by
    obtain ⟨u, t, hu, ht, hw⟩ := h
    exact ⟨u, t, denotedBy_of_spells x hu, itemsDenotedBy_of_spells xs ht, hw⟩

theorem fieldsDenotedBy_of_spells : (fs : Fields) → {t : List Char} → SpellsFields fs t →
    FieldsDenotedBy fs t
  | [], _, h => h
  | (k, x) :: fs, _, h => by
    obtain ⟨q, u, t, hq, hu, ht, hw⟩ := h
    exact ⟨q, u, t, hq, denotedBy_of_spells x hu, fieldsDenotedBy_of_spells fs ht, hw⟩

end

end Value

end Telemux
