import Telemux.Command.Duration
import Telemux.Proofs.Grammar

namespace Telemux

def IsWhite (cs : List Char) : Prop :=
  ∀ c ∈ cs, isWhiteSpace c = true

/-- `cs` is `core` with white space around it. -/
def Padded (core cs : List Char) : Prop :=
  ∃ front back, IsWhite front ∧ IsWhite back ∧ cs = front ++ (core ++ back)

/-- A text that has no white space at its ends. -/
structure IsTrimmed (cs : List Char) : Prop where
  front : ∀ c rest, cs = c :: rest → isWhiteSpace c = false
  back : ∀ c rest, cs = rest ++ [c] → isWhiteSpace c = false

theorem dropWhile_of_isWhite {front : List Char} (white : IsWhite front) (rest : List Char) :
    (front ++ rest).dropWhile isWhiteSpace = rest.dropWhile isWhiteSpace := by
  rw [List.dropWhile_append_of_pos white]

theorem trim_of_isWhite {cs : List Char} (white : IsWhite cs) : trim cs = [] := by
  have dropped := dropWhile_of_isWhite white []
  rw [List.append_nil] at dropped
  simp [trim, dropped]

theorem isWhite_reverse {cs : List Char} (white : IsWhite cs) : IsWhite cs.reverse :=
  fun c hc => white c (List.mem_reverse.mp hc)

/-- White space at the end goes away, whatever stands before it. -/
theorem trim_append_white {back : List Char} (white : IsWhite back) (cs : List Char) :
    trim (cs ++ back) = trim cs := by
  unfold trim
  rw [List.dropWhile_append]
  split
  next emptied =>
    have dropped := dropWhile_of_isWhite white []
    rw [List.append_nil] at dropped
    simp [dropped, List.isEmpty_iff.mp emptied]
  next => rw [List.reverse_append, dropWhile_of_isWhite (isWhite_reverse white)]

theorem trim_padded {front back : List Char} (hf : IsWhite front) (hb : IsWhite back)
    (cs : List Char) : trim (front ++ (cs ++ back)) = trim cs := by
  rw [← List.append_assoc, trim_append_white hb, trim, dropWhile_of_isWhite hf, trim]

theorem trim_of_isTrimmed {cs : List Char} (trimmed : IsTrimmed cs) : trim cs = cs := by
  have front : cs.dropWhile isWhiteSpace = cs := by
    cases cs with
    | nil => rfl
    | cons c rest => simp [trimmed.front c rest rfl]
  have back : cs.reverse.dropWhile isWhiteSpace = cs.reverse := by
    obtain rfl | ⟨rest, c, rfl⟩ := List.eq_nil_or_concat cs
    · rfl
    · simp [trimmed.back c rest (List.concat_eq_append)]
  rw [trim, front, back, List.reverse_reverse]

theorem exists_white_dropWhile (cs : List Char) :
    ∃ front, IsWhite front ∧ cs = front ++ cs.dropWhile isWhiteSpace :=
  ⟨cs.takeWhile isWhiteSpace, fun _ hc => List.mem_takeWhile_imp hc, List.takeWhile_append_dropWhile.symm⟩

theorem padded_trim (cs : List Char) : Padded (trim cs) cs := by
  obtain ⟨front, hf, same⟩ := exists_white_dropWhile cs
  obtain ⟨back, hb, rest⟩ := exists_white_dropWhile (cs.dropWhile isWhiteSpace).reverse
  refine ⟨front, back.reverse, hf, isWhite_reverse hb, ?_⟩
  rw [trim, ← List.reverse_append, ← rest, List.reverse_reverse, ← same]

theorem trim_eq_nil_iff {cs : List Char} : trim cs = [] ↔ IsWhite cs := by
  refine ⟨fun empty => ?_, trim_of_isWhite⟩
  obtain ⟨front, back, hf, hb, same⟩ := padded_trim cs
  rw [empty, List.nil_append] at same
  rw [same]
  intro c hc
  exact (List.mem_append.mp hc).elim (hf c) (hb c)

/-- The ways to name a unit. -/
inductive SpellsUnit : TimeUnit → List Char → Prop
  | milliseconds : SpellsUnit .milliseconds ['m', 's']
  | seconds : SpellsUnit .seconds ['s']
  | unnamed : SpellsUnit .seconds []

/-- The ways to write a number of time units. -/
inductive SpellsDuration : Nat → TimeUnit → List Char → Prop
  | of {sign digits mark : List Char} {unit : TimeUnit} (hs : SpellsSign false sign)
      (hd : IsDigits digits) (hu : SpellsUnit unit mark) :
      SpellsDuration (ofDigits digits) unit (sign ++ digits ++ mark)

theorem isWhiteSpace_of_isDigit {c : Char} (h : c.isDigit = true) : isWhiteSpace c = false := by
  have range := toNat_range_of_isDigit h
  have low : '0'.toNat = 48 := rfl
  rw [low] at range
  have all : ∀ n, 48 ≤ n → n ≤ 57 → inRanges n whiteSpace = false := by
    intro n _ _
    simp [whiteSpace, inRanges]
    omega
  exact all c.toNat range.1 range.2

namespace IsDigits

variable {digits : List Char}

theorem exists_concat (h : IsDigits digits) : ∃ front d, digits = front ++ [d] ∧ d.isDigit = true := by
  obtain rfl | ⟨front, d, rfl⟩ := List.eq_nil_or_concat digits
  · exact absurd rfl h.some
  · rw [List.concat_eq_append] at h ⊢
    exact ⟨front, d, rfl, h.all d (by simp)⟩

theorem exists_cons (h : IsDigits digits) : ∃ d rest, digits = d :: rest ∧ d.isDigit = true := by
  obtain ⟨d, rest, rfl⟩ := List.exists_cons_of_ne_nil h.some
  exact ⟨d, rest, rfl, h.all d List.mem_cons_self⟩

end IsDigits

namespace SpellsDuration

variable {n : Nat} {unit : TimeUnit} {cs : List Char}

theorem isTrimmed (h : SpellsDuration n unit cs) : IsTrimmed cs := by
  obtain @⟨sign, digits, mark, _, hs, hd, hu⟩ := h
  constructor
  · intro c rest same
    obtain ⟨d, more, rfl, digit⟩ := hd.exists_cons
    cases hs with
    | absent =>
      cases same
      exact isWhiteSpace_of_isDigit digit
    | plus =>
      cases same
      rfl
  · intro c rest same
    obtain ⟨front, d, rfl, digit⟩ := hd.exists_concat
    cases hu with
    | milliseconds =>
      have last : sign ++ (front ++ [d]) ++ ['m', 's'] = sign ++ (front ++ [d]) ++ ['m'] ++ ['s'] := by simp
      rw [last] at same
      rw [← List.singleton_inj.mp (List.append_inj' same rfl).2]
      rfl
    | seconds =>
      rw [← List.singleton_inj.mp (List.append_inj' same rfl).2]
      rfl
    | unnamed =>
      rw [List.append_nil, ← List.append_assoc] at same
      rw [← List.singleton_inj.mp (List.append_inj' same rfl).2]
      exact isWhiteSpace_of_isDigit digit

end SpellsDuration

/-- Digits behind an optional plus sign are read, if they fit in sixty-four bits. -/
theorem parseCount_spelled {sign digits : List Char} (hs : SpellsSign false sign) (hd : IsDigits digits) :
    parseCount (sign ++ digits) =
      if ofDigits digits < 0x10000000000000000 then some (ofDigits digits) else none := by
  have given : ¬(digits.isEmpty = true ∨ ¬digits.all Char.isDigit = true) := by
    simpa [hd.some] using hd.all
  cases hs with
  | absent =>
    obtain ⟨d, rest, rfl, digit⟩ := hd.exists_cons
    have unsigned : d ≠ '+' := by
      rintro rfl
      cases digit
    simp only [List.nil_append, parseCount]
    split
    next more same =>
      cases same
      exact absurd rfl unsigned
    next => rw [if_neg given]
  | plus => simp only [List.cons_append, List.nil_append, parseCount, if_neg given]

theorem spelled_of_parseCount {cs : List Char} {n : Nat} (h : parseCount cs = some n) :
    ∃ sign digits, SpellsSign false sign ∧ IsDigits digits ∧ cs = sign ++ digits ∧
      n = ofDigits digits ∧ n < 0x10000000000000000 := by
  have read : ∀ digits : List Char, (if digits.isEmpty ∨ ¬digits.all Char.isDigit then none
      else if ofDigits digits < 0x10000000000000000 then some (ofDigits digits) else none) = some n →
      IsDigits digits ∧ n = ofDigits digits ∧ n < 0x10000000000000000 := by
    intro digits h
    split at h
    next => cases h
    next given =>
      split at h
      next fits =>
        cases h
        simp only [List.isEmpty_iff, not_or, not_not, List.all_eq_true] at given
        exact ⟨⟨given.1, given.2⟩, rfl, fits⟩
      next => cases h
  simp only [parseCount] at h
  split at h
  next rest =>
    obtain ⟨hd, value, fits⟩ := read rest h
    exact ⟨['+'], rest, .plus, hd, rfl, value, fits⟩
  next =>
    obtain ⟨hd, value, fits⟩ := read _ h
    exact ⟨[], _, .absent, hd, rfl, value, fits⟩

theorem splitUnit_spelled (front : List Char) {mark : List Char} {d : Char} {unit : TimeUnit}
    (digit : d.isDigit = true) (hu : SpellsUnit unit mark) : splitUnit (front ++ [d] ++ mark) = (front ++ [d], unit) := by
  have letters : d ≠ 'm' ∧ d ≠ 's' := by
    constructor <;>
    · rintro rfl
      cases digit
  cases hu with
  | milliseconds => simp [splitUnit]
  | seconds => simp [splitUnit, letters.1]
  | unnamed => simp [splitUnit, letters.2]

theorem spelled_of_splitUnit (cs : List Char) :
    ∃ mark, SpellsUnit (splitUnit cs).2 mark ∧ cs = (splitUnit cs).1 ++ mark := by
  have back : ∀ (front : List Char) {rest : List Char}, cs.reverse = front ++ rest →
      cs = rest.reverse ++ front.reverse := by
    intro front rest same
    rw [← List.reverse_append, ← same, List.reverse_reverse]
  unfold splitUnit
  split
  next rest same => exact ⟨_, .milliseconds, back ['s', 'm'] same⟩
  next rest same => exact ⟨_, .seconds, back ['s'] same⟩
  next => exact ⟨_, .unnamed, (List.append_nil _).symm⟩

theorem SpellsDuration.read {cs : List Char} {n : Nat} {unit : TimeUnit} (h : SpellsDuration n unit cs) :
    parseCount (splitUnit cs).1 = (if n < 0x10000000000000000 then some n else none) ∧
      (splitUnit cs).2 = unit := by
  obtain @⟨sign, digits, mark, _, hs, hd, hu⟩ := h
  have read := parseCount_spelled hs hd
  obtain ⟨front, d, rfl, digit⟩ := hd.exists_concat
  have split := splitUnit_spelled (sign ++ front) digit hu
  rw [List.append_assoc sign] at split
  rw [split]
  exact ⟨read, rfl⟩

theorem spelled_of_read {cs : List Char} {n : Nat} (h : parseCount (splitUnit cs).1 = some n) :
    SpellsDuration n (splitUnit cs).2 cs ∧ n < 0x10000000000000000 := by
  obtain ⟨mark, hu, same⟩ := spelled_of_splitUnit cs
  obtain ⟨sign, digits, hs, hd, front, rfl, fits⟩ := spelled_of_parseCount h
  rw [front] at same
  have spelled := SpellsDuration.of hs hd hu
  rw [← same] at spelled
  exact ⟨spelled, fits⟩

def emptyDuration : Failure :=
  .usage "duration must not be empty"

def zeroDuration : Failure :=
  .usage "duration must be greater than zero"

def invalidDuration (core : List Char) : Failure :=
  .usage ("invalid duration: " ++ String.ofList core)

theorem invalidDuration_ne (core : List Char) :
    invalidDuration core ≠ emptyDuration ∧ invalidDuration core ≠ zeroDuration := by
  have first : ∀ message : String, message.toList.head? = some 'd' → invalidDuration core ≠ .usage message := by
    intro message starts same
    have text := congrArg (fun f : Failure => f.message.toList.head?) same
    simp [invalidDuration, Failure.usage, starts] at text
  exact ⟨first _ (by decide), first _ (by decide)⟩

theorem zeroDuration_ne : zeroDuration ≠ emptyDuration := by
  decide

/-- A duration is empty, or its number and its unit are read from what is left without the white
space. -/
theorem parseDuration_eq (text : String) : parseDuration text =
    if trim text.toList = [] then .error emptyDuration
    else match parseCount (splitUnit (trim text.toList)).1 with
      | none => .error (invalidDuration (trim text.toList))
      | some 0 => .error zeroDuration
      | some n => .ok (n * (splitUnit (trim text.toList)).2.millis) := by
  simp only [parseDuration, List.isEmpty_iff]
  rfl

variable {text : String} {n : Nat} {unit : TimeUnit} {core : List Char}

theorem trim_of_spelled (padded : Padded core text.toList) (spelled : SpellsDuration n unit core) :
    trim text.toList = core := by
  obtain ⟨front, back, hf, hb, same⟩ := padded
  rw [same, trim_padded hf hb, trim_of_isTrimmed spelled.isTrimmed]

theorem SpellsDuration.ne_nil (h : SpellsDuration n unit core) : core ≠ [] := by
  obtain @⟨sign, digits, mark, _, hs, hd, hu⟩ := h
  simp [hd.some]

theorem parseDuration_of_white (white : IsWhite text.toList) :
    parseDuration text = .error emptyDuration := by
  rw [parseDuration_eq, if_pos (trim_of_isWhite white)]

theorem parseDuration_of_spelled (padded : Padded core text.toList)
    (spelled : SpellsDuration n unit core) :
    parseDuration text = if n = 0 then .error zeroDuration
      else if n < 0x10000000000000000 then .ok (n * unit.millis) else .error (invalidDuration core) := by
  obtain ⟨read, named⟩ := spelled.read
  rw [parseDuration_eq, trim_of_spelled padded spelled, if_neg spelled.ne_nil, read, named]
  by_cases fits : n < 0x10000000000000000
  · rw [if_pos fits, if_pos fits]
    cases n <;> rfl
  · rw [if_neg fits, if_neg fits, if_neg (by omega)]

theorem parseDuration_of_other (visible : ¬IsWhite text.toList)
    (other : ∀ n unit, SpellsDuration n unit (trim text.toList) → 0x10000000000000000 ≤ n) :
    parseDuration text = .error (invalidDuration (trim text.toList)) := by
  rw [parseDuration_eq, if_neg (mt trim_eq_nil_iff.mp visible)]
  cases read : parseCount (splitUnit (trim text.toList)).1 with
  | none => rfl
  | some n =>
    obtain ⟨spelled, fits⟩ := spelled_of_read read
    exact absurd fits (Nat.not_lt.mpr (other n _ spelled))

/-- What a text is for a duration: blank, a number of sixty-four bits with a unit, or neither. -/
theorem duration_cases (text : String) : IsWhite text.toList ∨
    (∃ n unit core, Padded core text.toList ∧ SpellsDuration n unit core ∧ n < 0x10000000000000000) ∨
    ¬IsWhite text.toList ∧
      ∀ n unit core, Padded core text.toList → SpellsDuration n unit core → 0x10000000000000000 ≤ n := by
  by_cases white : IsWhite text.toList
  · exact .inl white
  · by_cases spelled : ∃ n unit core, Padded core text.toList ∧ SpellsDuration n unit core ∧
        n < 0x10000000000000000
    · exact .inr (.inl spelled)
    · refine .inr (.inr ⟨white, fun n unit core padded spells => Nat.not_lt.mp fun fits => ?_⟩)
      exact spelled ⟨n, unit, core, padded, spells, fits⟩

/-- What a text is read as when a duration is wanted, told by what it spells. -/
structure ReadAsDuration (text : String) : Prop where
  accepted : ∀ ms, parseDuration text = .ok ms ↔ ∃ n unit core, Padded core text.toList ∧
    SpellsDuration n unit core ∧ 1 ≤ n ∧ n < 0x10000000000000000 ∧ ms = n * unit.millis
  fits : ∀ ms, parseDuration text = .ok ms → ms / 1000 < 0x10000000000000000
  blank : parseDuration text = .error emptyDuration ↔ IsWhite text.toList
  zero : parseDuration text = .error zeroDuration ↔
    ∃ unit core, Padded core text.toList ∧ SpellsDuration 0 unit core
  invalid : parseDuration text = .error (invalidDuration (trim text.toList)) ↔
    ¬IsWhite text.toList ∧
      ∀ n unit core, Padded core text.toList → SpellsDuration n unit core → 0x10000000000000000 ≤ n
  refused : ∀ f, parseDuration text = .error f → f.code = Failure.usageCode ∧
    (f = emptyDuration ∨ f = zeroDuration ∨ f = invalidDuration (trim text.toList))
  padding : ∀ front back, IsWhite front → IsWhite back →
    parseDuration (String.ofList (front ++ (text.toList ++ back))) = parseDuration text

theorem spelled_of_parseDuration {ms : Nat} (h : parseDuration text = .ok ms) :
    ∃ n unit core, Padded core text.toList ∧ SpellsDuration n unit core ∧ 1 ≤ n ∧
      n < 0x10000000000000000 ∧ ms = n * unit.millis := by
  rcases duration_cases text with white | ⟨n, unit, core, padded, spelled, fits⟩ | ⟨visible, other⟩
  · rw [parseDuration_of_white white] at h
    cases h
  · rw [parseDuration_of_spelled padded spelled, if_pos fits] at h
    split at h
    next => cases h
    next positive =>
      cases h
      exact ⟨n, unit, core, padded, spelled, Nat.pos_of_ne_zero positive, fits, rfl⟩
  · rw [parseDuration_of_other visible fun n unit => other n unit _ (padded_trim _)] at h
    cases h

/-- A text is refused for one of three reasons. -/
theorem refused_of_parseDuration {f : Failure} (h : parseDuration text = .error f) :
    (f = emptyDuration ∧ IsWhite text.toList) ∨
    (f = zeroDuration ∧ ∃ unit core, Padded core text.toList ∧ SpellsDuration 0 unit core) ∨
    (f = invalidDuration (trim text.toList) ∧ ¬IsWhite text.toList ∧
      ∀ n unit core, Padded core text.toList → SpellsDuration n unit core → 0x10000000000000000 ≤ n) := by
  rcases duration_cases text with white | ⟨n, unit, core, padded, spelled, fits⟩ | ⟨visible, other⟩
  · rw [parseDuration_of_white white] at h
    cases h
    exact .inl ⟨rfl, white⟩
  · rw [parseDuration_of_spelled padded spelled, if_pos fits] at h
    split at h
    next zero =>
      cases h
      exact .inr (.inl ⟨rfl, unit, core, padded, zero ▸ spelled⟩)
    next => cases h
  · rw [parseDuration_of_other visible fun n unit => other n unit _ (padded_trim _)] at h
    cases h
    exact .inr (.inr ⟨rfl, visible, other⟩)

theorem readAsDuration (text : String) : ReadAsDuration text where
  accepted ms := by
    refine ⟨spelled_of_parseDuration, ?_⟩
    rintro ⟨n, unit, core, padded, spelled, positive, fits, rfl⟩
    rw [parseDuration_of_spelled padded spelled, if_neg (by omega), if_pos fits]
  fits ms h := by
    obtain ⟨n, unit, -, -, -, -, fits, rfl⟩ := spelled_of_parseDuration h
    cases unit <;> simp only [TimeUnit.millis] <;> omega
  blank := by
    refine ⟨fun h => ?_, parseDuration_of_white⟩
    rcases refused_of_parseDuration h with ⟨-, white⟩ | ⟨same, -⟩ | ⟨same, -⟩
    · exact white
    · exact absurd same.symm zeroDuration_ne
    · exact absurd same.symm (invalidDuration_ne _).1
  zero := by
    constructor
    · intro h
      rcases refused_of_parseDuration h with ⟨same, -⟩ | ⟨-, spelled⟩ | ⟨same, -⟩
      · exact absurd same zeroDuration_ne
      · exact spelled
      · exact absurd same.symm (invalidDuration_ne _).2
    · rintro ⟨unit, core, padded, spelled⟩
      rw [parseDuration_of_spelled padded spelled, if_pos rfl]
  invalid := by
    constructor
    · intro h
      rcases refused_of_parseDuration h with ⟨same, -⟩ | ⟨same, -⟩ | ⟨-, other⟩
      · exact absurd same (invalidDuration_ne _).1
      · exact absurd same (invalidDuration_ne _).2
      · exact other
    · rintro ⟨visible, other⟩
      exact parseDuration_of_other visible fun n unit => other n unit _ (padded_trim _)
  refused f h := by
    rcases refused_of_parseDuration h with ⟨rfl, -⟩ | ⟨rfl, -⟩ | ⟨rfl, -⟩
    · exact ⟨rfl, .inl rfl⟩
    · exact ⟨rfl, .inr (.inl rfl)⟩
    · exact ⟨rfl, .inr (.inr rfl)⟩
  padding front back hf hb := by
    rw [parseDuration_eq, parseDuration_eq, String.toList_ofList, trim_padded hf hb]

theorem ofDigits_replicate_zero (k : Nat) (digits : List Char) :
    ofDigits (List.replicate k '0' ++ digits) = ofDigits digits := by
  induction k with
  | zero => rfl
  | succ k ih => exact ih

theorem IsDigits.zeros {digits : List Char} (h : IsDigits digits) (k : Nat) :
    IsDigits (List.replicate k '0' ++ digits) := by
  refine ⟨by simp [h.some], fun c hc => ?_⟩
  rcases List.mem_append.mp hc with zero | old
  · rw [List.eq_of_mem_replicate zero]
    rfl
  · exact h.all c old

theorem padded_self (cs : List Char) : Padded cs cs :=
  ⟨[], [], nofun, nofun, (List.append_nil cs).symm⟩

theorem parseDuration_ofList (spelled : SpellsDuration n unit core) :
    parseDuration (String.ofList core) = if n = 0 then .error zeroDuration
      else if n < 0x10000000000000000 then .ok (n * unit.millis) else .error (invalidDuration core) := by
  refine parseDuration_of_spelled ?_ spelled
  rw [String.toList_ofList]
  exact padded_self core

/-- Zeros in front of a number that fits in sixty-four bits, and of one that does not. -/
structure ZerosIgnored (sign digits mark : List Char) (k : Nat) : Prop where
  fitting : ofDigits digits < 0x10000000000000000 →
    parseDuration (String.ofList (sign ++ (List.replicate k '0' ++ digits) ++ mark)) =
      parseDuration (String.ofList (sign ++ digits ++ mark))
  exceeding : 0x10000000000000000 ≤ ofDigits digits →
    parseDuration (String.ofList (sign ++ (List.replicate k '0' ++ digits) ++ mark)) =
      .error (invalidDuration (sign ++ (List.replicate k '0' ++ digits) ++ mark))

theorem zerosIgnored {sign digits mark : List Char} (hs : SpellsSign false sign) (hd : IsDigits digits)
    (hu : SpellsUnit unit mark) (k : Nat) : ZerosIgnored sign digits mark k := by
  have padded := parseDuration_ofList (.of hs (hd.zeros k) hu)
  have plain := parseDuration_ofList (.of hs hd hu)
  rw [ofDigits_replicate_zero] at padded
  constructor
  · intro fits
    rw [padded, plain, if_pos fits, if_pos fits]
  · intro exceeds
    rw [padded, if_neg (by omega), if_neg (by omega)]

theorem parseDuration_decimal {mark : List Char} (positive : 1 ≤ n) (fits : n < 0x10000000000000000)
    (hu : SpellsUnit unit mark) :
    parseDuration (String.ofList (decimal n ++ mark)) = .ok (n * unit.millis) := by
  have spelled : SpellsDuration (ofDigits (decimal n)) unit ([] ++ decimal n ++ mark) :=
    .of .absent (isWholePart_decimal n).digits hu
  rw [ofDigits_decimal] at spelled
  have read := parseDuration_ofList spelled
  rwa [if_neg (by omega), if_pos fits] at read

/-- A duration is read from every text that spells one and from no other. White space around it and
zeros in front of its number do not count, and every number that is printed with a unit is read back. -/
theorem durations_spelled (text : String) : ReadAsDuration text ∧
    (∀ sign digits mark unit, SpellsSign false sign → IsDigits digits → SpellsUnit unit mark →
      ∀ k, ZerosIgnored sign digits mark k) ∧
    ∀ n unit mark, 1 ≤ n → n < 0x10000000000000000 → SpellsUnit unit mark →
      parseDuration (String.ofList (decimal n ++ mark)) = .ok (n * unit.millis) :=
  ⟨readAsDuration text, fun _ _ _ _ hs hd hu => zerosIgnored hs hd hu,
    fun _ _ _ positive fits => parseDuration_decimal positive fits⟩

/-- A duration with white space of more than one byte around it and a zero in front of its number. -/
def spacedDuration : String :=
  "\u2003+0150ms\n"

theorem spacedDuration_spelled : parseDuration spacedDuration = .ok 150 ∧
    parseDuration (String.ofList (decimal 0xFFFFFFFFFFFFFFFF ++ ['s'])) =
      .ok (0xFFFFFFFFFFFFFFFF * 1000) := by
  have same : "0150".toList = List.replicate 1 '0' ++ decimal 150 := by decide +kernel
  have digits : IsDigits "0150".toList := same ▸ (isWholePart_decimal 150).digits.zeros 1
  have spelled : SpellsDuration 150 .milliseconds "+0150ms".toList := .of .plus digits .milliseconds
  have padded : Padded "+0150ms".toList spacedDuration.toList :=
    ⟨['\u2003'], ['\n'], List.forall_mem_singleton.mpr (by decide),
      List.forall_mem_singleton.mpr (by decide), by decide⟩
  constructor
  · refine ((durations_spelled spacedDuration).1.accepted 150).mpr ?_
    exact ⟨150, .milliseconds, _, padded, spelled, by decide, by decide, rfl⟩
  · exact (durations_spelled spacedDuration).2.2 _ .seconds _ (by decide) (by decide) .seconds

end Telemux
