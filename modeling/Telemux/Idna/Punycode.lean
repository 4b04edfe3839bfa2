namespace Telemux

namespace Punycode

def digit (d : Nat) : Char :=
  if d < 26 then Char.ofNat ('a'.toNat + d) else Char.ofNat ('0'.toNat + (d - 26))

def digitValue? (c : Char) : Option Nat :=
  if 'a' ≤ c ∧ c ≤ 'z' then some (c.toNat - 'a'.toNat)
  else if 'A' ≤ c ∧ c ≤ 'Z' then some (c.toNat - 'A'.toNat)
  else if '0' ≤ c ∧ c ≤ '9' then some (c.toNat - '0'.toNat + 26)
  else none

/-- A digit below this value ends its number. -/
def threshold (bias weight : Nat) : Nat :=
  max 1 (min 26 (weight - bias))

theorem threshold_pos (bias weight : Nat) : 0 < threshold bias weight :=
  Nat.le_max_left _ _

def scaleBias (delta bias : Nat) : Nat :=
  if 455 < delta then scaleBias (delta / 35) (bias + 36) else bias + 36 * delta / (delta + 38)
termination_by delta
decreasing_by omega

/-- The bias for the next number, from the last one and the number of characters so far. -/
def adapt (delta count : Nat) (first : Bool) : Nat :=
  let delta := if first then delta / 700 else delta / 2
  scaleBias (delta + delta / count) 0

/-- A number in digits of mixed weight, the least significant one first. -/
def number (bias weight q : Nat) : List Char :=
  let t := threshold bias weight
  if q < t then [digit q]
  else digit (t + (q - t) % (36 - t)) :: number bias (weight + 36) ((q - t) / (36 - t))
termination_by q
decreasing_by
  have pos := threshold_pos bias weight
  have := Nat.div_le_self (q - threshold bias weight) (36 - threshold bias weight)
  omega

/-- What has been written, and from which character and place the next one is counted. -/
structure Writer where
  out : List Char
  delta : Nat
  bias : Nat
  written : Nat

/-- Passes one character of the text while those of one code are written. -/
def Writer.pass (basic code : Nat) (w : Writer) (c : Char) : Writer :=
  if c.toNat < code then { w with delta := w.delta + 1 }
  else if c.toNat = code then
    { out := w.out ++ number w.bias 36 w.delta
      delta := 0
      bias := adapt w.delta (w.written + 1) (w.written = basic)
      written := w.written + 1 }
  else w

/-- Writes the characters of the given codes, which are in ascending order. -/
def writeCodes (cs : List Char) (basic : Nat) (w : Writer) (next : Nat) : List Nat → Writer
  | [] => w
  | code :: codes =>
    let w := { w with delta := w.delta + (code - next) * (w.written + 1) }
    let w := cs.foldl (Writer.pass basic code) w
    writeCodes cs basic { w with delta := w.delta + 1 } (code + 1) codes

def encode (cs : List Char) : List Char :=
  let basic := cs.filter (·.toNat < 0x80)
  let codes := ((cs.map Char.toNat).filter (0x80 ≤ ·)).mergeSort.eraseDups
  let lead := if basic.isEmpty then [] else basic ++ ['-']
  lead ++ (writeCodes cs basic.length ⟨[], 0, 72, basic.length⟩ 0x80 codes).out

def readNumber (bias weight factor n : Nat) : List Char → Option (Nat × List Char)
  | [] => none
  | c :: cs => do
    let d ← digitValue? c
    if d < threshold bias weight then some (n + d * factor, cs)
    else readNumber bias (weight + 36) (factor * (36 - threshold bias weight)) (n + d * factor) cs

theorem length_of_readNumber {bias weight factor n : Nat} {cs : List Char} {r : Nat × List Char}
    (h : readNumber bias weight factor n cs = some r) : r.2.length < cs.length := by
  induction cs generalizing weight factor n with
  | nil => cases h
  | cons c cs ih =>
    unfold readNumber at h
    obtain ⟨d, -, h⟩ := Option.bind_eq_some_iff.mp h
    split at h
    next =>
      cases h
      exact Nat.lt_succ_self _
    next => exact Nat.lt_succ_of_lt (ih h)

/-- Puts the characters that the numbers stand for into their places. -/
def readCodes (out : List Char) (code place bias : Nat) (cs : List Char) : Option (List Char) :=
  if cs.isEmpty then some out
  else
    match h : readNumber bias 36 1 place cs with
    | none => none
    | some (n, rest) =>
      let count := out.length + 1
      let code := code + n / count
      if code.isValidChar then
        have : rest.length < cs.length := length_of_readNumber h
        readCodes (out.insertIdx (n % count) (Char.ofNat code)) code (n % count + 1)
          (adapt (n - place) count (place = 0)) rest
      else none
termination_by cs.length

/-- Cuts a text at its last hyphen, unless that is its first character. -/
def splitBasic (cs : List Char) : List Char × List Char :=
  match cs.reverse.span (· != '-') with
  | (tail, _ :: head@(_ :: _)) => (head.reverse, tail.reverse)
  | _ => ([], cs)

def decode? (cs : List Char) : Option (List Char) :=
  let (basic, rest) := splitBasic cs
  if basic.all (·.toNat < 0x80) then readCodes basic 0x80 0 72 rest else none

end Punycode

end Telemux
