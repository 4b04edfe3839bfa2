import Telemux.Json.Value
import Telemux.Number.Hexadecimal

namespace Telemux

/-- Why a text is not one JSON document: it goes wrong at some point, or it ends too early. -/
inductive ReadError where
  | malformed
  | truncated
  deriving DecidableEq

/-- Reads something at the front of a text and leaves the rest. -/
abbrev Reader (α : Type) := List Char → Except ReadError (α × List Char)

def maxNesting : Nat := 127

def isBlank (c : Char) : Bool :=
  c = ' ' || c = '\n' || c = '\t' || c = '\r'

def skipBlank : List Char → List Char
  | [] => []
  | c :: cs => if isBlank c then skipBlank cs else c :: cs

def readWord : List Char → List Char → Except ReadError (List Char)
  | [], cs => .ok cs
  | _ :: _, [] => .error .truncated
  | w :: ws, c :: cs => if c = w then readWord ws cs else .error .malformed

def codeUnit (a b c d : Char) : Option Nat := do
  let a ← hexDigitValue? a
  let b ← hexDigitValue? b
  let c ← hexDigitValue? c
  let d ← hexDigitValue? d
  some (((a * 16 + b) * 16 + c) * 16 + d)

def isHighSurrogate (unit : Nat) : Bool :=
  0xD800 ≤ unit && unit ≤ 0xDBFF

def isLowSurrogate (unit : Nat) : Bool :=
  0xDC00 ≤ unit && unit ≤ 0xDFFF

def surrogatePair (high low : Nat) : Char :=
  Char.ofNat (0x10000 + (high - 0xD800) * 0x400 + (low - 0xDC00))

def shortEscape : Char → Option Char
  | '"' => some '"'
  | '\\' => some '\\'
  | '/' => some '/'
  | 'b' => some '\x08'
  | 'f' => some '\x0c'
  | 'n' => some '\n'
  | 'r' => some '\r'
  | 't' => some '\t'
  | _ => none

def utf8Length (cs : List Char) : Nat :=
  cs.foldl (fun n c => n + c.utf8Size) 0

/-- A code unit is cut off when fewer than four bytes are left for it. -/
def brokenUnit (rest : List Char) : ReadError :=
  if utf8Length (rest.take 4) < 4 then .truncated else .malformed

/-- Reads a string behind its opening quote, in front of which `acc` was read, last character first.
A surrogate has to be written together with its partner. -/
def readString (acc : List Char) : List Char → Except ReadError (List Char × List Char)
  | [] => .error .truncated
  | '"' :: rest => .ok (acc.reverse, rest)
  | '\\' :: 'u' :: a :: b :: c :: d :: rest =>
    match codeUnit a b c d with
    | none => .error .malformed
    | some unit =>
      if isLowSurrogate unit then .error .malformed
      else if isHighSurrogate unit then
        match rest with
        | '\\' :: 'u' :: e :: f :: g :: h :: rest =>
          match codeUnit e f g h with
          | none => .error .malformed
          | some low =>
            if isLowSurrogate low then readString (surrogatePair unit low :: acc) rest
            else .error .malformed
        | '\\' :: 'u' :: rest => .error (brokenUnit rest)
        | ['\\'] => .error .truncated
        | [] => .error .truncated
        | _ => .error .malformed
      else readString (Char.ofNat unit :: acc) rest
  | '\\' :: 'u' :: rest => .error (brokenUnit rest)
  | ['\\'] => .error .truncated
  | '\\' :: e :: rest =>
    match shortEscape e with
    | none => .error .malformed
    | some c => readString (c :: acc) rest
  | c :: rest => if c.toNat < 0x20 then .error .malformed else readString (c :: acc) rest

def maxNatural : Nat := 0xFFFFFFFFFFFFFFFF

/-- The digits taken up so far as a number of sixty-four bits, and how many more digits in front of
the point were dropped because they no longer fitted. -/
def takeWhole (s : Scientific) (c : Char) : Scientific :=
  let next := 10 * s.digits + digitValue c
  if 0 < s.power ∨ maxNatural < next then ⟨s.digits, s.power + 1⟩ else ⟨next, 0⟩

/-- Takes up digits behind the point for as long as the number fits in sixty-four bits. -/
def takeFraction (s : Scientific) : List Char → Scientific
  | [] => s
  | c :: cs =>
    let next := 10 * s.digits + digitValue c
    if maxNatural < next then s else takeFraction ⟨next, s.power - 1⟩ cs

def readDigits (cs : List Char) : Except ReadError (List Char × List Char) :=
  let (digits, rest) := cs.span Char.isDigit
  match digits, rest with
  | [], [] => .error .truncated
  | [], _ => .error .malformed
  | _, _ => .ok (digits, rest)

def readFraction : List Char → Except ReadError (Option (List Char) × List Char)
  | '.' :: cs => do
    let (digits, rest) ← readDigits cs
    .ok (some digits, rest)
  | cs => .ok (none, cs)

def readExponent : List Char → Except ReadError (Option Int × List Char)
  | c :: cs =>
    if c = 'e' ∨ c = 'E' then do
      let (negative, cs) := match cs with
        | '+' :: cs => (false, cs)
        | '-' :: cs => (true, cs)
        | cs => (false, cs)
      let (digits, rest) ← readDigits cs
      let n : Int := ofDigits digits
      .ok (some (if negative then -n else n), rest)
    else .ok (none, c :: cs)
  | [] => .ok (none, [])

/-- A whole number in the range of signed or unsigned sixty-four bits. A minus sign in front of zero
needs a double. -/
def wholeNumber? (negative : Bool) (n : Nat) : Option Int :=
  if negative then
    if 0 < n ∧ n ≤ 0x8000000000000000 then some (-(n : Int)) else none
  else if n ≤ maxNatural then some n
  else none

/-- A number behind its sign. What is no whole number in range becomes a double, and a double out of
range is refused. -/
def readNumber (negative : Bool) : Reader Value := fun cs => do
  let (whole, rest) ← readDigits cs
  match whole with
  | '0' :: _ :: _ => .error .malformed
  | _ =>
    let (fraction, rest) ← readFraction rest
    let (exponent, rest) ← readExponent rest
    let asDouble (s : Scientific) : Except ReadError (Value × List Char) :=
      match Double.ofScientific? negative s with
      | some x => .ok (.number (.double x), rest)
      | none => .error .malformed
    let taken := whole.foldl takeWhole ⟨0, 0⟩
    match fraction, exponent with
    | none, none =>
      match wholeNumber? negative (ofDigits whole) with
      | some n => .ok (.number (.int n), rest)
      | none => asDouble taken
    | _, _ =>
      let s := takeFraction taken (fraction.getD [])
      asDouble ⟨s.digits, s.power + exponent.getD 0⟩

def readItems (read : Reader Value) (acc : List Value) : Nat → Reader Value
  | 0 => fun _ => .error .malformed
  | fuel + 1 => fun cs => do
    let (v, rest) ← read cs
    match skipBlank rest with
    | ',' :: rest => readItems read (v :: acc) fuel rest
    | ']' :: rest => .ok (.array (v :: acc).reverse, rest)
    | [] => .error .truncated
    | _ => .error .malformed

def readArray (read : Reader Value) (fuel : Nat) : Reader Value := fun cs =>
  match skipBlank cs with
  | ']' :: rest => .ok (.array [], rest)
  | cs => readItems read [] fuel cs

def readKey : Reader String := fun cs =>
  match skipBlank cs with
  | '"' :: cs => do
    let (key, rest) ← readString [] cs
    match skipBlank rest with
    | ':' :: rest => .ok (String.ofList key, rest)
    | [] => .error .truncated
    | _ => .error .malformed
  | [] => .error .truncated
  | _ => .error .malformed

/-- Fields up to the closing brace, the first of them at the front. A repeated key keeps its first
place and takes the last value. -/
def readFields (read : Reader Value) (acc : Fields) : Nat → Reader Value
  | 0 => fun _ => .error .malformed
  | fuel + 1 => fun cs => do
    let (key, rest) ← readKey cs
    let (v, rest) ← read rest
    match skipBlank rest with
    | ',' :: rest => readFields read (acc.put key v) fuel rest
    | '}' :: rest => .ok (.object (acc.put key v), rest)
    | [] => .error .truncated
    | _ => .error .malformed

def readObject (read : Reader Value) (fuel : Nat) : Reader Value := fun cs =>
  match skipBlank cs with
  | '}' :: rest => .ok (.object [], rest)
  | cs => readFields read [] fuel cs

def readWith (inArray inObject : Reader Value) : Reader Value := fun cs =>
  match skipBlank cs with
  | [] => .error .truncated
  | 'n' :: cs => do .ok (.null, ← readWord ['u', 'l', 'l'] cs)
  | 't' :: cs => do .ok (.bool true, ← readWord ['r', 'u', 'e'] cs)
  | 'f' :: cs => do .ok (.bool false, ← readWord ['a', 'l', 's', 'e'] cs)
  | '"' :: cs => do
    let (s, rest) ← readString [] cs
    .ok (.string (String.ofList s), rest)
  | '[' :: cs => inArray cs
  | '{' :: cs => inObject cs
  | '-' :: cs => readNumber true cs
  | c :: cs => if c.isDigit then readNumber false (c :: cs) else .error .malformed

/-- A value with at most `depth` arrays and objects inside one another. `fuel` bounds the number of
items of an array or object; the length of the text is enough. -/
def readValue (fuel : Nat) : (depth : Nat) → Reader Value
  | 0 => readWith (fun _ => .error .malformed) (fun _ => .error .malformed)
  | depth + 1 =>
    readWith (readArray (readValue fuel depth) fuel) (readObject (readValue fuel depth) fuel)

/-- Reads a text that is one JSON document and nothing more. -/
def Value.ofChars (cs : List Char) : Except ReadError Value := do
  let (v, rest) ← readValue (cs.length + 1) maxNesting cs
  match skipBlank rest with
  | [] => .ok v
  | _ => .error .malformed

def Value.read (text : String) : Except ReadError Value :=
  Value.ofChars text.toList

end Telemux
