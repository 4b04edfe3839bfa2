import Telemux.Idna.CompositionTable
import Telemux.Idna.Records

namespace Telemux

def compositions : List (List Nat) := readRecords compositionRecords
def combiningClasses : List (List Nat) := readRecords combiningClassRecords

/-- How a character combines with the one in front of it; zero for those that stand on their own. -/
def combiningClass (c : Char) : Nat :=
  (rangeValue? combiningClasses c).getD 0

def viramaClass : Nat := 9

/-- A Hangul syllable is composed of a leading consonant, a vowel and perhaps a final consonant. -/
def hangulParts? (c : Char) : Option (List Char) :=
  let n := c.toNat
  if 0xAC00 ≤ n ∧ n < 0xAC00 + 11172 then
    let i := n - 0xAC00
    let final := if i % 28 = 0 then [] else [Char.ofNat (0x11A7 + i % 28)]
    some (Char.ofNat (0x1100 + i / 588) :: Char.ofNat (0x1161 + i % 588 / 28) :: final)
  else none

def composeHangul? (a b : Char) : Option Char :=
  let m := a.toNat
  let n := b.toNat
  if 0x1100 ≤ m ∧ m < 0x1113 ∧ 0x1161 ≤ n ∧ n < 0x1176 then
    some (Char.ofNat (0xAC00 + ((m - 0x1100) * 21 + (n - 0x1161)) * 28))
  else if 0xAC00 ≤ m ∧ m < 0xAC00 + 11172 ∧ (m - 0xAC00) % 28 = 0 ∧ 0x11A8 ≤ n ∧ n < 0x11C3 then
    some (Char.ofNat (m + (n - 0x11A7)))
  else none

def pairOf? (c : Char) : Option (Char × Char) :=
  compositions.findSome? fun
    | [whole, a, b] => if whole = c.toNat then some (Char.ofNat a, Char.ofNat b) else none
    | _ => none

def composePair? (a b : Char) : Option Char :=
  match composeHangul? a b with
  | some c => some c
  | none =>
    compositions.findSome? fun
      | [whole, x, y] => if x = a.toNat ∧ y = b.toNat then some (Char.ofNat whole) else none
      | _ => none

/-- Takes a character apart, in at most so many steps. -/
def decomposeChar (c : Char) : Nat → List Char
  | 0 => [c]
  | steps + 1 =>
    match hangulParts? c, pairOf? c with
    | some parts, _ => parts
    | none, some (a, b) => decomposeChar a steps ++ decomposeChar b steps
    | none, none => [c]

def maxDecomposition : Nat := 4

/-- Puts a mark behind the marks of lower classes that follow it. -/
def insertMark (c : Char) : List Char → List Char
  | [] => [c]
  | d :: ds =>
    if 0 < combiningClass d ∧ combiningClass d < combiningClass c then d :: insertMark c ds
    else c :: d :: ds

/-- The characters taken apart, with the marks on each in the order of their classes. -/
def decompose (cs : List Char) : List Char :=
  (cs.flatMap fun c => decomposeChar c maxDecomposition).foldr insertMark []

/-- Composes what follows a character with it. A mark is reached over marks of lower classes only. -/
def composeWith (base : Char) (between : List Char) (last : Nat) : List Char → List Char
  | [] => base :: between.reverse
  | c :: cs =>
    let whole := if between.isEmpty ∨ last < combiningClass c then composePair? base c else none
    match whole with
    | some whole => composeWith whole between last cs
    | none =>
      if combiningClass c = 0 then base :: (between.reverse ++ composeWith c [] 0 cs)
      else composeWith base (c :: between) (combiningClass c) cs

def compose : List Char → List Char
  | [] => []
  | c :: cs => if combiningClass c = 0 then composeWith c [] 0 cs else c :: compose cs

def normalize (cs : List Char) : List Char :=
  compose (decompose cs)

end Telemux
