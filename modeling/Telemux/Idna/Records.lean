import Telemux.Number.Hexadecimal

namespace Telemux

def readRecordsFrom (fields : List Nat) (n : Nat) : List Char → List (List Nat)
  | [] => []
  | c :: cs =>
    if c = ';' then (n :: fields).reverse :: readRecordsFrom [] 0 cs
    else if c = ',' then readRecordsFrom (n :: fields) 0 cs
    else
      match hexDigitValue? c with
      | some d => readRecordsFrom fields (16 * n + d) cs
      | none => readRecordsFrom fields n cs

/-- Records of hexadecimal numbers: a comma ends a number, and a semicolon a record. Line breaks and
blanks are passed over. -/
def readRecords (text : String) : List (List Nat) :=
  readRecordsFrom [] 0 text.toList

/-- The number that stands for a range, if the character lies in one of the ranges. -/
def rangeValue? (records : List (List Nat)) (c : Char) : Option Nat :=
  records.findSome? fun
    | [low, high, value] => if low ≤ c.toNat ∧ c.toNat ≤ high then some value else none
    | _ => none

def inRecords (records : List (List Nat)) (c : Char) : Bool :=
  records.any fun
    | [low, high] => low ≤ c.toNat && c.toNat ≤ high
    | _ => false

end Telemux
