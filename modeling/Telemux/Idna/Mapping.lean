import Telemux.Idna.MappingTable
import Telemux.Idna.Records
import Telemux.Idna.StatusTable

namespace Telemux

def singleMappings : List (List Nat) := readRecords singleMappingRecords
def sequenceMappings : List (List Nat) := readRecords sequenceMappingRecords
def disallowedRanges : List (List Nat) := readRecords disallowedRecords
def ignoredRanges : List (List Nat) := readRecords ignoredRecords
def markRanges : List (List Nat) := readRecords markRecords

def singleMapping? (c : Char) : Option Char :=
  singleMappings.findSome? fun
    | [first, count, stride, target] =>
      let i := c.toNat - first
      if first ≤ c.toNat ∧ i < count * stride ∧ i % stride = 0 then some (Char.ofNat (target + i))
      else none
    | _ => none

def sequenceMapping? (c : Char) : Option (List Char) :=
  sequenceMappings.findSome? fun
    | first :: targets => if first = c.toNat then some (targets.map Char.ofNat) else none
    | [] => none

def isMark (c : Char) : Bool :=
  inRecords markRanges c

/-- What a character of a domain stands for, if a domain may hold it. -/
def mapDomainChar (c : Char) : Option (List Char) :=
  match singleMapping? c, sequenceMapping? c with
  | some d, _ => some [d]
  | none, some ds => some ds
  | none, none =>
    if inRecords ignoredRanges c then some []
    else if inRecords disallowedRanges c then none
    else some [c]

def mapDomain (cs : List Char) : Option (List Char) :=
  (cs.mapM mapDomainChar).map List.flatten

end Telemux
