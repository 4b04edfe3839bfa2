import Telemux.Idna.Composition
import Telemux.Idna.DirectionTable
import Telemux.Idna.Mapping

namespace Telemux

/-- The directions of writing that matter to a label. -/
inductive Direction where
  | left
  | right
  | arabic
  | arabicNumber
  | number
  | separator
  | terminator
  | neutral
  | boundary
  | mark
  deriving DecidableEq

namespace Direction

/-- Both kinds of separators are taken as one, because the rules do not tell them apart. -/
def ofNumber : Nat → Direction
  | 0 => .right
  | 1 => .arabic
  | 2 => .arabicNumber
  | 3 => .number
  | 4 | 5 => .separator
  | 6 => .terminator
  | 7 => .neutral
  | 8 => .boundary
  | _ => .mark

def isRightToLeft (d : Direction) : Bool :=
  d = .right || d = .arabic || d = .arabicNumber

end Direction

def directions : List (List Nat) := readRecords directionRecords
def joiningTypes : List (List Nat) := readRecords joiningRecords

def directionOf (c : Char) : Direction :=
  match rangeValue? directions c with
  | some n => .ofNumber n
  | none => .left

def hasRightToLeft (label : List Char) : Bool :=
  label.any fun c => (directionOf c).isRightToLeft

/-- Whether the order of the characters of a label is the same wherever it is shown. -/
def isDirectionSafe (label : List Char) : Bool :=
  let ds := label.map directionOf
  let last := ds.reverse.find? (· ≠ .mark)
  match ds with
  | [] => true
  | .left :: _ =>
    !ds.any Direction.isRightToLeft && (last = some .left || last = some .number)
  | first :: _ =>
    (first = .right || first = .arabic) && ds.all (· ≠ .left)
      && !(ds.contains .number && ds.contains .arabicNumber)
      && (last = some .right || last = some .arabic || last = some .number
        || last = some .arabicNumber)

def zeroWidthNonJoiner : Char := Char.ofNat 0x200C
def zeroWidthJoiner : Char := Char.ofNat 0x200D

def nextJoining? (cs : List Char) : Option Nat :=
  (cs.map (rangeValue? joiningTypes)).find? (· ≠ some 3) |>.join

/-- Whether a joiner behind `before`, the nearest character first, and in front of `after` does
something. -/
def isJoinerUseful (joiner : Char) (before after : List Char) : Bool :=
  (before.head?.any fun c => combiningClass c = viramaClass)
    || (joiner = zeroWidthNonJoiner
      && (nextJoining? before = some 0 || nextJoining? before = some 2)
      && (nextJoining? after = some 1 || nextJoining? after = some 2))

def areJoinersUseful (before : List Char) : List Char → Bool
  | [] => true
  | c :: cs =>
    ((c ≠ zeroWidthNonJoiner && c ≠ zeroWidthJoiner) || isJoinerUseful c before cs)
      && areJoinersUseful (c :: before) cs

def isSettled (label : List Char) : Bool :=
  mapDomain label = some label && normalize label = label

/-- The rules for a label in its readable form, apart from the directions of its neighbours. -/
def isValidLabel (label : List Char) : Bool :=
  isSettled label && !(label.head?.any isMark) && areJoinersUseful [] label && !label.contains '.'

end Telemux
