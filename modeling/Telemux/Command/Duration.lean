import Telemux.Command.Failure
import Telemux.Number.Decimal
import Telemux.Text.Blank

namespace Telemux

/-- The units of a duration: no unit means seconds. -/
inductive TimeUnit where
  | milliseconds
  | seconds
  deriving DecidableEq

def TimeUnit.millis : TimeUnit → Nat
  | .milliseconds => 1
  | .seconds => 1000

def splitUnit (cs : List Char) : List Char × TimeUnit :=
  match cs.reverse with
  | 's' :: 'm' :: number => (number.reverse, .milliseconds)
  | 's' :: number => (number.reverse, .seconds)
  | _ => (cs, .seconds)

/-- Reads a number of sixty-four bits; a plus sign may stand in front of it. -/
def parseCount (cs : List Char) : Option Nat :=
  let digits := match cs with
    | '+' :: rest => rest
    | _ => cs
  if digits.isEmpty ∨ ¬ digits.all Char.isDigit then none
  else if ofDigits digits < 0x10000000000000000 then some (ofDigits digits)
  else none

def parseDuration (text : String) : Except Failure Nat :=
  let trimmed := trim text.toList
  if trimmed.isEmpty then .error (.usage "duration must not be empty")
  else
    let (number, unit) := splitUnit trimmed
    match parseCount number with
    | none => .error (.usage ("invalid duration: " ++ String.ofList trimmed))
    | some 0 => .error (.usage "duration must be greater than zero")
    | some n => .ok (n * unit.millis)

end Telemux
