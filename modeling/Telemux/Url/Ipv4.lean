import Telemux.Number.Decimal
import Telemux.Text.Split
import Telemux.Url.Error
import Telemux.Url.Percent

namespace Telemux

/-- One part of an IPv4 address: hexadecimal behind `0x`, octal behind `0`, and decimal otherwise. -/
def ipv4Part? (cs : List Char) : Option Nat :=
  let inBase (base : Nat) (digits : List Char) : Option Nat :=
    digits.foldl (fun n c => do
      let n ← n
      let d ← hexDigitValue? c
      if d < base then some (base * n + d) else none) (some 0)
  match cs with
  | [] => none
  | '0' :: 'x' :: digits => inBase 16 digits
  | '0' :: 'X' :: digits => inBase 16 digits
  | '0' :: d :: digits => inBase 8 (d :: digits)
  | digits => inBase 10 digits

/-- The parts of a domain, without the empty one behind a final dot. -/
def domainParts (cs : List Char) : List (List Char) :=
  let parts := splitAtEvery '.' cs
  match parts.reverse with
  | [] :: (front@(_ :: _)) => front.reverse
  | _ => parts

/-- A domain whose last part is a number has to be an IPv4 address. -/
def endsInNumber (cs : List Char) : Bool :=
  match (domainParts cs).getLast? with
  | none => false
  | some [] => false
  | some last => last.all Char.isDigit || (ipv4Part? last).isSome

/-- Puts the numbers of an address together: all but the last are one byte each, and the last fills
the bytes that are left. -/
def ipv4OfParts? (parts : List Nat) : Option Nat :=
  match parts.reverse with
  | [] => none
  | last :: front =>
    if 3 < front.length ∨ Nat.pow 256 (4 - front.length) ≤ last ∨ front.any (255 < ·) then none
    else some (front.reverse.foldl (fun n b => 256 * n + b) 0 * Nat.pow 256 (4 - front.length) + last)

def parseIpv4 (cs : List Char) : Except UrlError Nat :=
  match (domainParts cs).mapM ipv4Part? with
  | none => .error .ipv4Address
  | some parts =>
    match ipv4OfParts? parts with
    | none => .error .ipv4Address
    | some n => .ok n

def ipv4Text (n : Nat) : List Char :=
  decimal (n / 0x1000000 % 256) ++ '.' :: decimal (n / 0x10000 % 256) ++ '.' ::
    decimal (n / 0x100 % 256) ++ '.' :: decimal (n % 256)

end Telemux
