import Telemux.Url.Ipv4

namespace Telemux

/-- The groups read so far of an IPv6 address, and how many of them stand in front of the gap that
two colons leave. -/
structure Ipv6Groups where
  groups : List Nat
  gap : Option Nat

/-- Up to four hexadecimal digits, their count, and the rest. -/
def takeHexGroup : Nat → List Char → Nat × Nat × List Char
  | 0, cs => (0, 0, cs)
  | _ + 1, [] => (0, 0, [])
  | left + 1, c :: cs =>
    match hexDigitValue? c with
    | none => (0, 0, c :: cs)
    | some d =>
      let (value, count, rest) := takeHexGroup left cs
      (d * 16 ^ count + value, count + 1, rest)

def embeddedByte? (cs : List Char) : Option Nat :=
  match cs with
  | [] => none
  | '0' :: _ :: _ => none
  | _ => if cs.all Char.isDigit ∧ cs.length ≤ 3 ∧ ofDigits cs ≤ 255 then some (ofDigits cs) else none

/-- The two groups of an IPv4 address at the end of an IPv6 address. -/
def embeddedIpv4? (cs : List Char) : Option (List Nat) :=
  match (splitAtEvery '.' cs).mapM embeddedByte? with
  | some [a, b, c, d] => some [256 * a + b, 256 * c + d]
  | _ => none

/-- Reads groups from the front of a text; `fuel` bounds their number. -/
def readIpv6Groups (found : Ipv6Groups) : Nat → List Char → Option Ipv6Groups
  | 0, cs => if cs.isEmpty then some found else none
  | _ + 1, [] => some found
  | fuel + 1, ':' :: cs =>
    if found.gap.isSome then none
    else readIpv6Groups { found with gap := some found.groups.length } fuel cs
  | fuel + 1, cs =>
    if found.groups.length + (if found.gap.isSome then 1 else 0) = 8 then none
    else
      let (value, count, rest) := takeHexGroup 4 cs
      match rest with
      | [] => readIpv6Groups { found with groups := found.groups ++ [value] } fuel []
      | '.' :: _ =>
        if count = 0 ∨ 6 < found.groups.length + (if found.gap.isSome then 1 else 0) then none
        else (embeddedIpv4? cs).map fun last => { found with groups := found.groups ++ last }
      | ':' :: rest =>
        if rest.isEmpty then none
        else readIpv6Groups { found with groups := found.groups ++ [value] } fuel rest
      | _ => none

def parseIpv6 (cs : List Char) : Except UrlError (List Nat) :=
  let found? := match cs with
    | ':' :: ':' :: rest => readIpv6Groups ⟨[], some 0⟩ 17 rest
    | ':' :: _ => none
    | [] => none
    | [_] => none
    | _ => readIpv6Groups ⟨[], none⟩ 17 cs
  match found? with
  | none => .error .ipv6Address
  | some ⟨groups, none⟩ => if groups.length = 8 then .ok groups else .error .ipv6Address
  | some ⟨groups, some gap⟩ =>
    if groups.length ≤ 7 then
      .ok (groups.take gap ++ List.replicate (8 - groups.length) 0 ++ groups.drop gap)
    else .error .ipv6Address

def leadingZeros : List Nat → Nat
  | 0 :: rest => leadingZeros rest + 1
  | _ => 0

/-- Where the longest run of zeros starts, and its length; the first of several. -/
def longestZeros : List Nat → Nat × Nat
  | [] => (0, 0)
  | g :: rest =>
    let here := leadingZeros (g :: rest)
    let (start, length) := longestZeros rest
    if length ≤ here then (0, here) else (start + 1, length)

def hexGroup (n : Nat) : List Char :=
  (Nat.toDigits 16 n)

def joinGroups (groups : List Nat) : List Char :=
  [':'].intercalate (groups.map hexGroup)

/-- Groups in hexadecimal with colons between them; two or more zeros in a row become a gap. -/
def ipv6Text (groups : List Nat) : List Char :=
  let (start, length) := longestZeros groups
  if length < 2 then joinGroups groups
  else joinGroups (groups.take start) ++ ':' :: ':' :: joinGroups (groups.drop (start + length))

end Telemux
