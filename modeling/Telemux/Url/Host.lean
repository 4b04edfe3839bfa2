import Telemux.Url.Domain
import Telemux.Url.Ipv6
import Telemux.Url.Percent

namespace Telemux

inductive Host where
  | domain (name : List Char)
  | ipv4 (address : Nat)
  | ipv6 (groups : List Nat)
  deriving DecidableEq

namespace Host

def text : Host → List Char
  | .domain name => name
  | .ipv4 address => ipv4Text address
  | .ipv6 groups => '[' :: ipv6Text groups ++ [']']

def bracketed? : List Char → Option (Except UrlError (List Char))
  | '[' :: cs =>
    match cs.reverse with
    | ']' :: inside => some (.ok inside.reverse)
    | _ => some (.error .ipv6Address)
  | _ => none

/-- An IPv6 address in brackets, an IPv4 address, or a domain. -/
def parse (cs : List Char) : Except UrlError Host :=
  match bracketed? cs with
  | some inside => do .ok (.ipv6 (← parseIpv6 (← inside)))
  | none => do
    let name ← domainToAscii (percentDecode cs)
    if name.isEmpty then .error .emptyHost
    else if endsInNumber name then .ok (.ipv4 (← parseIpv4 name))
    else .ok (.domain name)

/-- The characters that a host without a meaning of its own may not hold. -/
def isForbiddenInOpaque (c : Char) : Bool :=
  ['\x00', '\t', '\n', '\r', ' ', '#', '/', ':', '<', '>', '?', '@', '[', '\\', ']', '^', '|'].contains c

def checkOpaque (cs : List Char) : Except UrlError Unit :=
  match bracketed? cs with
  | some inside => do
    let _ ← parseIpv6 (← inside)
    .ok ()
  | none => if cs.any isForbiddenInOpaque then .error .domainCharacter else .ok ()

end Host

end Telemux
