import Telemux.Idna.Label
import Telemux.Idna.Punycode
import Telemux.Text.Split
import Telemux.Text.Utf8
import Telemux.Url.Error

namespace Telemux

def isForbiddenInDomain (c : Char) : Bool :=
  c.toNat ≤ 0x20 || c.toNat = 0x7F
    || ['%', '#', '/', ':', '<', '>', '?', '@', '[', '\\', ']', '^', '|'].contains c

def isAscii (c : Char) : Bool :=
  c.toNat < 0x80

/-- What stands in front of the ASCII form of an international label. -/
def encodedMark : List Char := ['x', 'n', '-', '-']

def isEncodedLabel (label : List Char) : Bool :=
  (label.take 4).map Char.toLower = encodedMark

/-- A domain of ASCII characters is written in lower case. -/
def asciiDomain (cs : List Char) : Except UrlError (List Char) :=
  if cs.any isForbiddenInDomain then .error .domainName else .ok (cs.map Char.toLower)

/-- The readable form of a label in its ASCII form, which has to be in need of that form. -/
def decodeLabel? (label : List Char) : Option (List Char) :=
  if isEncodedLabel label then do
    let decoded ← Punycode.decode? (label.drop 4)
    if decoded.all isAscii then none else some decoded
  else some label

def encodeLabel (label : List Char) : List Char :=
  if label.all isAscii then label else encodedMark ++ Punycode.encode label

/-- The ASCII form of an international domain. Its characters are mapped to those that they stand for,
and every label has to keep the rules in its readable form. -/
def internationalDomain? (cs : List Char) : Option (List Char) := do
  let mapped ← mapDomain cs
  let labels := splitAtEvery '.' (normalize mapped)
  let readable ← labels.mapM decodeLabel?
  if readable.all isValidLabel ∧ ¬ readable.any (·.any isForbiddenInDomain)
      ∧ (¬ readable.any hasRightToLeft ∨ readable.all isDirectionSafe) then
    some ((labels.map encodeLabel).intersperse ['.']).flatten
  else none

def domainToAscii (bytes : List Nat) : Except UrlError (List Char) :=
  match utf8Chars? bytes with
  | none => .error .domainName
  | some cs =>
    if cs.all isAscii ∧ ¬ (splitAtEvery '.' cs).any isEncodedLabel then asciiDomain cs
    else
      match internationalDomain? cs with
      | some name => .ok name
      | none => .error .domainName

end Telemux
