import Telemux.Number.Hexadecimal
import Telemux.Text.Utf8

namespace Telemux

def percentByte (b : Nat) : List Char :=
  ['%', upperHexChar (b / 16), upperHexChar (b % 16)]

/-- The printable ASCII characters that are encoded in one part of a URL. Controls and characters
above ASCII are encoded everywhere. -/
abbrev EncodeSet := List Char

namespace EncodeSet

def fragment : EncodeSet := [' ', '"', '<', '>', '`']

def query : EncodeSet := [' ', '"', '#', '<', '>', '\'']

def path : EncodeSet := fragment ++ ['#', '?', '\x7b', '\x7d']

def userinfo : EncodeSet := path ++ ['/', ':', ';', '=', '@', '[', '\\', ']', '^', '|']

end EncodeSet

def mustEncode (set : EncodeSet) (c : Char) : Bool :=
  c.toNat < 0x20 || 0x7E < c.toNat || set.contains c

/-- Writes a character as itself or as the percent signs of its UTF-8 bytes. -/
def percentEncodeChar (set : EncodeSet) (c : Char) : List Char :=
  if mustEncode set c then (utf8Bytes c).flatMap percentByte else [c]

def percentEncode (set : EncodeSet) (cs : List Char) : List Char :=
  cs.flatMap (percentEncodeChar set)

/-- The bytes of a text in which a percent sign and two hexadecimal digits stand for one byte. Any
other percent sign stands for itself. -/
def percentDecode : List Char → List Nat
  | [] => []
  | '%' :: a :: b :: rest =>
    match hexDigitValue? a, hexDigitValue? b with
    | some x, some y => (16 * x + y) :: percentDecode rest
    | _, _ => utf8Bytes '%' ++ percentDecode (a :: b :: rest)
  | c :: rest => utf8Bytes c ++ percentDecode rest

end Telemux
