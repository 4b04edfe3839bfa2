import Telemux.Json.Value
import Telemux.Number.Hexadecimal

namespace Telemux

/-- A character inside a JSON string: only the quote, the backslash and the control characters are
escaped, with a short form where there is one. -/
def escapeChar (c : Char) : List Char :=
  if c = '"' then ['\\', '"']
  else if c = '\\' then ['\\', '\\']
  else if c = '\x08' then ['\\', 'b']
  else if c = '\x0c' then ['\\', 'f']
  else if c = '\n' then ['\\', 'n']
  else if c = '\r' then ['\\', 'r']
  else if c = '\t' then ['\\', 't']
  else if c.toNat < 0x20 then ['\\', 'u', '0', '0', hexChar (c.toNat / 16), hexChar (c.toNat % 16)]
  else [c]

def quoted (s : String) : List Char :=
  '"' :: (s.toList.flatMap escapeChar ++ ['"'])

def Number.text : Number → List Char
  | .int n => signedDecimal n
  | .double x => x.text

namespace Value

mutual

/-- The compact text: no blanks, keys in their order. -/
def chars : Value → List Char
  | .null => ['n', 'u', 'l', 'l']
  | .bool true => ['t', 'r', 'u', 'e']
  | .bool false => ['f', 'a', 'l', 's', 'e']
  | .number n => n.text
  | .string s => quoted s
  | .array xs => '[' :: itemsChars xs ++ [']']
  | .object fs => '{' :: fieldsChars fs ++ ['}']

def itemsChars : List Value → List Char
  | [] => []
  | [x] => chars x
  | x :: xs => chars x ++ ',' :: itemsChars xs

def fieldsChars : Fields → List Char
  | [] => []
  | [(k, x)] => quoted k ++ ':' :: chars x
  | (k, x) :: fs => quoted k ++ ':' :: (chars x ++ ',' :: fieldsChars fs)

end

def compact (v : Value) : String :=
  String.ofList v.chars

def newline (depth : Nat) : List Char :=
  '\n' :: List.replicate (2 * depth) ' '

mutual

/-- The text over several lines, two spaces deeper with every array and object. An empty array or
object stays on its line. -/
def prettyChars (depth : Nat) : Value → List Char
  | .array [] => ['[', ']']
  | .array xs => '[' :: prettyItems (depth + 1) xs ++ newline depth ++ [']']
  | .object [] => ['{', '}']
  | .object fs => '{' :: prettyFields (depth + 1) fs ++ newline depth ++ ['}']
  | .null => chars .null
  | .bool b => chars (.bool b)
  | .number n => chars (.number n)
  | .string s => chars (.string s)

def prettyItems (depth : Nat) : List Value → List Char
  | [] => []
  | [x] => newline depth ++ prettyChars depth x
  | x :: xs => newline depth ++ prettyChars depth x ++ ',' :: prettyItems depth xs

def prettyFields (depth : Nat) : Fields → List Char
  | [] => []
  | [(k, x)] => newline depth ++ quoted k ++ ':' :: ' ' :: prettyChars depth x
  | (k, x) :: fs =>
    newline depth ++ quoted k ++ ':' :: ' ' :: (prettyChars depth x ++ ',' :: prettyFields depth fs)

end

def pretty (v : Value) : String :=
  String.ofList (v.prettyChars 0)

end Value

end Telemux
