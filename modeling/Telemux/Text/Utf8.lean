namespace Telemux

def utf8Bytes (c : Char) : List Nat :=
  let n := c.toNat
  if n < 0x80 then [n]
  else if n < 0x800 then [0xC0 + n / 0x40, 0x80 + n % 0x40]
  else if n < 0x10000 then [0xE0 + n / 0x1000, 0x80 + n / 0x40 % 0x40, 0x80 + n % 0x40]
  else [0xF0 + n / 0x40000, 0x80 + n / 0x1000 % 0x40, 0x80 + n / 0x40 % 0x40, 0x80 + n % 0x40]

/-- The payload of a byte that continues a character. -/
def continuation? (b : Nat) : Option Nat :=
  if 0x80 ≤ b ∧ b < 0xC0 then some (b - 0x80) else none

/-- A character whose code needs at least the given value, so that it has no shorter form. -/
def codePoint? (least n : Nat) : Option Char :=
  if least ≤ n ∧ n.isValidChar then some (Char.ofNat n) else none

/-- Reads bytes as UTF-8. Overlong forms and surrogates are refused. -/
def utf8Chars? : List Nat → Option (List Char)
  | [] => some []
  | b :: rest =>
    if b < 0x80 then do
      let cs ← utf8Chars? rest
      some (Char.ofNat b :: cs)
    else if b < 0xC0 then none
    else if b < 0xE0 then
      match rest with
      | b1 :: rest => do
        let n1 ← continuation? b1
        let c ← codePoint? 0x80 ((b - 0xC0) * 0x40 + n1)
        let cs ← utf8Chars? rest
        some (c :: cs)
      | _ => none
    else if b < 0xF0 then
      match rest with
      | b1 :: b2 :: rest => do
        let n1 ← continuation? b1
        let n2 ← continuation? b2
        let c ← codePoint? 0x800 ((b - 0xE0) * 0x1000 + n1 * 0x40 + n2)
        let cs ← utf8Chars? rest
        some (c :: cs)
      | _ => none
    else if b < 0xF8 then
      match rest with
      | b1 :: b2 :: b3 :: rest => do
        let n1 ← continuation? b1
        let n2 ← continuation? b2
        let n3 ← continuation? b3
        let c ← codePoint? 0x10000 ((b - 0xF0) * 0x40000 + n1 * 0x1000 + n2 * 0x40 + n3)
        let cs ← utf8Chars? rest
        some (c :: cs)
      | _ => none
    else none

end Telemux
