import Tether.Text.Hex

namespace Tether

/-! # Percent escapes

A `%` and two hexadecimal digits stand for one byte. Reading leaves a `%` without two digits as it is;
writing escapes the bytes that a host may not hold as they are.
-/

namespace Percent

/-- The bytes with every escape replaced by the byte it stands for. -/
def decode : Bytes → Bytes
  | [] => []
  | [a] => [a]
  | [a, b] => [a, b]
  | a :: b :: c :: r =>
    if a = 0x25 then
      match Hex.digit? (Char.ofNat b.toNat), Hex.digit? (Char.ofNat c.toNat) with
      | some high, some low => UInt8.ofNat (high * 16 + low) :: decode r
      | _, _ => a :: decode (b :: c :: r)
    else a :: decode (b :: c :: r)

/-- An upper-case hexadecimal digit. -/
def upperDigit (n : Nat) : Char := (Nat.digitChar n).toUpper

/-- The escape for one byte. -/
def escape (b : UInt8) : List Char := ['%', upperDigit (b.toNat / 16), upperDigit (b.toNat % 16)]

/-- A character with its bytes escaped if it is a control character or not ASCII. -/
def encodeControl (c : Char) : List Char :=
  if c.toNat < 0x20 ∨ 0x7E < c.toNat then (String.utf8EncodeChar c).flatMap escape else [c]

/-- A form value: plus signs stand for spaces, escapes for bytes, and what is not UTF-8 reads as U+FFFD. -/
def formText (cs : List Char) : String :=
  Utf8.decodeLossy (decode ((Utf8.encode (String.ofList cs)).map fun b => if b = 0x2B then 0x20 else b))

end Percent

end Tether
