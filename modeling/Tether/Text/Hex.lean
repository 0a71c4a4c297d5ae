import Tether.Text.Utf8

namespace Tether

/-! # Hexadecimal text

Digits of either case are read; lower-case digits are written.
-/

namespace Hex

/-- The value of a hexadecimal digit of either case. -/
def digit? (c : Char) : Option Nat :=
  if '0' ≤ c ∧ c ≤ '9' then some (c.toNat - '0'.toNat)
  else if 'a' ≤ c ∧ c ≤ 'f' then some (c.toNat - 'a'.toNat + 10)
  else if 'A' ≤ c ∧ c ≤ 'F' then some (c.toNat - 'A'.toNat + 10)
  else none

/-- The value of digits read after `acc`. -/
def digitsFrom? (acc : Nat) : List Char → Option Nat
  | [] => some acc
  | c :: r => (digit? c).bind fun d => digitsFrom? (acc * 16 + d) r

/-- The digits of a natural number, without leading zeros. -/
def ofNat (n : Nat) : String := String.ofList (Nat.toDigits 16 n)

/-- The bytes that pairs of digits spell. -/
def bytes? : List Char → Option Bytes
  | [] => some []
  | a :: b :: r => do
    let high ← digit? a
    let low ← digit? b
    let rest ← bytes? r
    pure (UInt8.ofNat (high * 16 + low) :: rest)
  | [_] => none

/-- Two digits for each byte. -/
def ofBytes (bs : Bytes) : String :=
  String.ofList (bs.flatMap fun b => [Nat.digitChar (b.toNat / 16), Nat.digitChar (b.toNat % 16)])

end Hex

end Tether
