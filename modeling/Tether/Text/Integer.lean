namespace Tether

/-! # Whole numbers as text

Reads and writes numbers in decimal. A reader takes the whole text or nothing: an optional sign, then at
least one digit, then the end, and the value must lie in the range asked for. Leading zeros are allowed.
-/

namespace Decimal

/-- The value of an ASCII digit. -/
def digit? (c : Char) : Option Nat :=
  if '0' ≤ c ∧ c ≤ '9' then some (c.toNat - '0'.toNat) else none

/-- The value of digits read after `acc`. -/
def digitsFrom? (acc : Nat) : List Char → Option Nat
  | [] => some acc
  | c :: r => (digit? c).bind fun d => digitsFrom? (acc * 10 + d) r

/-- The value of a non-empty run of digits. -/
def digits? (cs : List Char) : Option Nat :=
  if cs.isEmpty then none else digitsFrom? 0 cs

/-- A number from zero to `limit`, with an optional plus sign. -/
def natural? (limit : Nat) (cs : List Char) : Option Nat :=
  let body := match cs with
    | '+' :: r => r
    | _ => cs
  (digits? body).bind fun n => if n ≤ limit then some n else none

/-- A number in the signed 64-bit range, with an optional sign. -/
def int64? (cs : List Char) : Option Int64 :=
  let signed : Option Int := match cs with
    | '-' :: r => (digits? r).map fun n => -(n : Int)
    | '+' :: r => (digits? r).map Int.ofNat
    | _ => (digits? cs).map Int.ofNat
  signed.bind fun i => if Int64.minValue.toInt ≤ i ∧ i ≤ Int64.maxValue.toInt then some (Int64.ofInt i) else none

/-- The value of digits that may have underscores between and behind them. -/
def grouped? (cs : List Char) : Option Nat :=
  if cs.head? = some '_' then none else digits? (cs.filter (· ≠ '_'))

/-- A number of any size, with an optional sign; a minus sign and a plus sign exclude each other. -/
def integer? (cs : List Char) : Option Int :=
  match cs with
  | '-' :: r => (grouped? r).map fun n => -(n : Int)
  | '+' :: r => (grouped? r).map Int.ofNat
  | _ => (grouped? cs).map Int.ofNat

/-- The plain decimal text of a natural number. -/
def ofNat (n : Nat) : String := toString n

/-- At least `width` digits, with zeros in front. -/
def padded (width n : Nat) : List Char :=
  let digits := Nat.toDigits 10 n
  List.replicate (width - digits.length) '0' ++ digits

/-- The plain decimal text of an integer, with a minus sign when it is negative. -/
def ofInt (i : Int) : String := if i < 0 then "-" ++ toString i.natAbs else toString i.natAbs

end Decimal

end Tether
