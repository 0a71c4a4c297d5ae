namespace Tether

/-! # Double-precision numbers

A number is its 64-bit word. All arithmetic is exact, on natural numbers, and ends in one rounding to the
nearest representable value, ties to the even one: `Binary64.ofQuotient`.
-/

/-- A double-precision binary number, as its word. -/
structure Binary64 where
  bits : UInt64
deriving DecidableEq, Repr, Inhabited

namespace Binary64

/-- The sign bit. -/
def isNegative (x : Binary64) : Bool := Nat.pow 2 63 ≤ x.bits.toNat

/-- The eleven exponent bits. -/
def exponentBits (x : Binary64) : Nat := x.bits.toNat / Nat.pow 2 52 % Nat.pow 2 11

/-- The fifty-two fraction bits. -/
def fractionBits (x : Binary64) : Nat := x.bits.toNat % Nat.pow 2 52

/-- Neither an infinity nor a NaN. -/
def isFinite (x : Binary64) : Bool := x.exponentBits != 2047

/-- Not a number. -/
def isNaN (x : Binary64) : Bool := x.exponentBits = 2047 && x.fractionBits != 0

/-- The whole number `m` of the magnitude `m * 2 ^ e` of a finite number. -/
def mantissa (x : Binary64) : Nat :=
  if x.exponentBits = 0 then x.fractionBits else x.fractionBits + Nat.pow 2 52

/-- The power `e` of the magnitude `m * 2 ^ e` of a finite number. -/
def power (x : Binary64) : Int :=
  if x.exponentBits = 0 then -1074 else (x.exponentBits : Int) - 1075

/-- The magnitude of a finite number is zero. -/
def isZero (x : Binary64) : Bool := x.isFinite && x.mantissa = 0

/-- The magnitude of a finite number as a quotient. -/
def quotient (x : Binary64) : Nat × Nat :=
  if 0 ≤ x.power then (x.mantissa * Nat.pow 2 x.power.toNat, 1) else (x.mantissa, Nat.pow 2 (-x.power).toNat)

/-- The number with these magnitude bits and this sign. -/
def ofMagnitudeBits (negative : Bool) (magnitude : Nat) : Binary64 :=
  ⟨UInt64.ofNat (if negative then Nat.pow 2 63 + magnitude else magnitude)⟩

/-- Zero of either sign. -/
def zero (negative : Bool) : Binary64 := ofMagnitudeBits negative 0

/-- Infinity of either sign. -/
def infinity (negative : Bool) : Binary64 := ofMagnitudeBits negative (2047 * Nat.pow 2 52)

/-- The number that is no number. -/
def nan : Binary64 := ofMagnitudeBits false (2047 * Nat.pow 2 52 + Nat.pow 2 51)

/-- The quotient in units of `2 ^ e`, rounded to the nearest whole number, ties to the even one. -/
def roundedAt (num den : Nat) (e : Int) : Nat :=
  let n := if e < 0 then num * Nat.pow 2 (-e).toNat else num
  let d := if e < 0 then den else den * Nat.pow 2 e.toNat
  let q := n / d
  let r := n % d
  if 2 * r < d then q else if d < 2 * r then q + 1 else q + q % 2

/-- The least power `e` with `num / den < 2 ^ (e + 53)`, but no less than that of the smallest numbers. -/
def powerFor (num den : Nat) : Int :=
  let guess : Int := (Nat.log2 num : Int) - Nat.log2 den - 53
  let fits (e : Int) : Bool :=
    if e + 53 < 0 then num * Nat.pow 2 (-(e + 53)).toNat < den else num < den * Nat.pow 2 (e + 53).toNat
  max (-1074) (if fits guess then guess else guess + 1)

/-- The representable number nearest to `num / den`, ties to even, of the given sign. -/
def ofQuotient (negative : Bool) (num den : Nat) : Binary64 :=
  if num = 0 then zero negative
  else
    let e := powerFor num den
    let q := roundedAt num den e
    let magnitude := if q < Nat.pow 2 52 then q else (e + 1075).toNat * Nat.pow 2 52 + (q - Nat.pow 2 52)
    if 2047 * Nat.pow 2 52 ≤ magnitude then infinity negative else ofMagnitudeBits negative magnitude

/-- The number nearest to `digits * 10 ^ power`. Magnitudes that no double-precision number can come near
are decided by the power alone, so that its size costs nothing. -/
def ofDecimal (negative : Bool) (digits : Nat) (power : Int) : Binary64 :=
  if digits = 0 then zero negative
  else if 400 < power then infinity negative
  else if power + (Nat.log2 digits : Int) < -1200 then zero negative
  else if 0 ≤ power then ofQuotient negative (digits * Nat.pow 10 power.toNat) 1
  else ofQuotient negative digits (Nat.pow 10 (-power).toNat)

/-- The number nearest to a natural number. -/
def ofNat (n : Nat) : Binary64 := ofQuotient false n 1

/-- The product of two finite numbers, rounded. -/
def mul (x y : Binary64) : Binary64 :=
  ofQuotient (x.isNegative != y.isNegative) (x.quotient.1 * y.quotient.1) (x.quotient.2 * y.quotient.2)

/-- The quotient of two finite numbers, rounded, where the second is not zero. -/
def div (x y : Binary64) : Binary64 :=
  ofQuotient (x.isNegative != y.isNegative) (x.quotient.1 * y.quotient.2) (x.quotient.2 * y.quotient.1)

/-- The number with the other sign. -/
def neg (x : Binary64) : Binary64 :=
  ⟨UInt64.ofNat (if x.isNegative then x.bits.toNat - Nat.pow 2 63 else x.bits.toNat + Nat.pow 2 63)⟩

/-- The signed 64-bit whole number next to `x` towards zero; a NaN gives zero and a magnitude too large
gives the end of the range. -/
def toInt64 (x : Binary64) : Int64 :=
  if x.isNaN then 0
  else if !x.isFinite then (if x.isNegative then Int64.minValue else Int64.maxValue)
  else
    let whole : Int := (x.quotient.1 / x.quotient.2 : Nat)
    let signed := if x.isNegative then -whole else whole
    Int64.ofInt (max Int64.minValue.toInt (min Int64.maxValue.toInt signed))

end Binary64

end Tether
