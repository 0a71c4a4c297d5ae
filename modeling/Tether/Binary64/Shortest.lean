import Tether.Binary64.Basic

namespace Tether

/-! # The fewest digits that read back

A finite number is written with the fewest significant digits that round to it, and of the candidates with
so few digits the nearest to it. The candidates on one decimal grid are the two neighbours of the number.
-/

namespace Binary64

/-- Significant digits and the place of the point: the value is `0.d₁d₂…` times `10 ^ point`. -/
structure Digits where
  digits : List Char
  point : Int
deriving DecidableEq, Repr

/-- The interval of magnitudes that round to a number, scaled by a common factor: `low`, the number itself
and `high` as whole numbers over `den`. The ends belong to it when the mantissa is even. -/
structure Interval where
  low : Nat
  mid : Nat
  high : Nat
  den : Nat
  closed : Bool

/-- The rounding interval of a finite number other than zero. Below a power of two the neighbours are
closer, so the lower end is nearer by half. -/
def interval (x : Binary64) : Interval :=
  let m := x.mantissa
  let below := if x.fractionBits = 0 && 1 < x.exponentBits then 1 else 2
  let scale := if 0 ≤ x.power then Nat.pow 2 x.power.toNat else 1
  let den := if 0 ≤ x.power then 4 else 4 * Nat.pow 2 (-x.power).toNat
  ⟨(4 * m - below) * scale, 4 * m * scale, (4 * m + 2) * scale, den, m % 2 = 0⟩

/-- The number `k` with `10 ^ (k - 1) ≤ mid / den < 10 ^ k`. -/
def Interval.point (i : Interval) : Int :=
  let guess : Int := (Nat.toDigits 10 i.mid).length - (Nat.toDigits 10 i.den).length
  let reaches : Bool :=
    if 0 ≤ guess then i.den * Nat.pow 10 guess.toNat ≤ i.mid else i.den ≤ i.mid * Nat.pow 10 (-guess).toNat
  if reaches then guess + 1 else guess

/-- `c * 10 ^ e` lies in the interval. -/
def Interval.holds (i : Interval) (c : Nat) (e : Int) : Bool :=
  let value := if 0 ≤ e then c * Nat.pow 10 e.toNat * i.den else c * i.den
  let scale := if 0 ≤ e then 1 else Nat.pow 10 (-e).toNat
  if i.closed then i.low * scale ≤ value && value ≤ i.high * scale
  else i.low * scale < value && value < i.high * scale

/-- The nearest of the neighbours with `count` digits that lie in the interval. -/
def Interval.candidate? (i : Interval) (count : Nat) : Option (Nat × Int) :=
  let e := i.point - count
  let num := if 0 ≤ e then i.mid else i.mid * Nat.pow 10 (-e).toNat
  let den := if 0 ≤ e then i.den * Nat.pow 10 e.toNat else i.den
  let c := num / den
  let r := num % den
  let near := if 2 * r < den then c else if den < 2 * r then c + 1 else c + c % 2
  let far := if near = c then c + 1 else c
  if i.holds near e then some (near, e) else if i.holds far e then some (far, e) else none

/-- The first candidate with `count` digits or more, trying `tries` counts. -/
def Interval.shortestFrom (i : Interval) (count : Nat) : Nat → Nat × Int
  | 0 => (0, 0)
  | tries + 1 => (i.candidate? count).getD (i.shortestFrom (count + 1) tries)

/-- The digits of a finite number; zero has the one digit `0`. -/
def shortest (x : Binary64) : Digits :=
  if x.mantissa = 0 then ⟨['0'], 1⟩
  else
    let found := x.interval.shortestFrom 1 17
    let digits := Nat.toDigits 10 found.1
    let kept := (digits.reverse.dropWhile (· = '0')).reverse
    ⟨kept, digits.length + found.2⟩

end Binary64

end Tether
