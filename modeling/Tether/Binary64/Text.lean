import Tether.Binary64.Shortest
import Tether.Text.Integer

namespace Tether

/-! # Double-precision numbers as text

Four ways to write a number share the shortest digits and differ in where the exponent begins:
`Binary64.plainText` never writes one, `Binary64.debugText` writes one outside `1e-4 … 1e16`, and
`Binary64.wireText` and `Binary64.jsonText` write one outside `1e-5 … 1e16`, the second with a sign and two
digits at least. `Binary64.ofText?` reads any of them.
-/

namespace Binary64

/-- The words for what is not finite, or `none` for a finite number. -/
def specialText? (x : Binary64) : Option String :=
  if x.isNaN then some "NaN"
  else if x.isFinite then none
  else some (if x.isNegative then "-inf" else "inf")

/-- A minus sign for a negative number, zero included. -/
def signText (x : Binary64) : List Char := if x.isNegative then ['-'] else []

/-- Digits without an exponent; `whole` follows when there is no fraction. -/
def Digits.positional (d : Digits) (whole : List Char) : List Char :=
  if d.point ≤ 0 then '0' :: '.' :: List.replicate (-d.point).toNat '0' ++ d.digits
  else if d.digits.length ≤ d.point.toNat then
    d.digits ++ List.replicate (d.point.toNat - d.digits.length) '0' ++ whole
  else d.digits.take d.point.toNat ++ '.' :: d.digits.drop d.point.toNat

/-- The shortest text of an exponent. -/
def shortExponent (e : Int) : List Char := (Decimal.ofInt e).toList

/-- An exponent with its sign and two digits at least. -/
def signedExponent (e : Int) : List Char := (if e < 0 then '-' else '+') :: Decimal.padded 2 e.natAbs

/-- One digit, the others as a fraction, and the exponent. -/
def Digits.scientific (d : Digits) (exponent : Int → List Char) : List Char :=
  let fraction := match d.digits.drop 1 with
    | [] => []
    | rest => '.' :: rest
  d.digits.take 1 ++ fraction ++ 'e' :: exponent (d.point - 1)

/-- The text without an exponent and without an empty fraction. -/
def plainText (x : Binary64) : String :=
  x.specialText?.getD (String.ofList (x.signText ++ x.shortest.positional []))

/-- The text for diagnostics: a fraction is always shown, or an exponent in its place. -/
def debugText (x : Binary64) : String :=
  let d := x.shortest
  let plain := x.isZero || (-3 ≤ d.point && d.point ≤ 16)
  x.specialText?.getD
    (String.ofList (x.signText ++ if plain then d.positional ".0".toList else d.scientific shortExponent))

/-- The text with a fraction in a wide range, and else with an exponent. -/
def wideText (x : Binary64) (exponent : Int → List Char) : String :=
  let d := x.shortest
  let plain := x.isZero || (-5 < d.point && d.point ≤ 16)
  x.specialText?.getD
    (String.ofList (x.signText ++ if plain then d.positional ".0".toList else d.scientific exponent))

/-- The text sent to the store. -/
def wireText (x : Binary64) : String := x.wideText shortExponent

/-- The text in JSON. -/
def jsonText (x : Binary64) : String := x.wideText signedExponent

/-- An exponent: an optional sign and at least one digit, to the end of the text. -/
def exponent? (cs : List Char) : Option Int :=
  match cs with
  | '-' :: r => (Decimal.digits? r).map fun n => -(n : Int)
  | '+' :: r => (Decimal.digits? r).map Int.ofNat
  | _ => (Decimal.digits? cs).map Int.ofNat

/-- A number without its sign: digits with an optional fraction and exponent; one digit at least. -/
def unsignedOfText? (negative : Bool) (cs : List Char) : Option Binary64 := do
  let whole := cs.takeWhile Char.isDigit
  let afterWhole := cs.dropWhile Char.isDigit
  let (fraction, rest) := match afterWhole with
    | '.' :: r => (r.takeWhile Char.isDigit, r.dropWhile Char.isDigit)
    | _ => ([], afterWhole)
  let digits ← Decimal.digits? (whole ++ fraction)
  let power ← match rest with
    | [] => some 0
    | c :: r => if c = 'e' || c = 'E' then exponent? r else none
  pure (ofDecimal negative digits (power - fraction.length))

/-- The number that a text spells: an optional sign, then a number, `inf`, `infinity` or `nan` in letters
of either case. -/
def ofText? (s : String) : Option Binary64 :=
  let (negative, body) := match s.toList with
    | '-' :: r => (true, r)
    | '+' :: r => (false, r)
    | cs => (false, cs)
  let word := String.ofList (body.map Char.toLower)
  if word = "inf" ∨ word = "infinity" then some (infinity negative)
  else if word = "nan" then some nan
  else unsignedOfText? negative body

end Binary64

end Tether
