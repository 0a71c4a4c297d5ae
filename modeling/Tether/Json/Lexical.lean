import Tether.Json.Fault

namespace Tether

/-! # JSON text, character by character

The readers of everything that is not nested: blanks, words, strings and numbers. A reader takes the
characters it needs and gives the rest, and says of each text it refuses whether it is malformed or ends
too early.
-/

namespace Json

/-- The four characters that may stand between others. -/
def isBlank (c : Char) : Bool := c = ' ' || c = '\n' || c = '\t' || c = '\r'

/-- The characters from the first that is not blank. -/
def skipBlanks (cs : List Char) : List Char := cs.dropWhile isBlank

/-- Reads the rest of a word whose first letter has been seen. -/
def readWord : List Char → List Char → Except Fault (List Char)
  | [], cs => .ok cs
  | _ :: _, [] => .error .truncated
  | w :: ws, c :: cs => if c = w then readWord ws cs else .error .malformed

/-- The character that a one-letter escape stands for. -/
def escaped? (c : Char) : Option Char :=
  if c = '"' || c = '\\' || c = '/' then some c
  else if c = 'b' then some '\x08'
  else if c = 'f' then some '\x0c'
  else if c = 'n' then some '\n'
  else if c = 'r' then some '\r'
  else if c = 't' then some '\t'
  else none

/-- The number that the four digits of a `\u` escape spell. -/
def unit? (a b c d : Char) : Option Nat := Hex.digitsFrom? 0 [a, b, c, d]

/-- The first half of a pair that spells one character. -/
def isHighHalf (n : Nat) : Bool := 0xD800 ≤ n && n ≤ 0xDBFF

/-- The second half of such a pair. -/
def isLowHalf (n : Nat) : Bool := 0xDC00 ≤ n && n ≤ 0xDFFF

/-- The character that two halves spell. -/
def joinHalves (high low : Nat) : Char := Char.ofNat ((high - 0xD800) * 0x400 + (low - 0xDC00) + 0x10000)

/-- A `\u` without four characters after it: four bytes are still enough to see that they are no digits. -/
def shortUnit (cs : List Char) : Fault :=
  if 4 ≤ (String.ofList cs).utf8ByteSize then .malformed else .truncated

/-- The characters of a string, from behind its opening quote, and what follows its closing quote. -/
def readStringBody : List Char → Except Fault (List Char × List Char)
  | [] => .error .truncated
  | '"' :: rest => .ok ([], rest)
  | ['\\'] => .error .truncated
  | '\\' :: 'u' :: a :: b :: c :: d :: rest =>
    match unit? a b c d with
    | none => .error .malformed
    | some high =>
      if isLowHalf high then .error .malformed
      else if isHighHalf high then
        match rest with
        | [] => .error .truncated
        | ['\\'] => .error .truncated
        | '\\' :: 'u' :: e :: f :: g :: h :: rest =>
          match unit? e f g h with
          | none => .error .malformed
          | some low =>
            if isLowHalf low then do
              let (cs, after) ← readStringBody rest
              .ok (joinHalves high low :: cs, after)
            else .error .malformed
        | '\\' :: 'u' :: short => .error (shortUnit short)
        | _ => .error .malformed
      else do
        let (cs, after) ← readStringBody rest
        .ok (Char.ofNat high :: cs, after)
  | '\\' :: 'u' :: short => .error (shortUnit short)
  | '\\' :: e :: rest =>
    match escaped? e with
    | none => .error .malformed
    | some c => do
      let (cs, after) ← readStringBody rest
      .ok (c :: cs, after)
  | c :: rest =>
    if c.toNat < 0x20 then .error .malformed
    else do
      let (cs, after) ← readStringBody rest
      .ok (c :: cs, after)

/-- The string behind an opening quote. -/
def readString (cs : List Char) : Except Fault (String × List Char) := do
  let (body, rest) ← readStringBody cs
  .ok (String.ofList body, rest)

/-! ## Numbers

A number that is not whole, or too large for 64 bits, is computed in two roundings: the
digits are collected in a 64-bit word for as long as they fit, and the word is scaled by a rounded power of
ten. The last digit of a long number may so differ from the nearest one.
-/

/-- Digits collected into a word: their value, and how many later digits found no room. -/
structure Collected where
  value : Nat
  dropped : Nat
deriving DecidableEq, Repr

/-- Adds one digit, unless there is no room for it or for an earlier one. -/
def Collected.push (k : Collected) (d : Nat) : Collected :=
  if k.dropped = 0 ∧ k.value * 10 + d < UInt64.size then ⟨k.value * 10 + d, 0⟩ else ⟨k.value, k.dropped + 1⟩

/-- The digits before the first that finds no room. -/
def collect (value : Nat) (digits : List Char) : Collected :=
  digits.foldl (fun k c => k.push ((Decimal.digit? c).getD 0)) ⟨value, 0⟩

/-- Scales a number by a power of ten in steps that have a finite power; `none` is too large a result. -/
def scale? (x : Binary64) (power : Int) : Option Binary64 :=
  if power.natAbs ≤ 308 then
    if 0 ≤ power then
      let y := x.mul (Binary64.ofNat (Nat.pow 10 power.toNat))
      if y.isFinite then some y else none
    else some (x.div (Binary64.ofNat (Nat.pow 10 (-power).toNat)))
  else if x.isZero then some x
  else if 0 ≤ power then none
  else scale? (x.div (Binary64.ofNat (Nat.pow 10 308))) (power + 308)
termination_by (-power).toNat
decreasing_by omega

/-- The number of a sign, collected digits and a power of ten. -/
def real (negative : Bool) (value : Nat) (power : Int) : Except Fault JsonNumber :=
  match scale? (Binary64.ofNat value) power with
  | some x => .ok (.real (if negative then x.neg else x))
  | none => .error .malformed

/-- The largest exponent whose digits are collected. -/
def maxExponent : Nat := 2147483647

/-- Reads an exponent from behind its letter, for digits already collected. -/
def readExponent (negative : Bool) (value : Nat) (power : Int) (cs : List Char) :
    Except Fault (JsonNumber × List Char) :=
  let (down, body) := match cs with
    | '+' :: r => (false, r)
    | '-' :: r => (true, r)
    | _ => (false, cs)
  match body with
  | [] => .error .truncated
  | c :: _ =>
    if !c.isDigit then .error .malformed
    else
      let exponent := (Decimal.digitsFrom? 0 (body.takeWhile Char.isDigit)).getD 0
      let rest := body.dropWhile Char.isDigit
      if maxExponent < exponent then
        if value ≠ 0 ∧ !down then .error .malformed else .ok (.real (Binary64.zero negative), rest)
      else do
        let n ← real negative value (if down then power - exponent else power + exponent)
        .ok (n, rest)

/-- Reads what may follow the whole digits: a fraction, an exponent, both, or neither. -/
def readNumberTail (negative : Bool) (k : Collected) (cs : List Char) : Except Fault (JsonNumber × List Char) :=
  match cs with
  | '.' :: r =>
    let fraction := r.takeWhile Char.isDigit
    let rest := r.dropWhile Char.isDigit
    if fraction.isEmpty then .error (if rest.isEmpty then .truncated else .malformed)
    else
      let all := collect k.value fraction
      let power : Int := (k.dropped : Int) - (fraction.length - all.dropped)
      match rest with
      | 'e' :: r => readExponent negative all.value power r
      | 'E' :: r => readExponent negative all.value power r
      | _ => do
        let n ← real negative all.value power
        .ok (n, rest)
  | 'e' :: r => readExponent negative k.value k.dropped r
  | 'E' :: r => readExponent negative k.value k.dropped r
  | _ =>
    if k.dropped ≠ 0 then do
      let n ← real negative k.value k.dropped
      .ok (n, cs)
    else if !negative then .ok (.int k.value, cs)
    else if k.value = 0 ∨ Nat.pow 2 63 < k.value then do
      let n ← real true k.value 0
      .ok (n, cs)
    else .ok (.int (-(k.value : Int)), cs)

/-- Reads a number from behind its sign. A leading zero stands alone. -/
def readNumber (negative : Bool) (cs : List Char) : Except Fault (JsonNumber × List Char) :=
  match cs with
  | [] => .error .truncated
  | '0' :: r =>
    match r with
    | c :: _ => if c.isDigit then .error .malformed else readNumberTail negative ⟨0, 0⟩ r
    | [] => readNumberTail negative ⟨0, 0⟩ r
  | _ =>
    let digits := cs.takeWhile Char.isDigit
    if digits.isEmpty then .error .malformed
    else readNumberTail negative (collect 0 digits) (cs.dropWhile Char.isDigit)

end Json

end Tether
