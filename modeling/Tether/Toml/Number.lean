import Tether.Text.Hex
import Tether.Toml.Basic

namespace Tether

/-! # TOML numbers, dates and times

What begins with a sign or a digit is a date or time, a number with a fraction or exponent, or a whole number:
the first of these that can be read counts.
-/

namespace Toml

/-- Takes digits, with single underscores between them, which are left out. -/
def digitRun (p : Char → Bool) : List Char → List Char × List Char
  | [] => ([], [])
  | '_' :: d :: cs =>
    if p d then ((d :: (digitRun p cs).1), (digitRun p cs).2) else ([], '_' :: d :: cs)
  | c :: cs => if p c then ((c :: (digitRun p cs).1), (digitRun p cs).2) else ([], c :: cs)

/-- Reads one digit or more. -/
def readDigits (p : Char → Bool) : Reader (List Char) := do
  let first ← readOne p
  let more ← modifyGet (digitRun p)
  pure (first :: more)

/-- Reads an optional sign: `true` is a minus. -/
def readSign : Reader (Option Bool) :=
  readOptional ((fun c => c = '-') <$> readOne fun c => c = '+' || c = '-')

/-- The text of an optional sign. -/
def signChars : Option Bool → List Char
  | none => []
  | some negative => [if negative then '-' else '+']

/-- Reads the digits of a whole number, which has no leading zero. -/
def readWhole : Reader (List Char) :=
  (do readChar '0'; pure ['0']) <|> readDigits Char.isDigit

/-- Reads an exponent. -/
def readExponent : Reader (List Char) := do
  let _ ← readOne fun c => c = 'e' || c = 'E'
  let sign ← readSign
  let digits ← readDigits Char.isDigit
  pure ('e' :: signChars sign ++ digits)

/-- Reads a fraction with its point. -/
def readFraction : Reader (List Char) := do
  readChar '.'
  return '.' :: (← readDigits Char.isDigit)

/-- Reads a number with a fraction, an exponent, or both. One too large above is refused. -/
def readFinite : Reader Binary64 := do
  let sign ← readSign
  let whole ← readWhole
  let tail ← readExponent <|> do
    let fraction ← readFraction
    let exponent ← readOptional readExponent
    pure (fraction ++ exponent.getD [])
  match Binary64.ofText? (String.ofList (signChars sign ++ whole ++ tail)) with
  | none => failure
  | some x => if x = Binary64.infinity false then failure else pure x

/-- Reads an infinity or what is not a number. -/
def readSpecial : Reader Binary64 := do
  let negative := (← readSign).getD false
  (do readWord "inf".toList; pure (Binary64.infinity negative)) <|>
    (do readWord "nan".toList; pure (if negative then Binary64.nan.neg else Binary64.nan))

/-- A number of the signed 64-bit range. -/
def ofInt? (i : Int) : Option Int64 :=
  if Int64.minValue.toInt ≤ i ∧ i ≤ Int64.maxValue.toInt then some (Int64.ofInt i) else none

/-- The value of digits in a base. -/
def valueIn (base : Nat) (digits : List Char) : Int :=
  digits.foldl (fun n c => n * base + (Hex.digit? c).getD 0) 0

/-- Reads the digits of a whole number in a base. -/
def readIn (base : Nat) : Reader Int64 := do
  let digits ← readDigits fun c => (Hex.digit? c).any (· < base)
  liftM (ofInt? (valueIn base digits))

/-- Reads a whole number in decimal. -/
def readDecimal : Reader Int64 := do
  let sign ← readSign
  let digits ← readWhole
  let value := valueIn 10 digits
  liftM (ofInt? (if sign = some true then -value else value))

/-- Reads a whole number in any of four bases. -/
def readInteger : Reader Int64 := fun cs =>
  match cs with
  | '0' :: 'x' :: cs => readIn 16 cs
  | '0' :: 'o' :: cs => readIn 8 cs
  | '0' :: 'b' :: cs => readIn 2 cs
  | cs => readDecimal cs

/-- Reads a number of exactly `count` digits. -/
def readFixed (count : Nat) : Reader Nat := fun cs =>
  let digits := cs.take count
  if digits.length = count ∧ digits.all Char.isDigit then
    (Decimal.digits? digits).map (·, cs.drop count)
  else none

/-- Reads a date. -/
def readDate : Reader Date := do
  let year ← readFixed 4
  readChar '-'
  let month ← readFixed 2
  readChar '-'
  let date : Date := ⟨year, month, ← readFixed 2⟩
  if date.valid then pure date else failure

/-- Reads the fraction of a second in nanoseconds; further digits do not count. -/
def readNanos : Reader Nat := do
  readChar '.'
  let digits ← modifyGet fun cs => (cs.takeWhile Char.isDigit, cs.dropWhile Char.isDigit)
  let kept := digits.take 9
  if digits.isEmpty then failure
  else return (Decimal.digitsFrom? 0 kept).getD 0 * Nat.pow 10 (9 - kept.length)

/-- Reads a time of day. -/
def readTime : Reader TimeOfDay := do
  let hour ← readFixed 2
  readChar ':'
  let minute ← readFixed 2
  readChar ':'
  let second ← readFixed 2
  let nanos := (← readOptional readNanos).getD 0
  let time : TimeOfDay := ⟨hour, minute, second, nanos⟩
  if time.valid then pure time else failure

/-- Reads an offset. -/
def readOffset : Reader Offset :=
  (do let _ ← readOne fun c => c = 'Z' || c = 'z'; pure .universal) <|> do
    let sign ← readOne fun c => c = '+' || c = '-'
    let hours ← readFixed 2
    readChar ':'
    let minutes ← readFixed 2
    if hours ≤ 23 ∧ minutes ≤ 59 then pure (.shifted (sign = '-') hours minutes) else failure

/-- Reads the time and offset that may follow a date. -/
def readTimeAfterDate : Reader (TimeOfDay × Option Offset) := do
  let _ ← readOne fun c => c = 'T' || c = 't' || c = ' '
  let time ← readTime
  return (time, ← readOptional readOffset)

/-- Reads a date, a time, or both. -/
def readDatetime : Reader Datetime :=
  (do
    let date ← readDate
    match ← readOptional readTimeAfterDate with
    | none => pure ⟨some date, none, none⟩
    | some (time, offset) => pure ⟨some date, some time, offset⟩) <|>
  (do return ⟨none, some (← readTime), none⟩)

/-- Reads what begins with a sign or a digit. -/
def readNumeric : Reader Toml :=
  (.datetime <$> readDatetime) <|> (.real <$> readFinite) <|> (.real <$> readSpecial) <|>
    (.integer <$> readInteger)

end Toml

end Tether
