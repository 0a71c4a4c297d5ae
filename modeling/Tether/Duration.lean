import Tether.Text.Integer

namespace Tether

/-! # Spans of time

A span has whole seconds and nanoseconds below one second. Its text uses the largest of the units `s`,
`ms`, `µs` and `ns` that it reaches, with as many decimals as it needs.
-/

/-- A span of time. -/
structure Duration where
  seconds : UInt64
  nanos : Nat
  nanos_lt : nanos < 1000000000 := by decide
deriving DecidableEq, Repr

namespace Duration

/-- The span of a number of milliseconds. -/
def ofMillis (ms : UInt64) : Duration :=
  ⟨ms / 1000, ms.toNat % 1000 * 1000000, by omega⟩

/-- The span of a number of seconds. -/
def ofSeconds (s : UInt64) : Duration := ⟨s, 0, by decide⟩

/-- The length in nanoseconds. -/
def toNanos (d : Duration) : Nat := d.seconds.toNat * 1000000000 + d.nanos

/-- The length in whole milliseconds, rounded down, in 128 bits. -/
def toMillis (d : Duration) : BitVec 128 :=
  d.seconds.toBitVec.setWidth 128 * 1000 + .ofNat 128 (d.nanos / 1000000)

/-- The decimals of `n / 10 ^ width`, after the point and without zeros at the end. -/
def decimals (width n : Nat) : List Char :=
  let shown := (Decimal.padded width n).reverse.dropWhile (· = '0')
  if shown.isEmpty then [] else '.' :: shown.reverse

/-- A whole part, the decimals of a part of `10 ^ width`, and the unit. -/
def scaledText (whole width part : Nat) (unit : String) : String :=
  Decimal.ofNat whole ++ String.ofList (decimals width part) ++ unit

/-- The text of a span. -/
def text (d : Duration) : String :=
  if 0 < d.seconds then scaledText d.seconds.toNat 9 d.nanos "s"
  else if 1000000 ≤ d.nanos then scaledText (d.nanos / 1000000) 6 (d.nanos % 1000000) "ms"
  else if 1000 ≤ d.nanos then scaledText (d.nanos / 1000) 3 (d.nanos % 1000) "µs"
  else scaledText d.nanos 0 0 "ns"

end Duration

end Tether
