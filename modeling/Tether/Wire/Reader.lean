import Tether.Text.Integer
import Tether.Text.Utf8
import Tether.Text.White

namespace Tether

/-! # Reading bytes from the wire

Bytes arrive in pieces, so a reader stops for one of two reasons: more bytes are needed, or the bytes do not
follow the protocol. A reader takes bytes off the front and counts them, to tell where a fault is.
-/

/-- Why a reader stops. -/
inductive WireStop where
  /-- More bytes are needed. -/
  | incomplete
  | malformed (detail : String)
deriving DecidableEq, Repr

/-- Bytes that are read, and how many were read before them. -/
structure WireInput where
  offset : Nat
  rest : Bytes

/-- Takes something off the front of bytes. -/
abbrev WireReader (α : Type) := StateT WireInput (Except WireStop) α

namespace WireReader

/-- What is told about a fault at a place. -/
def describe (offset : Nat) (fault : String) : String :=
  "Parse error at " ++ Decimal.ofNat offset ++ "\n" ++ fault ++ "\n"

/-- Stops at a fault. -/
def fault {α : Type} (offset : Nat) (what : String) : WireReader α := throw (.malformed (describe offset what))

/-- The number of bytes that were read. -/
def offset : WireReader Nat := WireInput.offset <$> get

/-- A byte. -/
def byte : WireReader UInt8 := fun i =>
  match i.rest with
  | [] => .error .incomplete
  | b :: rest => .ok (b, ⟨i.offset + 1, rest⟩)

/-- A number of bytes. -/
def take (n : Nat) : WireReader Bytes := fun i =>
  if i.rest.length < n then .error .incomplete
  else .ok (i.rest.take n, ⟨i.offset + n, i.rest.drop n⟩)

/-- Cuts bytes at the first end of a line. -/
def splitLine? : Bytes → Option (Bytes × Bytes)
  | 13 :: 10 :: rest => some ([], rest)
  | b :: rest => (splitLine? rest).map fun p => (b :: p.1, p.2)
  | [] => none

/-- The bytes up to the end of the line. -/
def lineBytes : WireReader Bytes := fun i =>
  match splitLine? i.rest with
  | none => .error .incomplete
  | some (line, rest) => .ok (line, ⟨i.offset + line.length + 2, rest⟩)

/-- The text up to the end of the line, as `read?` understands it. -/
def lineAs {α : Type} (expected : String) (read? : String → Option α) : WireReader α := do
  let start ← offset
  let bytes ← lineBytes
  match Utf8.decode? bytes with
  | none => fault start "invalid utf-8 sequence"
  | some s =>
    match read? s with
    | none => fault start expected
    | some a => pure a

/-- The text up to the end of the line. -/
def line : WireReader String := lineAs "" some

/-- A whole number on a line, with white space around it. -/
def integer : WireReader Int64 := lineAs "Expected integer, got garbage" fun s => Decimal.int64? (White.trim s.toList)

/-- The end of a line. -/
def lineEnd : WireReader Unit := do
  let start ← offset
  let bytes ← take 2
  if bytes = [13, 10] then pure () else fault start "Expected crlf newline"

/-- A number of items. -/
def items {α : Type} (item : WireReader α) : Nat → WireReader (List α)
  | 0 => pure []
  | n + 1 => do
    let first ← item
    let others ← items item n
    pure (first :: others)

end WireReader

end Tether
