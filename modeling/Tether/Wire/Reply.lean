import Tether.Binary64.Text
import Tether.Store.Reply
import Tether.Wire.Reader

namespace Tether

/-! # Replies on the wire

The first byte of a reply tells its type. What follows is a line, or a length and that many bytes, or a length
and that many replies. `Reply.ofBytes` reads one reply, and `Reply.allOfBytes` all that have arrived.
-/

namespace Reply

/-- How deep replies may be nested. -/
def nestingLimit : Nat := 100

/-- A status line. -/
def ofStatus (s : String) : Reply := if s = "OK" then .ok else .simple s

/-- A truth value on a line. -/
def flagOf? (s : String) : Option Reply :=
  if s = "t" then some (.boolean true) else if s = "f" then some (.boolean false) else none

/-- A format and a text. -/
def verbatimOf? (s : String) : Option Reply :=
  match s.toList.dropWhile (· ≠ ':') with
  | [] => none
  | _ :: text => some (.verbatim (String.ofList (s.toList.takeWhile (· ≠ ':'))) (String.ofList text))

/-- Neighbours in pairs; one that is left over is dropped. -/
def neighbours : List Reply → List (Reply × Reply)
  | k :: v :: rest => (k, v) :: neighbours rest
  | _ => []

/-- A message that is sent unasked; its first item is its kind. -/
def pushOf? : List Reply → Option Reply
  | .bulk kind :: data => (Utf8.decode? kind).map fun kind => .push kind data
  | .simple kind :: data => some (.push kind data)
  | _ => none

/-- A length and that many bytes. -/
def readBulk : WireReader Reply := do
  let size ← WireReader.integer
  if size < 0 then pure .nil
  else
    let bytes ← WireReader.take size.toNatClampNeg
    WireReader.lineEnd
    pure (.bulk bytes)

/-- A length and that many bytes, as text. -/
def readBlob : WireReader String := do
  let size ← WireReader.integer
  if size < 0 then throw .incomplete
  else
    let bytes ← WireReader.take size.toNatClampNeg
    WireReader.lineEnd
    pure (Utf8.decodeLossy bytes)

/-- A length and that many replies. -/
def readItems (item : WireReader Reply) (make : List Reply → Reply) : WireReader Reply := do
  let size ← WireReader.integer
  if size < 0 then pure .nil else make <$> WireReader.items item size.toNatClampNeg

/-- A length, that many pairs, and more replies behind them. -/
def readPairs (item : WireReader Reply) (more : Nat) : WireReader (List Reply) := do
  let start ← WireReader.offset
  let size ← WireReader.integer
  if size < 0 then WireReader.fault start "Unexpected length"
  else WireReader.items item (2 * size.toNatClampNeg + more)

/-- A value behind its attributes. -/
def attributedOf (replies : List Reply) : Reply :=
  .attributed (replies.getLast?.getD .nil) (neighbours replies.dropLast)

/-- A message that is sent unasked. -/
def readPush (item : WireReader Reply) : WireReader Reply := do
  let size ← WireReader.integer
  if size ≤ 0 then pure (.push "" [])
  else
    let start ← WireReader.offset
    let items ← WireReader.items item size.toNatClampNeg
    match pushOf? items with
    | some r => pure r
    | none => WireReader.fault start "parse error when decoding push"

/-- What follows the first byte of a reply. -/
def readBody (item : WireReader Reply) (kind : UInt8) : WireReader Reply := do
  let start ← WireReader.offset
  match Char.ofNat kind.toNat with
  | '+' => ofStatus <$> WireReader.line
  | '-' => (fun line => .error (ServerError.ofLine line)) <$> WireReader.line
  | ':' => .int <$> WireReader.integer
  | '$' => readBulk
  | '*' => readItems item .array
  | '~' => readItems item .set
  | '%' => (fun replies => .map (neighbours replies)) <$> readPairs item 0
  | '|' => attributedOf <$> readPairs item 1
  | '>' => readPush item
  | '_' => (fun _ => .nil) <$> WireReader.line
  | ',' => WireReader.lineAs "Expected double, got garbage" fun s =>
    .double <$> Binary64.ofText? (String.ofList (White.trim s.toList))
  | '#' => WireReader.lineAs "Expected boolean, got garbage" flagOf?
  | '(' => WireReader.lineAs "Expected bigint, got garbage" fun s => .big <$> Decimal.integer? s.toList
  | '!' => (fun line => .error (ServerError.ofLine line)) <$> readBlob
  | '=' => do
    let text ← readBlob
    match verbatimOf? text with
    | some r => pure r
    | none => WireReader.fault start "Expected data type, got garbage"
  | _ => WireReader.fault start ("Unexpected `" ++ Decimal.ofNat kind.toNat ++ "`")

/-- A reply with at most so many levels. -/
def read : Nat → WireReader Reply
  | 0 => do
    let _ ← WireReader.byte
    WireReader.fault (← WireReader.offset) "Unexpected Maximum recursion depth exceeded"
  | levels + 1 => do
    let kind ← WireReader.byte
    readBody (read levels) kind

/-- The reply at the front of bytes, and the bytes behind it. -/
def ofBytes (bytes : Bytes) : Except WireStop (Reply × Bytes) := do
  let (r, i) ← read nestingLimit ⟨0, bytes⟩
  pure (r, i.rest)

/-- Replies that have arrived, and why there are no more. -/
structure Arrived where
  replies : List Reply
  rest : Bytes
  stop : WireStop

/-- All replies at the front of bytes; a reply takes at least one byte. -/
def allOfBytesFrom (bytes : Bytes) : Nat → Arrived
  | 0 => ⟨[], bytes, .incomplete⟩
  | fuel + 1 =>
    match ofBytes bytes with
    | .error stop => ⟨[], bytes, stop⟩
    | .ok (r, rest) =>
      let arrived := allOfBytesFrom rest fuel
      { arrived with replies := r :: arrived.replies }

/-- All replies at the front of bytes. -/
def allOfBytes (bytes : Bytes) : Arrived := allOfBytesFrom bytes (bytes.length + 1)

/-- The kinds of unasked messages that are replies as well. -/
def replyKinds : List String :=
  ["subscribe", "psubscribe", "ssubscribe", "unsubscribe", "punsubscribe", "sunsubscribe"]

/-- The reply answers a request. -/
def isAnswer : Reply → Bool
  | .push kind _ => replyKinds.contains kind
  | _ => true

end Reply

end Tether
