import Tether.Json.Basic
import Tether.Store.Error

namespace Tether

/-! # Replies as results

Each command has a type of result, and its reply is converted to that type or refused.
-/

/-- The types of results. -/
inductive ResultType where
  | unit
  | integer
  | flag
  | text
  | optionalText
  | texts
  | optionalTexts
  | table
  /-- The reply as it is. -/
  | raw
deriving DecidableEq, Repr

/-- The values of a type of results. A table has its keys in ascending order. -/
def ResultType.Value : ResultType → Type
  | .unit => Unit
  | .integer => Int64
  | .flag => Bool
  | .text => String
  | .optionalText => Option String
  | .texts => List String
  | .optionalTexts => List (Option String)
  | .table => List (String × String)
  | .raw => Reply

namespace Reply

/-- The number that a text spells. -/
def numberOf (found : Reply) (s : String) : Except StoreError Int64 :=
  match Decimal.int64? s.toList with
  | some i => .ok i
  | none => .error (.misfit .notNumber found)

/-- A reply as a number. -/
def toInteger (r : Reply) : Except StoreError Int64 :=
  match r.inner with
  | .int i => .ok i
  | .simple s => numberOf r.inner s
  | .bulk bytes =>
    match Utf8.decode? bytes with
    | some s => numberOf r.inner s
    | none => .error .undecodableNumber
  | .double x => .ok x.toInt64
  | found => .error (.misfit .notNumeric found)

/-- A reply as a truth value. -/
def toFlag (r : Reply) : Except StoreError Bool :=
  match r.inner with
  | .nil => .ok false
  | .int i => .ok (i ≠ 0)
  | .simple s =>
    if s = "1" then .ok true else if s = "0" then .ok false else .error (.misfit .notFlagStatus r.inner)
  | .bulk bytes =>
    if bytes = Utf8.encode "1" then .ok true
    else if bytes = Utf8.encode "0" then .ok false
    else .error (.misfit .notFlag r.inner)
  | .boolean b => .ok b
  | .ok => .ok true
  | found => .error (.misfit .notFlag found)

/-- A reply as a text. -/
def toText (r : Reply) : Except StoreError String :=
  match r.inner with
  | .bulk bytes =>
    match Utf8.decode? bytes with
    | some s => .ok s
    | none => .error .undecodableText
  | .ok => .ok "OK"
  | .simple s => .ok s
  | .verbatim _ s => .ok s
  | .double x => .ok x.plainText
  | .int i => .ok (Decimal.ofInt i.toInt)
  | found => .error (.misfit .notText found)

/-- A reply as a text that may be missing. -/
def toOptionalText (r : Reply) : Except StoreError (Option String) :=
  match r.inner with
  | .nil => .ok none
  | found => some <$> found.toText

/-- A reply as a list: a single text is a list of one, and each pair of a map is an item. -/
def toList {α : Type} (item : Reply → Except StoreError α) (r : Reply) : Except StoreError (List α) :=
  match r with
  | .bulk bytes => ([·]) <$> item (.bulk bytes)
  | .array items => items.mapM item
  | .set items => items.mapM item
  | .map pairs => pairs.mapM fun pair => item (.map [pair])
  | .nil => .ok []
  | found => .error (.misfit .notList found)

/-- Pairs of neighbours, where there is an even number of replies. -/
def pairsOf? : List Reply → Option (List (Reply × Reply))
  | [] => some []
  | k :: v :: rest => (pairsOf? rest).map ((k, v) :: ·)
  | [_] => none

/-- The pairs of a map, or of an array of keys and values in turn. -/
def pairs? : Reply → Option (List (Reply × Reply))
  | .nil => some []
  | .map pairs => some pairs
  | .array items => pairsOf? items
  | _ => none

/-- A reply as a table of texts; the last of several values for one key counts. -/
def toTable (r : Reply) : Except StoreError (List (String × String)) :=
  match r.inner.pairs? with
  | none => .error (.misfit .notTable r.inner)
  | some pairs =>
    pairs.foldlM (fun table pair => do
      let key ← pair.1.toText
      let value ← pair.2.toText
      pure (Json.insert key value table)) []

/-- A reply as a result. -/
def convert (r : Reply) : (t : ResultType) → Except StoreError t.Value
  | .unit => .ok ()
  | .integer => r.toInteger
  | .flag => r.toFlag
  | .text => r.toText
  | .optionalText => r.toOptionalText
  | .texts => r.toList toText
  | .optionalTexts => r.toList toOptionalText
  | .table => r.toTable
  | .raw => .ok r

end Reply

end Tether
