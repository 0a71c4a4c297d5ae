import Tether.Binary64.Basic
import Tether.Text.Utf8

namespace Tether

/-! # What the store answers

A reply is one of the values that the store's protocol has. An error is a value among them, and it may stand
inside others: `Reply.firstError?` finds the first one in reading order.
-/

/-- An error that the store answers: a code and perhaps more. -/
structure ServerError where
  code : String
  detail : Option String
deriving DecidableEq, Repr, Inhabited

/-- A value that the store answers. -/
inductive Reply where
  | nil
  | int (i : Int64)
  | bulk (bytes : Bytes)
  | array (items : List Reply)
  | ok
  | simple (text : String)
  | map (pairs : List (Reply × Reply))
  /-- A value with attributes about it. -/
  | attributed (data : Reply) (attributes : List (Reply × Reply))
  | set (items : List Reply)
  | double (x : Binary64)
  | boolean (b : Bool)
  | verbatim (format text : String)
  | push (kind : String) (data : List Reply)
  | big (n : Int)
  | error (e : ServerError)
deriving Repr, Inhabited

/-- The error of a line: its first word is the code. -/
def ServerError.ofLine (line : String) : ServerError :=
  match line.toList.dropWhile (· ≠ ' ') with
  | [] => ⟨line, none⟩
  | _ :: detail => ⟨String.ofList (line.toList.takeWhile (· ≠ ' ')), some (String.ofList detail)⟩

namespace Reply

/-- A value without its outermost attributes. -/
def inner : Reply → Reply
  | .attributed data _ => data
  | r => r

mutual

/-- The first error in a reply. -/
def firstError? : Reply → Option ServerError
  | .error e => some e
  | .array items => firstErrorOf? items
  | .set items => firstErrorOf? items
  | .push _ data => firstErrorOf? data
  | .map pairs => firstErrorAmong? pairs
  | .attributed data attributes => (firstError? data).or (firstErrorAmong? attributes)
  | _ => none

/-- The first error in a list of replies. -/
def firstErrorOf? : List Reply → Option ServerError
  | [] => none
  | r :: rest => (firstError? r).or (firstErrorOf? rest)

/-- The first error in a list of pairs. -/
def firstErrorAmong? : List (Reply × Reply) → Option ServerError
  | [] => none
  | (k, v) :: rest => ((firstError? k).or (firstError? v)).or (firstErrorAmong? rest)

end

end Reply

end Tether
