import Tether.Binary64.Text
import Tether.Store.Reply
import Tether.Text.Quoted

namespace Tether

/-! # Replies in messages

A message about a reply shows the whole of it but for attributes.
-/

namespace Reply

/-- The name of a format of verbatim text. -/
def formatText (format : String) : String :=
  if format = "txt" then "Text"
  else if format = "mkd" then "Markdown"
  else "Unknown(" ++ quoted format ++ ")"

/-- The kinds of messages that the store sends unasked, with their names. -/
def pushKinds : List (String × String) :=
  [("invalidate", "Invalidate"), ("message", "Message"), ("pmessage", "PMessage"), ("smessage", "SMessage"),
    ("unsubscribe", "Unsubscribe"), ("punsubscribe", "PUnsubscribe"), ("sunsubscribe", "SUnsubscribe"),
    ("subscribe", "Subscribe"), ("psubscribe", "PSubscribe"), ("ssubscribe", "SSubscribe")]

/-- The name of a kind of message. -/
def pushKindText (kind : String) : String :=
  (pushKinds.lookup kind).getD ("Other(" ++ quoted kind ++ ")")

/-- Bytes as text where they are, and else one by one. -/
def bulkText (bytes : Bytes) : String :=
  match Utf8.decode? bytes with
  | some s => "bulk-string('" ++ quoted s ++ "')"
  | none => "binary-data(" ++ bracketed (bytes.map fun b => Decimal.ofNat b.toNat) ++ ")"

/-- An error with its code and detail. -/
def errorText (e : ServerError) : String :=
  match e.detail with
  | some detail => "Server error: `" ++ e.code ++ ": " ++ detail ++ "`"
  | none => "Server error: `" ++ e.code ++ "`"

mutual

/-- The text of a reply. -/
def text : Reply → String
  | .nil => "nil"
  | .int i => "int(" ++ Decimal.ofInt i.toInt ++ ")"
  | .bulk bytes => bulkText bytes
  | .array items => "array(" ++ bracketed (texts items) ++ ")"
  | .ok => "ok"
  | .simple s => "simple-string(" ++ quoted s ++ ")"
  | .map pairs => "map(" ++ bracketed (pairTexts pairs) ++ ")"
  | .attributed data _ => "attribute(" ++ text data ++ ")"
  | .set items => "set(" ++ bracketed (texts items) ++ ")"
  | .double x => "double(" ++ x.debugText ++ ")"
  | .boolean b => if b then "boolean(true)" else "boolean(false)"
  | .verbatim format s => "verbatim-string(" ++ formatText format ++ "," ++ quoted s ++ ")"
  | .push kind data => "push(" ++ pushKindText kind ++ ", " ++ bracketed (texts data) ++ ")"
  | .big n => "big-number(" ++ Decimal.ofInt n ++ ")"
  | .error e => errorText e

/-- The texts of replies. -/
def texts : List Reply → List String
  | [] => []
  | r :: rest => text r :: texts rest

/-- The texts of pairs of replies. -/
def pairTexts : List (Reply × Reply) → List String
  | [] => []
  | (k, v) :: rest => ("(" ++ text k ++ ", " ++ text v ++ ")") :: pairTexts rest

end

end Reply

end Tether
