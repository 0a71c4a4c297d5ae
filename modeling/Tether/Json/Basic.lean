import Tether.Binary64.Text
import Tether.Text.Quoted

namespace Tether

/-! # JSON values

A JSON value as a tree. The members of an object stand in ascending order of their keys and no key occurs
twice: `Json.insert` keeps both, and a later member replaces an earlier one of the same key.
-/

/-- A JSON number: a whole number of the signed or unsigned 64-bit range, or any other number. -/
inductive JsonNumber where
  | int (i : Int)
  | real (x : Binary64)
deriving DecidableEq, Repr, Inhabited

/-- A JSON value. -/
inductive Json where
  | null
  | bool (b : Bool)
  | number (n : JsonNumber)
  | string (s : String)
  | array (items : List Json)
  | object (members : List (String × Json))
deriving Repr, Inhabited

namespace Json

/-- Puts a member in its place among members in ascending order of keys. -/
def insert {α : Type} (key : String) (value : α) : List (String × α) → List (String × α)
  | [] => [(key, value)]
  | (k, v) :: rest =>
    if key < k then (key, value) :: (k, v) :: rest
    else if key = k then (key, value) :: rest
    else (k, v) :: insert key value rest

/-- The object with these members, where the last of several with one key counts. -/
def ofMembers (members : List (String × Json)) : Json :=
  .object (members.foldl (fun ms m => insert m.1 m.2 ms) [])

/-- The member of an object with this key. -/
def member? (j : Json) (key : String) : Option Json :=
  match j with
  | .object members => members.lookup key
  | _ => none

/-- A whole number as JSON. -/
def ofInt (i : Int) : Json := .number (.int i)

/-- Texts as a JSON array. -/
def ofTexts (texts : List String) : Json := .array (texts.map .string)

/-- A text, or `null` for none. -/
def ofText? : Option String → Json
  | some s => .string s
  | none => .null

/-- A number has at most one JSON form: what is not finite has none and is `null`. -/
def ofBinary64 (x : Binary64) : Json := if x.isFinite then .number (.real x) else .null

end Json

/-- The text of a number. -/
def JsonNumber.text : JsonNumber → String
  | .int i => Decimal.ofInt i
  | .real x => x.jsonText

end Tether
