import Tether.Json.Basic

namespace Tether

/-! # What can be wrong with JSON

A text that is no JSON value is malformed or ends too early, and a value can be other than what was asked
for. The last kind names what was found and what was expected.
-/

namespace Json

/-- Why a JSON text was refused. -/
inductive Fault where
  /-- The text is not JSON. -/
  | malformed
  /-- The value is not of the form asked for. -/
  | misfit
  /-- The text ends inside a value. -/
  | truncated
deriving DecidableEq, Repr

/-- What a place in a structure asks for. -/
inductive Expected where
  | sequence
  | text
  | boolean
  | int64
  | uint64
  /-- A structure of this name. -/
  | structure (name : String)
deriving DecidableEq, Repr

/-- The words for what is asked for. -/
def Expected.words : Expected → String
  | .sequence => "a sequence"
  | .text => "a string"
  | .boolean => "a boolean"
  | .int64 => "i64"
  | .uint64 => "u64"
  | .structure name => "struct " ++ name

/-- Why a value does not fit. -/
inductive Misfit where
  /-- The value is of another type. -/
  | type (found : Json) (expected : Expected)
  /-- The value is of the right type and outside its range. -/
  | range (found : JsonNumber) (expected : Expected)
  /-- The structure has no field of this name. -/
  | field (name : String) (known : List String)
  /-- The array has more items than the structure has fields. -/
  | excess (count : Nat)

/-- The words for a value that was found. -/
def describe : Json → String
  | .null => "null"
  | .bool b => "boolean `" ++ (if b then "true" else "false") ++ "`"
  | .number (.int i) => "integer `" ++ Decimal.ofInt i ++ "`"
  | .number (.real x) => "floating point `" ++ x.jsonText ++ "`"
  | .string s => "string " ++ quoted s
  | .array _ => "sequence"
  | .object _ => "map"

/-- A name between backticks. -/
def ticked (name : String) : String := "`" ++ name ++ "`"

/-- The words for a choice among names. -/
def oneOf : List String → String
  | [] => "there are no fields"
  | [a] => "expected " ++ ticked a
  | [a, b] => "expected " ++ ticked a ++ " or " ++ ticked b
  | names => "expected one of " ++ ", ".intercalate (names.map ticked)

/-- The message for a value that does not fit. -/
def Misfit.message : Misfit → String
  | .type found expected => "invalid type: " ++ describe found ++ ", expected " ++ expected.words
  | .range found expected => "invalid value: " ++ describe (.number found) ++ ", expected " ++ expected.words
  | .field name known => "unknown field " ++ ticked name ++ ", " ++ oneOf known
  | .excess count => "invalid length " ++ Decimal.ofNat count ++ ", expected fewer elements in array"

end Json

end Tether
