import Tether.Text.Quoted

namespace Tether

/-! # Records as text

Diagnostics show a value by the name of its type and its fields. An open record has fields that are not shown.
-/

namespace Record

/-- A field and its value. -/
def field (f : String × String) : String := f.1 ++ ": " ++ f.2

/-- A record with all its fields. -/
def text (name : String) (fields : List (String × String)) : String :=
  name ++ " \x7b " ++ ", ".intercalate (fields.map field) ++ " \x7d"

/-- A record with fields that are not shown. -/
def openText (name : String) (fields : List (String × String)) : String :=
  name ++ " \x7b " ++ ", ".intercalate (fields.map field ++ [".."]) ++ " \x7d"

/-- A value in the parentheses of a name. -/
def applied (name value : String) : String := name ++ "(" ++ value ++ ")"

/-- A value that may be missing. -/
def optional : Option String → String
  | none => "None"
  | some value => applied "Some" value

/-- A truth value. -/
def flag (b : Bool) : String := if b then "true" else "false"

end Record

end Tether
