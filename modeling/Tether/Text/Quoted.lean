import Tether.Text.Hex
import Tether.Text.Visible

namespace Tether

/-! # Quoted text

Diagnostics show a text between double quotes with escapes for what a reader could not see or tell apart:
quotes, backslashes, line breaks, and every character that shows nothing of its own or attaches to the
one before it.
-/

namespace Quoted

/-- The escape `\u` with the code point in braces. -/
def codeEscape (c : Char) : List Char := "\\u\x7b".toList ++ (Hex.ofNat c.toNat).toList ++ ['\x7d']

/-- One character as it stands inside quotes. -/
def encodeChar (c : Char) : List Char :=
  if c = '\x00' then "\\0".toList
  else if c = '\t' then "\\t".toList
  else if c = '\r' then "\\r".toList
  else if c = '\n' then "\\n".toList
  else if c = '"' then "\\\"".toList
  else if c = '\\' then "\\\\".toList
  else if Visible.isAttaching c || Visible.isBlank c then codeEscape c
  else [c]

end Quoted

/-- A text in double quotes, with escapes. -/
def quoted (s : String) : String :=
  String.ofList ('"' :: s.toList.flatMap Quoted.encodeChar ++ ['"'])

/-- A list of shown items in brackets. -/
def bracketed (items : List String) : String := "[" ++ ", ".intercalate items ++ "]"

/-- A list of texts, each quoted. -/
def quotedList (items : List String) : String := bracketed (items.map quoted)

end Tether
