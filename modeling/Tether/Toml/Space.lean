import Tether.Toml.Basic

namespace Tether

/-! # What stands between TOML values

Blanks, comments and the ends of lines. A line ends in a line feed, with or without a carriage return before
it, or at the end of the text.
-/

namespace Toml

/-- A blank within a line. -/
def isBlank (c : Char) : Bool := c = ' ' || c = '\t'

/-- A character that may stand in a comment. -/
def isShown (c : Char) : Bool := c = '\t' || 0x20 ≤ c.toNat && c.toNat != 0x7F

/-- Skips blanks. -/
def readBlanks : Reader Unit := modify (·.dropWhile isBlank)

/-- Takes the end of a line. -/
def readNewline : Reader Unit
  | '\n' :: cs => some ((), cs)
  | '\r' :: '\n' :: cs => some ((), cs)
  | _ => none

/-- Takes a comment, up to the end of its line. -/
def readComment : Reader Unit := do
  readChar '#'
  modify (·.dropWhile isShown)

/-- Takes the end of a line or of the text. -/
def readLineEnd : Reader Unit := do
  if !(← get).isEmpty then readNewline

/-- Takes what may follow a value on its line: blanks, a comment and the end. -/
def readRestOfLine : Reader Unit := do
  readBlanks
  let _ ← readOptional readComment
  readLineEnd

/-- Skips blanks, comments and ends of lines; a comment has an end of line. -/
def skipGap (inComment : Bool) : List Char → Option (List Char)
  | [] => if inComment then none else some []
  | '\n' :: cs => skipGap false cs
  | '\r' :: '\n' :: cs => skipGap false cs
  | c :: cs =>
    if inComment then if isShown c then skipGap true cs else none
    else if isBlank c then skipGap false cs
    else if c = '#' then skipGap true cs
    else some (c :: cs)

/-- Skips blanks, comments and ends of lines. -/
def readGap : Reader Unit := fun cs => (skipGap false cs).map ((), ·)

end Toml

end Tether
