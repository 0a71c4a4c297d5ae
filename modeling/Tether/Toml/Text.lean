import Tether.Text.Hex
import Tether.Toml.Space

namespace Tether

/-! # TOML strings and keys

A basic string has escapes and a literal one has none; either may stand between three quotes and then go over
several lines. A key is bare or a string on one line, and keys between dots make a path.
-/

namespace Toml

/-- The character of a one-letter escape. -/
def escaped? (c : Char) : Option Char :=
  if c = 'b' then some '\x08'
  else if c = 't' then some '\t'
  else if c = 'n' then some '\n'
  else if c = 'f' then some '\x0c'
  else if c = 'r' then some '\r'
  else if c = '"' then some '"'
  else if c = '\\' then some '\\'
  else none

/-- The character of a code point that is one. -/
def ofCode? (n : Nat) : Option Char := if n.isValidChar then some (Char.ofNat n) else none

/-- The character of `count` digits. -/
def ofDigits? (count : Nat) (cs : List Char) : Option Char :=
  if (cs.take count).length = count then (Hex.digitsFrom? 0 (cs.take count)).bind ofCode? else none

/-- The character of the escape behind a backslash, and how many characters the escape takes. -/
def escape? : List Char → Option (Char × Nat)
  | [] => none
  | 'u' :: cs => (ofDigits? 4 cs).map (·, 5)
  | 'U' :: cs => (ofDigits? 8 cs).map (·, 9)
  | c :: _ => (escaped? c).map (·, 1)

/-- Reads a basic string on one line from behind its quote. -/
def basicChars : List Char → Option (List Char × List Char)
  | [] => none
  | '"' :: cs => some ([], cs)
  | '\\' :: cs => do
    let (c, width) ← escape? cs
    let (text, rest) ← basicChars (cs.drop width)
    some (c :: text, rest)
  | c :: cs =>
    if isShown c then do
      let (text, rest) ← basicChars cs
      some (c :: text, rest)
    else none
termination_by cs => cs.length
decreasing_by all_goals simp only [List.length_cons, List.length_drop]; omega

/-- Reads a literal string on one line from behind its quote. -/
def literalChars : List Char → Option (List Char × List Char)
  | [] => none
  | '\'' :: cs => some ([], cs)
  | c :: cs =>
    if isShown c then do
      let (text, rest) ← literalChars cs
      some (c :: text, rest)
    else none

/-- Reads the end of a string over several lines: three quotes, with up to two more before them. -/
def closing? (quote : Char) : List Char → Option (List Char × List Char)
  | a :: b :: c :: cs =>
    if a = quote ∧ b = quote ∧ c = quote then
      match cs with
      | d :: e :: rest =>
        if d = quote ∧ e = quote then some ([quote, quote], rest)
        else if d = quote then some ([quote], e :: rest)
        else some ([], cs)
      | [d] => if d = quote then some ([quote], []) else some ([], cs)
      | [] => some ([], cs)
    else none
  | _ => none

/-- A backslash before this joins the line to what follows its blanks and those of the lines after it. -/
def endsLine (cs : List Char) : Bool := (readNewline (cs.dropWhile isBlank)).isSome

/-- Reads a basic string over several lines from behind its quotes. Blanks and ends of lines are left out where
lines are `joining`. -/
def basicLines (joining : Bool) (cs : List Char) : Option (List Char × List Char) :=
  match closing? '"' cs with
  | some end? => some end?
  | none =>
    match cs with
    | [] => none
    | '\n' :: cs => if joining then basicLines true cs else push '\n' (basicLines false cs)
    | '\r' :: '\n' :: cs => if joining then basicLines true cs else push '\n' (basicLines false cs)
    | '\\' :: cs =>
      if endsLine cs then basicLines true cs
      else
        match escape? cs with
        | none => none
        | some (c, width) => push c (basicLines false (cs.drop width))
    | c :: cs =>
      if joining && isBlank c then basicLines true cs
      else if isShown c then push c (basicLines false cs)
      else none
termination_by cs.length
decreasing_by all_goals simp only [List.length_cons, List.length_drop]; omega
where
  /-- Puts a character before what was read. -/
  push (c : Char) (r : Option (List Char × List Char)) : Option (List Char × List Char) :=
    r.map fun p => (c :: p.1, p.2)

/-- Reads a literal string over several lines from behind its quotes. -/
def literalLines (cs : List Char) : Option (List Char × List Char) :=
  match closing? '\'' cs with
  | some end? => some end?
  | none =>
    match cs with
    | [] => none
    | '\n' :: cs => (literalLines cs).map fun p => ('\n' :: p.1, p.2)
    | '\r' :: '\n' :: cs => (literalLines cs).map fun p => ('\n' :: p.1, p.2)
    | c :: cs => if isShown c then (literalLines cs).map fun p => (c :: p.1, p.2) else none
termination_by cs.length

/-- An end of line right behind the opening quotes does not count. -/
def skipFirstNewline (cs : List Char) : List Char :=
  match readNewline cs with
  | some (_, rest) => rest
  | none => cs

/-- Reads a string on one line. -/
def readLineString : Reader String
  | '"' :: cs => (basicChars cs).map fun p => (String.ofList p.1, p.2)
  | '\'' :: cs => (literalChars cs).map fun p => (String.ofList p.1, p.2)
  | _ => none

/-- Reads any string. -/
def readString : Reader String
  | '"' :: '"' :: '"' :: cs => (basicLines false (skipFirstNewline cs)).map fun p => (String.ofList p.1, p.2)
  | '\'' :: '\'' :: '\'' :: cs => (literalLines (skipFirstNewline cs)).map fun p => (String.ofList p.1, p.2)
  | cs => readLineString cs

/-- A character of a bare key. -/
def isBare (c : Char) : Bool := c.isAlphanum || c = '_' || c = '-'

/-- Reads a key. -/
def readKey : Reader String := fun cs =>
  match cs with
  | '"' :: _ => readLineString cs
  | '\'' :: _ => readLineString cs
  | _ =>
    let bare := cs.takeWhile isBare
    if bare.isEmpty then none else some (String.ofList bare, cs.dropWhile isBare)

/-- A path has fewer parts than this. -/
def maxDepth : Nat := 80

/-- Reads the parts of a path that are left, `count` at most. -/
def readParts : Nat → Reader (List String)
  | 0 => failure
  | count + 1 => do
    readBlanks
    let key ← readKey
    readBlanks
    match ← readOptional (readChar '.') with
    | none => pure [key]
    | some () => return key :: (← readParts count)

/-- Reads a path: keys between dots. -/
def readPath : Reader (List String) := readParts (maxDepth - 1)

end Toml

end Tether
