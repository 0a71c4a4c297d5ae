import Tether.Json.Lexical

namespace Tether

/-! # JSON text as a tree

`Json.parse` reads a text that is one JSON value with blanks around it. Containers nest to a depth of
`Json.maxDepth`. Both kinds of containers are read by `Json.readSequence`, which folds a step over the
items between an opening character and its closing one; typed readers use the same fold.
-/

namespace Json

/-- Containers may nest this deep. -/
def maxDepth : Nat := 127

/-- A reader of the characters that are left. -/
abbrev Reader := StateT (List Char) (Except Fault)

/-- Reads past blanks and takes the first character that is none. -/
def nextChar : Reader Char := fun cs =>
  match skipBlanks cs with
  | [] => .error .truncated
  | c :: rest => .ok (c, rest)

/-- Reads what follows an item: further items behind commas, then the closing character. `fuel` bounds the
number of items and the number of characters is enough. -/
def readItems {σ : Type} (close : Char) (step : σ → Reader σ) :
    Nat → σ → List Char → Except Fault (σ × List Char)
  | 0, _, _ => .error .truncated
  | fuel + 1, state, cs =>
    match skipBlanks cs with
    | [] => .error .truncated
    | c :: rest =>
      if c = close then .ok (state, rest)
      else if c = ',' then
        match skipBlanks rest with
        | [] => .error .truncated
        | d :: more =>
          if d = close then .error .malformed
          else do
            let (state, rest) ← step state (d :: more)
            readItems close step fuel state rest
      else .error .malformed

/-- Folds a step over the items of a container from behind its opening character. -/
def readSequence {σ : Type} (close : Char) (step : σ → Reader σ) (state : σ) : Reader σ := fun cs =>
  match skipBlanks cs with
  | [] => .error .truncated
  | c :: rest =>
    if c = close then .ok (state, rest)
    else do
      let (state, after) ← step state (c :: rest)
      readItems close step (after.length + 1) state after

/-- Reads one more item; the last one comes first. -/
def readItem {α : Type} (read : Reader α) (items : List α) : Reader (List α) := (· :: items) <$> read

/-- Reads the items of a container from behind its opening character. -/
def readList {α : Type} (close : Char) (read : Reader α) : Reader (List α) :=
  List.reverse <$> readSequence close (readItem read) []

/-- Reads the key of a member. -/
def readKey : List Char → Except Fault (String × List Char)
  | '"' :: rest => readString rest
  | _ => .error .malformed

/-- Reads the colon between a key and its value. -/
def readColon (cs : List Char) : Except Fault (List Char) :=
  match skipBlanks cs with
  | [] => .error .truncated
  | ':' :: rest => .ok rest
  | _ => .error .malformed

/-- Reads a value that begins with `c` and has no parts. -/
def readScalar (c : Char) : Reader Json :=
  match c with
  | 'n' => fun cs => do .ok (.null, ← readWord "ull".toList cs)
  | 't' => fun cs => do .ok (.bool true, ← readWord "rue".toList cs)
  | 'f' => fun cs => do .ok (.bool false, ← readWord "alse".toList cs)
  | '"' => string <$> (readString ·)
  | '-' => number <$> (readNumber true ·)
  | _ => if c.isDigit then number <$> fun cs => readNumber false (c :: cs) else throw .malformed

/-- Reads a member with `read` for its value. -/
def readEntry (read : Reader Json) : Reader (String × Json) := fun cs => do
  let (key, cs) ← readKey cs
  let cs ← readColon cs
  let (value, cs) ← read cs
  .ok ((key, value), cs)

/-- Reads a value that begins with `c` and in which `depth` containers may still be opened. Objects are made
by `object` of their members in the order of the text. -/
def readFrom (object : List (String × Json) → Json) (depth : Nat) (c : Char) : Reader Json :=
  if c = '[' then
    match depth with
    | 0 => throw .malformed
    | depth + 1 => array <$> readList ']' (nextChar >>= readFrom object depth)
  else if c = '\x7b' then
    match depth with
    | 0 => throw .malformed
    | depth + 1 => object <$> readList '\x7d' (readEntry (nextChar >>= readFrom object depth))
  else readScalar c

/-- Reads a value in which `depth` containers may be opened, with objects made by `object`. -/
def readValueBy (object : List (String × Json) → Json) (depth : Nat) : Reader Json :=
  nextChar >>= readFrom object depth

/-- Reads a value with the members of its objects in ascending order of keys. -/
def readValue (depth : Nat) : Reader Json := readValueBy ofMembers depth

/-- Requires that only blanks are left. -/
def readEnd (cs : List Char) : Except Fault Unit :=
  if (skipBlanks cs).isEmpty then .ok () else .error .malformed

/-- The value that a text spells, with objects made by `object`. -/
def parseBy (object : List (String × Json) → Json) (text : String) : Except Fault Json := do
  let (value, rest) ← readValueBy object maxDepth text.toList
  readEnd rest
  .ok value

/-- The value that a text spells. -/
def parse (text : String) : Except Fault Json := parseBy ofMembers text

end Json

end Tether
