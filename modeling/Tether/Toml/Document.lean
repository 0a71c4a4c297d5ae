import Tether.Toml.Number
import Tether.Toml.Table
import Tether.Toml.Text

namespace Tether

/-! # TOML text

Reads a document line by line: comments, headers, and keys with values. `Toml.parse` gives the table that the
document spells, or none where it is not TOML.
-/

namespace Toml

/-- Reads the items of an array from behind its bracket; a comma may follow the last. -/
def readArrayItems (readItem : Reader Toml) : Nat → Reader (List Toml)
  | 0 => failure
  | fuel + 1 => do
    readGap
    match ← readOptional (readChar ']') with
    | some () => pure []
    | none =>
      let item ← readItem
      readGap
      match ← readOptional (readChar ',') with
      | some () => return item :: (← readArrayItems readItem fuel)
      | none =>
        readChar ']'
        pure [item]

/-- Adds a value to a table under a path. -/
def addAt (path : List String) (v : Toml) (origin : TableOrigin) (entries : TomlTable) : Option TomlTable :=
  match path.reverse with
  | [] => none
  | key :: above =>
    TomlTable.modifyAt true (TomlTable.addValue (!above.isEmpty) key v) above.reverse origin entries

/-- Reads the entries of a table on one line, which have commas between them. -/
def readInlineEntries (readItem : Reader Toml) : Nat → TomlTable → Reader TomlTable
  | 0, _ => failure
  | fuel + 1, entries => do
    let path ← readPath
    readChar '='
    readBlanks
    let v ← readItem
    readBlanks
    let entries ← liftM (addAt path v .header entries)
    match ← readOptional (readChar ',') with
    | some () => readInlineEntries readItem fuel entries
    | none =>
      readChar '\x7d'
      pure entries

/-- Reads a table on one line from behind its brace. -/
def readInlineTable (readItem : Reader Toml) : Reader TomlTable := do
  readBlanks
  match ← readOptional (readChar '\x7d') with
  | some () => pure []
  | none => readInlineEntries readItem ((← get).length + 1) []

/-- Reads a value in which `depth` arrays and inline tables may still be opened. -/
def readValue (depth : Nat) : Reader Toml := fun cs =>
  match cs with
  | '"' :: _ => (.string <$> readString) cs
  | '\'' :: _ => (.string <$> readString) cs
  | '[' :: rest =>
    match depth with
    | 0 => none
    | depth + 1 => (.array <$> readArrayItems (readValue depth) (rest.length + 1)) rest
  | '\x7b' :: rest =>
    match depth with
    | 0 => none
    | depth + 1 => ((fun es => .table (TomlTable.toEntries es)) <$> readInlineTable (readValue depth)) rest
  | 't' :: _ => ((fun _ => .boolean true) <$> readWord "true".toList) cs
  | 'f' :: _ => ((fun _ => .boolean false) <$> readWord "false".toList) cs
  | 'i' :: _ => (.real <$> readSpecial) cs
  | 'n' :: _ => (.real <$> readSpecial) cs
  | c :: _ => if c = '+' || c = '-' || c.isDigit then readNumeric cs else none
  | [] => none

/-- A document so far: its table, and the path of the table that keys are added to. -/
structure Draft where
  entries : TomlTable := []
  path : List String := []

/-- Adds a value to the table whose header came last. -/
def Draft.add (d : Draft) (path : List String) (v : Toml) : Option Draft := do
  let entries ← TomlTable.modifyAt false (addAt path v) d.path .header d.entries
  pure { d with entries }

/-- Opens the table of a header with `enter`. -/
def Draft.enter (d : Draft) (path : List String)
    (enter : String → TableOrigin → TomlTable → Option TomlTable) : Option Draft :=
  match path.reverse with
  | [] => none
  | key :: above => do
    let entries ← TomlTable.modifyAt false (enter key) above.reverse .header d.entries
    pure ⟨entries, path⟩

/-- Reads a header, from behind `opening` brackets to its end of line. -/
def readHeader (closing : List Char) : Reader (List String) := do
  let path ← readPath
  readWord closing
  readRestOfLine
  pure path

/-- Reads a key with its value, to the end of line. -/
def readKeyValue : Reader (List String × Toml) := do
  let path ← readPath
  readChar '='
  readBlanks
  let v ← readValue (maxDepth - 1)
  readRestOfLine
  pure (path, v)

/-- Reads one line that is not empty. -/
def readLine (d : Draft) : Reader Draft := fun cs =>
  match cs with
  | '#' :: _ => (do readComment; readLineEnd; pure d : Reader Draft) cs
  | '\n' :: _ => (do readNewline; pure d : Reader Draft) cs
  | '\r' :: _ => (do readNewline; pure d : Reader Draft) cs
  | '[' :: '[' :: rest => (do liftM (d.enter (← readHeader [']', ']']) TomlTable.openNext) : Reader Draft) rest
  | '[' :: rest => (do liftM (d.enter (← readHeader [']']) TomlTable.openTable) : Reader Draft) rest
  | _ =>
    (do
      let (path, v) ← readKeyValue
      liftM (d.add path v) : Reader Draft) cs

/-- Reads the lines that are left. -/
def readLines : Nat → Draft → Reader Draft
  | 0, _ => failure
  | fuel + 1, d => do
    readBlanks
    if (← get).isEmpty then pure d
    else readLines fuel (← readLine d)

/-- The entries of the table that a text spells. A byte order mark may come first. -/
def parse (text : String) : Option (List (String × Toml)) := do
  let cs := match text.toList with
    | '\uFEFF' :: rest => rest
    | cs => cs
  let (d, _) ← readLines (cs.length + 1) {} cs
  pure (TomlTable.toEntries d.entries)

end Toml

end Tether
