import Tether.Toml.Basic

namespace Tether

/-! # TOML tables while they are built

A table remembers how it came about, because that decides who may add to it. A header opens a table once; a
path passes through tables that exist or makes them; a dotted key adds only to tables that dotted keys or
headers of deeper tables have made. `TomlTable.modifyAt` is the one way into a table.
-/

/-- How a table came about. -/
inductive TableOrigin where
  /-- By its header, or as the document. -/
  | header
  /-- By the header of a table within it. -/
  | implied
  /-- By a dotted key. -/
  | dotted
deriving DecidableEq, Repr

/-- What a key of a table stands for. -/
inductive TomlItem where
  | value (v : Toml)
  | table (origin : TableOrigin) (entries : List (String × TomlItem))
  /-- Tables of one header, one after another. -/
  | tables (all : List (List (String × TomlItem)))
deriving Inhabited

/-- The entries of a table. -/
abbrev TomlTable := List (String × TomlItem)

namespace TomlTable

/-- Replaces the item of a key, or adds one at the end. -/
def put (key : String) (item : TomlItem) : TomlTable → TomlTable
  | [] => [(key, item)]
  | (k, old) :: rest => if k = key then (k, item) :: rest else (k, old) :: put key item rest

/-- Modifies the table at the end of a path from a table of this origin. A path of dotted keys makes tables that
are dotted and passes through none that has a header; a path of a header makes implied tables. Of several
tables under one header, a path leads into the last. -/
def modifyAt (byDots : Bool) (modify : TableOrigin → TomlTable → Option TomlTable) :
    List String → TableOrigin → TomlTable → Option TomlTable
  | [], origin, entries => modify origin entries
  | key :: path, _, entries =>
    match entries.lookup key with
    | none =>
      let origin := if byDots then .dotted else .implied
      (modifyAt byDots modify path origin []).map fun new => put key (.table origin new) entries
    | some (.value _) => none
    | some (.table origin inner) =>
      if byDots && origin = .header then none
      else (modifyAt byDots modify path origin inner).map fun new => put key (.table origin new) entries
    | some (.tables all) =>
      (modifyAt byDots modify path .header (all.getLastD [])).map fun new =>
        put key (.tables (all.dropLast ++ [new])) entries

/-- Adds a value under a new key. The table must be one that this path may add to: a dotted one exactly if
the path has dots. -/
def addValue (dots : Bool) (key : String) (v : Toml) (origin : TableOrigin) (entries : TomlTable) :
    Option TomlTable :=
  if decide (origin = .dotted) != dots then none
  else if (entries.lookup key).isSome then none
  else some (put key (.value v) entries)

/-- Opens a table that has no header yet. -/
def openTable (key : String) (_ : TableOrigin) (entries : TomlTable) : Option TomlTable :=
  match entries.lookup key with
  | none => some (put key (.table .header []) entries)
  | some (.table .implied inner) => some (put key (.table .header inner) entries)
  | some _ => none

/-- Opens one more table under a header that has had only such tables. -/
def openNext (key : String) (_ : TableOrigin) (entries : TomlTable) : Option TomlTable :=
  match entries.lookup key with
  | none => some (put key (.tables [[]]) entries)
  | some (.tables all) => some (put key (.tables (all ++ [[]])) entries)
  | some _ => none

end TomlTable

mutual

/-- The value of an item. -/
def TomlItem.toToml : TomlItem → Toml
  | .value v => v
  | .table _ entries => .table (TomlTable.toEntries entries)
  | .tables all => .array (TomlTable.toTables all)

/-- The values of a table's items. -/
def TomlTable.toEntries : List (String × TomlItem) → List (String × Toml)
  | [] => []
  | (key, item) :: rest => (key, item.toToml) :: TomlTable.toEntries rest

/-- The values of tables one after another. -/
def TomlTable.toTables : List (List (String × TomlItem)) → List Toml
  | [] => []
  | entries :: rest => .table (TomlTable.toEntries entries) :: TomlTable.toTables rest

end

end Tether
