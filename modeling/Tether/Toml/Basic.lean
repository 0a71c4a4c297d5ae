import Tether.Binary64.Text
import Tether.Toml.Datetime

namespace Tether

/-! # TOML values

A TOML document is a table, and the values in it are of seven kinds.
-/

/-- A TOML value. -/
inductive Toml where
  | string (s : String)
  | integer (i : Int64)
  | real (x : Binary64)
  | boolean (b : Bool)
  | datetime (d : Datetime)
  | array (items : List Toml)
  | table (entries : List (String × Toml))
deriving Repr, Inhabited

namespace Toml

mutual

/-- Two values are the same. -/
def same : Toml → Toml → Bool
  | .string s, .string t => s = t
  | .integer i, .integer j => i = j
  | .real x, .real y => x = y
  | .boolean b, .boolean c => b = c
  | .datetime d, .datetime e => d = e
  | .array items, .array others => sameItems items others
  | .table entries, .table others => sameEntries entries others
  | _, _ => false

/-- Two arrays have the same items. -/
def sameItems : List Toml → List Toml → Bool
  | [], [] => true
  | v :: rest, w :: others => same v w && sameItems rest others
  | _, _ => false

/-- Two tables have the same entries in the same order. -/
def sameEntries : List (String × Toml) → List (String × Toml) → Bool
  | [], [] => true
  | (k, v) :: rest, (l, w) :: others => k = l && same v w && sameEntries rest others
  | _, _ => false

end

mutual

theorem same_iff : ∀ v w : Toml, same v w = true ↔ v = w
  | .string _, w => by cases w <;> simp [same]
  | .integer _, w => by cases w <;> simp [same]
  | .real _, w => by cases w <;> simp [same]
  | .boolean _, w => by cases w <;> simp [same]
  | .datetime _, w => by cases w <;> simp [same]
  | .array _, w => by cases w <;> simp [same, sameItems_iff]
  | .table _, w => by cases w <;> simp [same, sameEntries_iff]

theorem sameItems_iff : ∀ items others : List Toml, sameItems items others = true ↔ items = others
  | [], others => by cases others <;> simp [sameItems]
  | _ :: _, others => by cases others <;> simp [sameItems, same_iff, sameItems_iff]

theorem sameEntries_iff : ∀ entries others : List (String × Toml), sameEntries entries others = true ↔ entries = others
  | [], others => by cases others <;> simp [sameEntries]
  | (_, _) :: _, others => by cases others <;> simp [sameEntries, same_iff, sameEntries_iff, Prod.ext_iff]

end

instance : DecidableEq Toml := fun v w => decidable_of_iff _ (same_iff v w)

/-- A reader of the characters that are left; another way to read them may follow where it fails. -/
abbrev Reader := StateT (List Char) Option

/-- Takes the characters of a word. -/
def readWord : List Char → Reader Unit
  | [], cs => some ((), cs)
  | _ :: _, [] => none
  | w :: ws, c :: cs => if c = w then readWord ws cs else none

/-- Takes one character that `p` holds of. -/
def readOne (p : Char → Bool) : Reader Char
  | [] => none
  | c :: cs => if p c then some (c, cs) else none

/-- Takes the character `c`. -/
def readChar (c : Char) : Reader Unit := discard (readOne (· = c))

/-- Reads something or nothing. -/
def readOptional {α : Type} (read : Reader α) : Reader (Option α) :=
  (some <$> read) <|> pure none

end Toml

end Tether
